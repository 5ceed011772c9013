-- What the ratio strategy's answers read: the units and the ratio books only. A call whose cross
-- section is zero, of either sign, is counted but enters no book the answer reads, so in binary64
-- it leaves every answer as it was, to the bit.
import FluxAverage.Proofs.Request

namespace FluxAverage

namespace Accumulator

variable {α : Type}

theorem estimator_of_strategy_ratio {a : Accumulator α} (hs : a.strategy = .ratio) :
    ∃ b, a.estimator = .ratio b := by
  cases h : a.estimator with
  | ratio b => exact ⟨b, rfl⟩
  | _ => simp [strategy, h, Estimator.strategy] at hs

variable [Scalar α]

/-- The ratio strategy's point estimate and answers need only its books and its units. -/
theorem fatx_congr_ratio {a a' : Accumulator α} (hs : a.strategy = .ratio)
    (he : a.estimator = a'.estimator) (hn : a.nativeUnits = a'.nativeUnits) (u : UnitSystem) :
    a.fatx u = a'.fatx u := by
  have hs' : a'.strategy = .ratio := by rw [← hs]; simp [strategy, he]
  obtain ⟨b, hb⟩ := estimator_of_strategy_ratio hs
  have hb' : a'.estimator = .ratio b := he ▸ hb
  simp only [fatx, hs, hs', hn, pointEstimate_congr he, hb, hb']

/-- With the units settled, a ratio call whose weight and target read and whose cross section
reads as zero returns its weight and is counted, and changes nothing else. -/
theorem process_zero_cross_section {acc : Accumulator α} (hs : acc.strategy = .ratio)
    (hauto : acc.nativeUnits.isAutomatic = false) (r : Run) {e : Event} {t : Species} {w : α}
    {xs : Float} (hw : acc.centralWeight e = .ok w) (ht : e.targetSpecies = .ok t)
    (hxs : e.totalCrossSection = .ok xs) (hz : Scalar.eq (Scalar.ofFloat xs : α) Scalar.zero) :
    acc.process r e = (acc.record t w, .ok w) := by
  obtain ⟨b, hb⟩ := estimator_of_strategy_ratio hs
  have hunits : (acc.record t w).resolveUnits r = .ok (acc.record t w) := by
    simp [resolveUnits, hauto]
  have hbook : (acc.record t w).bookkeep r e t w = .ok (acc.record t w) := by
    simp [bookkeep, hb, hxs, hz, Functor.map, Except.map]
  simp [process, hb, hw, ht, hunits, hbook]

end Accumulator

/-- In binary64 the ratio strategy's answers read only its units and ratio books, so a settled
call with a zero cross section of either sign is counted and changes no answer. -/
theorem zero_cross_sections_leave_ratio_answers :
    (∀ (a a' : Accumulator Float), a.strategy = .ratio → a.estimator = a'.estimator →
      a.nativeUnits = a'.nativeUnits → ∀ u, a.fatx u = a'.fatx u) ∧
    ∀ (acc : Accumulator Float) (r : Run) (e : Event) (t : Species) (w xs : Float),
      acc.strategy = .ratio → acc.nativeUnits.isAutomatic = false →
      acc.centralWeight e = .ok w → e.targetSpecies = .ok t → e.totalCrossSection = .ok xs →
      (xs = 0.0 ∨ xs = -0.0) →
      acc.process r e = (acc.record t w, .ok w) ∧
      (∀ u, (acc.process r e).1.fatx u = acc.fatx u) ∧
      (acc.process r e).1.reciprocals? = acc.reciprocals? := by
  refine ⟨fun a a' hs he hn u => Accumulator.fatx_congr_ratio hs he hn u,
    fun acc r e t w xs hs hauto hw ht hxs hzero => ?_⟩
  have hz : Scalar.eq (Scalar.ofFloat xs : Float) Scalar.zero := by
    rcases hzero with rfl | rfl <;> decide +kernel
  have hp := Accumulator.process_zero_cross_section hs hauto r hw ht hxs hz
  refine ⟨hp, fun u => ?_, ?_⟩
  · have hrec : (acc.record t w).strategy = .ratio := by simpa using hs
    rw [hp]
    exact Accumulator.fatx_congr_ratio hrec (Accumulator.record_estimator acc t w)
      (Accumulator.record_nativeUnits acc t w) u
  · rw [hp]
    rfl

/-- A binary64 ratio accumulation of one event on carbon 12 at 2 pb, then an event on carbon 12
at `-0.0`: the second call returns its weight one, is counted, and leaves the answers and the
reciprocal ledger as they were. -/
theorem negative_zero_cross_section_is_counted_only :
    let acc : Accumulator Float := (Accumulator.new .ratio none).runAll
      [(Run.new, ((Event.new 0).withTarget ⟨1000060120⟩).withAttribute "TotXS" (.double 2.0))]
    let e := ((Event.new 1).withTarget ⟨1000060120⟩).withAttribute "TotXS" (.double (-0.0))
    acc.strategy = .ratio ∧ acc.nativeUnits.isAutomatic = false ∧ acc.centralWeight e = .ok 1 ∧
      e.targetSpecies = .ok ⟨1000060120⟩ ∧ e.totalCrossSection = .ok (-0.0) ∧
      acc.process Run.new e = (acc.record ⟨1000060120⟩ 1, .ok 1) ∧
      (∀ u, (acc.process Run.new e).1.fatx u = acc.fatx u) ∧
      (acc.process Run.new e).1.reciprocals? = acc.reciprocals? := by
  intro acc e
  have hs : acc.strategy = .ratio := rfl
  have hauto : acc.nativeUnits.isAutomatic = false := by decide +kernel
  have hw : acc.centralWeight e = .ok 1 := rfl
  have ht : e.targetSpecies = .ok ⟨1000060120⟩ := rfl
  have hxs : e.totalCrossSection = .ok (-0.0) := rfl
  exact ⟨hs, hauto, hw, ht, hxs, zero_cross_sections_leave_ratio_answers.2 acc Run.new e
    ⟨1000060120⟩ 1 (-0.0) hs hauto hw ht hxs (.inr rfl)⟩

end FluxAverage
