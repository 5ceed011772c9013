-- The laws of the point estimate over a sequence of calls: the units are read once and kept, the
-- declared value is read at the first call that returns one, the best estimate is the last, and the
-- ratio books hold exactly the calls that return a value with a nonzero cross section.
import FluxAverage.Proofs.Process

namespace FluxAverage

namespace Accumulator

variable {α : Type} [Scalar α]

theorem strategy_ne_dummy_process {acc : Accumulator α} (hs : acc.strategy ≠ .dummy) (r : Run)
    (e : Event) : (acc.process r e).1.strategy ≠ .dummy := by
  rw [(process_keeps acc r e).1]; exact hs

/-! ## The units -/

/-- Outside the counting strategy, units once settled stay; while they are automatic, a run of
calls settles them to the units of the first counted call whose run's units can be read. -/
theorem runAll_nativeUnits {acc : Accumulator α} (hs : acc.strategy ≠ .dummy)
    (calls : List (Run × Event)) :
    (acc.runAll calls).nativeUnits =
      if acc.nativeUnits.isAutomatic then
        (calls.findSome? fun c =>
          if (acc.counted c.2).isSome then c.1.nativeUnits.toOption else none).getD acc.nativeUnits
      else acc.nativeUnits := by
  induction calls generalizing acc with
  | nil => split <;> rfl
  | cons c calls ih =>
    obtain ⟨r, e⟩ := c
    rw [runAll_cons, ih (strategy_ne_dummy_process hs r e), counted_process,
      process_nativeUnits r e hs]
    cases hc : acc.counted e with
    | none => simp [hc]
    | some p =>
      cases hauto : acc.nativeUnits.isAutomatic with
      | false => simp [hauto]
      | true =>
        cases hr : r.nativeUnits with
        | error err => simp [hauto, hr, Except.toOption]
        | ok u =>
          -- the run's units are standard, so they are settled for good
          have hu : u.isAutomatic = false :=
            UnitSystem.isAutomatic_eq_false (Run.nativeUnits_concrete hr)
          simp [hc, hr, hu, Except.toOption]

/-! ## The declared value -/

theorem process_declared_some {acc : Accumulator α} {x : α} (he : acc.estimator = .declared (some x))
    (r : Run) (e : Event) : (acc.process r e).1.estimator = .declared (some x) := by
  cases ho : (acc.process r e).2 with
  | error err => rw [process_error ho, he]
  | ok v =>
    have hs : acc.strategy ≠ .dummy := by simp [strategy, he, Estimator.strategy]
    obtain ⟨t, a, -, ha, -, -, hb⟩ := process_ok hs ho
    rw [bookkeep_declared_some (ha.trans he)] at hb
    cases hb
    exact ha.trans he

theorem runAll_declared_some {acc : Accumulator α} {x : α} (he : acc.estimator = .declared (some x))
    (calls : List (Run × Event)) : (acc.runAll calls).estimator = .declared (some x) := by
  induction calls generalizing acc with
  | nil => exact he
  | cons c calls ih => exact ih (process_declared_some he c.1 c.2)

theorem process_declared_none {acc : Accumulator α} {r : Run} {e : Event} {v : α}
    (he : acc.estimator = .declared none) (ho : (acc.process r e).2 = .ok v) :
    ∃ y, r.declaredFatx = .ok y ∧
      (acc.process r e).1.estimator = .declared (some (Scalar.ofFloat y)) := by
  have hs : acc.strategy ≠ .dummy := by simp [strategy, he, Estimator.strategy]
  obtain ⟨t, a, -, ha, -, -, hb⟩ := process_ok hs ho
  exact bookkeep_declared_none (ha.trans he) hb

/-- The declared value is the one of the run of the first call that returns a value. -/
theorem runAll_declared_none {acc : Accumulator α} (he : acc.estimator = .declared none)
    (calls : List (Run × Event)) :
    (acc.runAll calls).pointEstimate =
      match (acc.trace calls).find? (·.2.isOk) with
      | some ((r, _), _) => Scalar.ofFloat <$> r.declaredFatx
      | none => .error (.notYetInitialized "declared flux-averaged total cross section") := by
  induction calls generalizing acc with
  | nil => simp [trace, pointEstimate, he]
  | cons c calls ih =>
    obtain ⟨r, e⟩ := c
    rw [runAll_cons]
    cases ho : (acc.process r e).2 with
    | error err =>
      rw [ih ((process_error ho).trans he)]
      simp [trace, ho, Except.isOk, Except.toBool]
    | ok v =>
      obtain ⟨y, hy, hest⟩ := process_declared_none he ho
      simp [trace, ho, pointEstimate, runAll_declared_some hest, hy, Functor.map, Except.map,
        Except.isOk, Except.toBool]

/-! ## The best estimate -/

/-- A call that returns a value keeps its event's best estimate; a failing one keeps the last. -/
theorem process_bestEstimate {acc : Accumulator α} {b : Option α}
    (he : acc.estimator = .bestEstimate b) (r : Run) (e : Event) :
    (acc.process r e).1.estimator =
      match (acc.process r e).2 with
      | .ok _ => .bestEstimate ((Scalar.ofFloat <$> e.bestEstimate (acc.cvWeightIndex.getD 0)).toOption)
      | .error _ => .bestEstimate b := by
  cases ho : (acc.process r e).2 with
  | error err => rw [process_error ho, he]
  | ok v =>
    have hs : acc.strategy ≠ .dummy := by simp [strategy, he, Estimator.strategy]
    obtain ⟨t, a, -, ha, hi, -, hb⟩ := process_ok hs ho
    obtain ⟨y, hy, hest⟩ := bookkeep_bestEstimate (ha.trans he) hb
    rw [hi] at hy
    simp [hest, hy, Functor.map, Except.map, Except.toOption]

/-- The best estimate is that of the event of the last call that returns a value, read in the
central-value slot; before any, it is the one the accumulator started with. -/
theorem runAll_bestEstimate {acc : Accumulator α} {b : Option α}
    (he : acc.estimator = .bestEstimate b) (calls : List (Run × Event)) :
    (acc.runAll calls).pointEstimate =
      match ((acc.trace calls).filter (·.2.isOk)).getLast? with
      | some ((_, e), _) => Scalar.ofFloat <$> e.bestEstimate (acc.cvWeightIndex.getD 0)
      | none => acc.pointEstimate := by
  induction calls generalizing acc b with
  | nil => simp [trace]
  | cons c calls ih =>
    obtain ⟨r, e⟩ := c
    have hest := process_bestEstimate he r e
    have hi := (process_keeps acc r e).2
    rw [runAll_cons]
    cases ho : (acc.process r e).2 with
    | error err =>
      rw [ho] at hest
      rw [ih hest, hi]
      simp [trace, ho, pointEstimate, hest, he, Except.isOk, Except.toBool]
    | ok v =>
      rw [ho] at hest
      rw [ih hest, hi]
      -- the later calls decide if one of them returns a value, else this call does
      have hbest : ∃ y, e.bestEstimate (acc.cvWeightIndex.getD 0) = .ok y := by
        have hs : acc.strategy ≠ .dummy := by simp [strategy, he, Estimator.strategy]
        obtain ⟨t, a, -, ha, hia, -, hb⟩ := process_ok hs ho
        obtain ⟨y, hy, -⟩ := bookkeep_bestEstimate (ha.trans he) hb
        exact ⟨y, hia ▸ hy⟩
      obtain ⟨y, hy⟩ := hbest
      have htr : (acc.trace ((r, e) :: calls)).filter (·.2.isOk) =
          ((r, e), .ok v) :: ((acc.process r e).1.trace calls).filter (·.2.isOk) := by
        simp only [trace, ho, List.filter_cons, Except.isOk, Except.toBool, if_true]
      rw [htr, List.getLast?_cons]
      cases hl : (((acc.process r e).1.trace calls).filter (·.2.isOk)).getLast? with
      | some q => rfl
      | none =>
        simp [pointEstimate, hest, hy, Functor.map, Except.map, Except.toOption]

/-! ## The ratio books -/

/-- What a call adds to the ratio books: its species, weight and cross section, when it returns
a value and its cross section is not zero. -/
def ratioTerm (acc : Accumulator α) : (Run × Event) × Except Error α → Option (Species × α × α)
  | ((_, e), .ok _) =>
    match acc.counted e, e.totalCrossSection with
    | some (t, w), .ok xs =>
      if Scalar.eq (Scalar.ofFloat xs : α) Scalar.zero then none else some (t, w, Scalar.ofFloat xs)
    | _, _ => none
  | (_, .error _) => none

/-- The terms a sequence of calls adds to the ratio books, in order. -/
def ratioTerms (acc : Accumulator α) (calls : List (Run × Event)) : List (Species × α × α) :=
  (acc.trace calls).filterMap acc.ratioTerm

theorem ratioTerm_process (acc : Accumulator α) (r : Run) (e : Event) :
    (acc.process r e).1.ratioTerm = acc.ratioTerm := by
  funext c
  obtain ⟨⟨r', e'⟩, o⟩ := c
  cases o <;> simp [ratioTerm, counted_process]

/-- A call adds its term to the ratio books, if it has one, and leaves them as they were else. -/
theorem process_ratio {acc : Accumulator α} {b : RatioBooks α} (he : acc.estimator = .ratio b)
    (r : Run) (e : Event) :
    (acc.process r e).1.estimator =
      .ratio (match acc.ratioTerm ((r, e), (acc.process r e).2) with
        | none => b
        | some (t, w, xs) => b.record t w xs) := by
  cases ho : (acc.process r e).2 with
  | error err => rw [process_error ho, he]; rfl
  | ok v =>
    have hs : acc.strategy ≠ .dummy := by simp [strategy, he, Estimator.strategy]
    obtain ⟨t, a, hc, ha, -, -, hb⟩ := process_ok hs ho
    obtain ⟨xs, hxs, hest⟩ := bookkeep_ratio (ha.trans he) hb
    rw [hest]
    simp only [ratioTerm, hc, hxs]
    split <;> rfl

/-- The four ratio books of a run go on with the terms of its calls, in order. -/
theorem runAll_ratio {acc : Accumulator α} {b : RatioBooks α} (he : acc.estimator = .ratio b)
    (calls : List (Run × Event)) :
    ∃ b', (acc.runAll calls).estimator = .ratio b' ∧
      b'.weight = b.weight.addAll ((acc.ratioTerms calls).map (·.2.1)) ∧
      b'.weights = b.weights.recordAll ((acc.ratioTerms calls).map fun (t, w, _) => (t, w)) ∧
      b'.reciprocal = b.reciprocal.addAll ((acc.ratioTerms calls).map fun (_, w, xs) => w / xs) ∧
      b'.reciprocals =
        b.reciprocals.recordAll ((acc.ratioTerms calls).map fun (t, w, xs) => (t, w / xs)) := by
  induction calls generalizing acc b with
  | nil => exact ⟨b, he, rfl, rfl, rfl, rfl⟩
  | cons c calls ih =>
    obtain ⟨r, e⟩ := c
    obtain ⟨b', hb', h1, h2, h3, h4⟩ := ih (process_ratio he r e)
    refine ⟨b', by rw [runAll_cons]; exact hb', ?_⟩
    simp only [ratioTerms, ratioTerm_process] at h1 h2 h3 h4
    simp only [ratioTerms, trace, List.filterMap_cons]
    cases ht : acc.ratioTerm ((r, e), (acc.process r e).2) with
    | none =>
      simp only [ht] at h1 h2 h3 h4
      exact ⟨h1, h2, h3, h4⟩
    | some p =>
      obtain ⟨t, w, xs⟩ := p
      simp only [ht] at h1 h2 h3 h4
      exact ⟨h1, h2, h3, h4⟩

theorem fatx_native {acc : Accumulator α} {x : α} (hs : acc.strategy ≠ .dummy)
    (hauto : acc.nativeUnits.isAutomatic = false) (hx : acc.pointEstimate = .ok x) :
    acc.fatx acc.nativeUnits = .ok x := by
  simp [fatx, hs, hauto, hx]

/-! ## Sequences from a fresh accumulator -/

/-- From a fresh estimating accumulation, the units are those of the first counted call whose run
declares readable units, and the estimate follows the calls that return a value: the first run's
declared value, the last event's best estimate, or the ratio books of their terms. -/
theorem estimate_follows_the_successful_calls (s : Strategy) (hs : s ≠ .dummy) (i : Option Nat)
    (calls : List (Run × Event)) :
    let start : Accumulator α := new s i
    let acc := start.runAll calls
    let tr := start.trace calls
    acc.nativeUnits = (calls.findSome? fun c =>
        if (start.counted c.2).isSome then c.1.nativeUnits.toOption else none).getD .automatic ∧
    (acc.nativeUnits = .automatic ∨ acc.nativeUnits.isConcrete) ∧
    (∀ more, acc.nativeUnits.isAutomatic = false →
      (acc.runAll more).nativeUnits = acc.nativeUnits) ∧
    (match s with
      | .declared => acc.pointEstimate =
        match tr.find? (·.2.isOk) with
        | some ((r, _), _) => Scalar.ofFloat <$> r.declaredFatx
        | none => .error (.notYetInitialized "declared flux-averaged total cross section")
      | .bestEstimate => acc.pointEstimate =
        match (tr.filter (·.2.isOk)).getLast? with
        | some ((_, e), _) => Scalar.ofFloat <$> e.bestEstimate (i.getD 0)
        | none => .error (.notYetInitialized "best-estimate cross section")
      | .ratio =>
        let S := start.ratioTerms calls
        ∃ b, acc.estimator = .ratio b ∧
          b.weight = KahanSum.ofList (S.map (·.2.1)) ∧
          (∀ t, b.weights.get? t = Ledger.tally (S.map fun (t, w, _) => (t, w)) t) ∧
          b.reciprocal = KahanSum.ofList (S.map fun (_, w, xs) => w / xs) ∧
          (∀ t, b.reciprocals.get? t = Ledger.tally (S.map fun (t, w, xs) => (t, w / xs)) t) ∧
          (acc.pointEstimate.isOk ↔ S ≠ [])
      | .dummy => True) ∧
    ∀ x, acc.nativeUnits.isAutomatic = false → acc.pointEstimate = .ok x →
      acc.fatx acc.nativeUnits = .ok x := by
  intro start acc tr
  have hstart : start.strategy ≠ .dummy := by simpa [start] using hs
  have hacc : acc.strategy ≠ .dummy := by rw [(runAll_keeps start calls).1]; exact hstart
  have hunits := runAll_nativeUnits hstart calls
  simp only [show start.nativeUnits.isAutomatic = true from rfl, if_true] at hunits
  refine ⟨hunits, ?_, fun more hauto => ?_, ?_, fun x hauto hx => fatx_native hacc hauto hx⟩
  · rw [hunits]
    cases hf : calls.findSome? fun c =>
        if (start.counted c.2).isSome then c.1.nativeUnits.toOption else none with
    | none => exact .inl rfl
    | some u =>
      obtain ⟨c, -, hc⟩ := List.exists_of_findSome?_eq_some hf
      split at hc
      · cases hr : c.1.nativeUnits with
        | error err => simp [hr, Except.toOption] at hc
        | ok u' =>
          simp only [hr, Except.toOption, Option.some.injEq] at hc
          subst hc
          exact .inr (Run.nativeUnits_concrete hr)
      · cases hc
  · rw [runAll_nativeUnits hacc more, hauto]; rfl
  · cases s with
    | declared => exact runAll_declared_none rfl calls
    | bestEstimate => exact runAll_bestEstimate rfl calls
    | ratio =>
      obtain ⟨b, hb, h1, h2, h3, h4⟩ :=
        runAll_ratio (show start.estimator = .ratio RatioBooks.empty from rfl) calls
      refine ⟨b, hb, h1, fun t => ?_, h3, fun t => ?_, ?_⟩
      · rw [h2]; exact Ledger.get?_recordAll_empty _ t
      · rw [h4]; exact Ledger.get?_recordAll_empty _ t
      · have hempty : (RatioBooks.empty : RatioBooks α).reciprocals.isEmpty = true := rfl
        simp only [acc, hb, pointEstimate, h4, Ledger.isEmpty_recordAll, hempty, Bool.true_and,
          List.isEmpty_iff, List.map_eq_nil_iff]
        split <;> simp_all [Except.isOk, Except.toBool]
    | dummy => trivial

/-- One counted call whose run declares no units settles them to picobarns per target. -/
theorem one_call_settles_default_units :
    Strategy.bestEstimate ≠ .dummy ∧
      ((new .bestEstimate none : Accumulator Float).runAll
        [(Run.new, ((Event.new 0).withTarget ⟨1000060120⟩).withCrossSection [2.5])]).nativeUnits =
          .pbPerTarget :=
  ⟨by decide, (estimate_follows_the_successful_calls .bestEstimate (by decide) none
    [(Run.new, ((Event.new 0).withTarget ⟨1000060120⟩).withCrossSection [2.5])]).1.trans rfl⟩

end Accumulator

end FluxAverage
