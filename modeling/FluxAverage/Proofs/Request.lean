-- What a request for the cross section gives in every state an estimating strategy reaches.
-- Units once read are standard, and an estimate is only made in read units after a counted
-- call, so a request fails only while it is not ready or when it cannot be converted.
import FluxAverage.Proofs.Estimate
import FluxAverage.Proofs.Conversion

namespace FluxAverage

section Outcome

variable {α : Type}

theorem map_unit_eq_ok {x : Except Error α} (h : x.map (fun _ => ()) = .ok ()) :
    ∃ v, x = .ok v := by
  cases x with
  | error err => cases h
  | ok v => exact ⟨v, rfl⟩

theorem map_unit_eq_error {x : Except Error α} {err : Error}
    (h : x.map (fun _ => ()) = .error err) : x = .error err := by
  cases x with
  | error err' => cases h; rfl
  | ok v => cases h

end Outcome

namespace Accumulator

variable {α : Type} [Scalar α]

/-! ## The books a conversion reads -/

/-- The total weight a change of normalisation shares the estimate by: the ratio books' own
weight for the ratio strategy, the summed weight for the others. -/
def conversionWeight (acc : Accumulator α) : α :=
  match acc.estimator with
  | .ratio b => b.weight.value
  | _ => acc.sumweights

/-- The weight of each species a change of normalisation shares the estimate by. -/
def conversionWeights (acc : Accumulator α) : Ledger α :=
  match acc.estimator with
  | .ratio b => b.weights
  | _ => acc.weights

/-- The ledger whose species a change of normalisation sums over. -/
def conversionLedger (acc : Accumulator α) : Ledger α :=
  match acc.estimator with
  | .ratio b => b.reciprocals
  | _ => acc.weights

theorem pointEstimate_congr {a b : Accumulator α} (h : a.estimator = b.estimator) :
    a.pointEstimate = b.pointEstimate := by
  simp only [pointEstimate, h]

/-- The point estimate is missing only as not yet there. -/
theorem pointEstimate_error {acc : Accumulator α} {err : Error}
    (h : acc.pointEstimate = .error err) : ∃ m, err = .notYetInitialized m := by
  unfold pointEstimate at h
  split at h
  · cases h
  · cases h; exact ⟨_, rfl⟩
  · cases h
  · cases h; exact ⟨_, rfl⟩
  · split at h
    · cases h; exact ⟨_, rfl⟩
    · cases h
  · cases h

theorem pointEstimate_new {s : Strategy} (hs : s ≠ .dummy) (i : Option Nat) :
    (new s i : Accumulator α).pointEstimate.isOk = false := by
  cases s with
  | declared | bestEstimate | ratio => rfl
  | dummy => exact absurd rfl hs

/-! ## The invariant of the estimating strategies -/

/-- What every state reached from a fresh accumulation of an estimating strategy satisfies. -/
structure Consistent (acc : Accumulator α) : Prop where
  /-- Units, once read, are standard. -/
  concrete : acc.nativeUnits.isAutomatic = false → acc.nativeUnits.isConcrete
  /-- An estimate is only made once the units are read. -/
  settled : acc.pointEstimate.isOk → acc.nativeUnits.isAutomatic = false
  /-- An estimate is only made after a counted call. -/
  weighed : acc.pointEstimate.isOk → acc.weights.isEmpty = false
  /-- The ratio books record weights and reciprocals together. -/
  paired : ∀ b, acc.estimator = .ratio b → b.weights.isEmpty = b.reciprocals.isEmpty

theorem consistent_new {s : Strategy} (hs : s ≠ .dummy) (i : Option Nat) :
    (new s i : Accumulator α).Consistent where
  concrete h := by cases h
  settled h := by rw [pointEstimate_new hs] at h; cases h
  weighed h := by rw [pointEstimate_new hs] at h; cases h
  paired b h := by
    cases s with
    | ratio => cases h; rfl
    | declared | bestEstimate | dummy => cases h

/-- Outside the counting strategy a call leaves the units as they were or makes them the run's,
which are standard. -/
theorem process_nativeUnits_concrete {acc : Accumulator α} (hs : acc.strategy ≠ .dummy)
    (h : acc.nativeUnits.isAutomatic = false → acc.nativeUnits.isConcrete) (r : Run) (e : Event) :
    (acc.process r e).1.nativeUnits.isAutomatic = false →
      (acc.process r e).1.nativeUnits.isConcrete := by
  rw [process_nativeUnits r e hs]
  split
  · rename_i hr
    exact fun _ => Run.nativeUnits_concrete hr
  · exact h

theorem process_nativeUnits_settled {acc : Accumulator α} (hs : acc.strategy ≠ .dummy)
    (hauto : acc.nativeUnits.isAutomatic = false) (r : Run) (e : Event) :
    (acc.process r e).1.nativeUnits = acc.nativeUnits := by
  rw [process_nativeUnits r e hs]
  split
  · rename_i hauto' _; rw [hauto] at hauto'; cases hauto'
  · rfl

theorem process_ok_settled {acc : Accumulator α} {r : Run} {e : Event} {v : α}
    (hs : acc.strategy ≠ .dummy) (h : (acc.process r e).2 = .ok v) :
    (acc.process r e).1.nativeUnits.isAutomatic = false := by
  obtain ⟨t, a, -, -, -, hauto, hb⟩ := process_ok hs h
  rw [(bookkeep_ok hb).1]
  exact hauto

theorem process_weights {acc : Accumulator α} (r : Run) (e : Event) :
    (acc.process r e).1.weights.isEmpty = (acc.weights.isEmpty && (acc.counted e).isNone) := by
  obtain ⟨-, -, hw⟩ := process_books acc r e
  rw [hw]
  cases acc.counted e with
  | none => simp
  | some p => simp [record]

/-- Bookkeeping records the weights and reciprocals of the ratio books together. -/
theorem bookkeep_paired {a a' : Accumulator α} {r : Run} {e : Event} {t : Species} {w : α}
    (hb : a.bookkeep r e t w = .ok a')
    (h : ∀ b, a.estimator = .ratio b → b.weights.isEmpty = b.reciprocals.isEmpty) :
    ∀ b, a'.estimator = .ratio b → b.weights.isEmpty = b.reciprocals.isEmpty := by
  intro b' hb'
  have hst := (bookkeep_ok hb).2
  cases hae : a.estimator with
  | ratio b =>
    obtain ⟨xs, -, hest⟩ := bookkeep_ratio hae hb
    rw [hb', Estimator.ratio.injEq] at hest
    subst hest
    split
    · exact h b hae
    · simp [RatioBooks.record]
  | _ => rw [hb', hae] at hst; cases hst

theorem Consistent.process {acc : Accumulator α} (h : acc.Consistent) (hs : acc.strategy ≠ .dummy)
    (r : Run) (e : Event) : (acc.process r e).1.Consistent := by
  cases ho : (acc.process r e).2 with
  | error err =>
    -- the estimate is as it was, so it was made in the units and books as they were
    have hest := process_error ho
    have hx := pointEstimate_congr hest
    refine ⟨process_nativeUnits_concrete hs h.concrete r e, fun hok => ?_, fun hok => ?_,
      fun b hb => h.paired b (hest ▸ hb)⟩
    · rw [hx] at hok
      rw [process_nativeUnits_settled hs (h.settled hok)]
      exact h.settled hok
    · rw [hx] at hok
      simp [process_weights, h.weighed hok]
  | ok v =>
    obtain ⟨t, a, hc, hae, -, -, hb⟩ := process_ok hs ho
    refine ⟨process_nativeUnits_concrete hs h.concrete r e, fun _ => process_ok_settled hs ho,
      fun _ => by simp [process_weights, hc], bookkeep_paired hb fun b hb' => h.paired b ?_⟩
    rw [← hae, hb']

theorem consistent_runAll {acc : Accumulator α} (h : acc.Consistent) (hs : acc.strategy ≠ .dummy)
    (calls : List (Run × Event)) : (acc.runAll calls).Consistent := by
  induction calls generalizing acc with
  | nil => exact h
  | cons c calls ih =>
    obtain ⟨r, e⟩ := c
    exact ih (h.process hs r e) (strategy_ne_dummy_process hs r e)

/-- With an estimate, the books a conversion reads are not empty. -/
theorem Consistent.conversion_nonempty {acc : Accumulator α} (h : acc.Consistent)
    (hx : acc.pointEstimate.isOk) :
    acc.conversionWeights.isEmpty = false ∧ acc.conversionLedger.isEmpty = false := by
  cases he : acc.estimator with
  | ratio b =>
    have hr : b.reciprocals.isEmpty = false := by
      simp only [pointEstimate, he] at hx
      split at hx
      · cases hx
      · simp_all
    simp only [conversionWeights, conversionLedger, he, h.paired b he, hr, and_self]
  | _ => simp only [conversionWeights, conversionLedger, he, h.weighed hx, and_self]

/-! ## Requests -/

theorem fatx_unsettled {acc : Accumulator α} (hs : acc.strategy ≠ .dummy)
    (hauto : acc.nativeUnits.isAutomatic) (u : UnitSystem) :
    acc.fatx u = .error (.notYetInitialized "native cross-section units") := by
  simp only [fatx, hs, hauto, if_false, if_true]
  rfl

theorem fatx_no_estimate {acc : Accumulator α} {err : Error} (hs : acc.strategy ≠ .dummy)
    (hauto : acc.nativeUnits.isAutomatic = false) (hx : acc.pointEstimate = .error err)
    (u : UnitSystem) : acc.fatx u = .error err := by
  simp only [fatx, hs, hauto, hx, if_false, Bool.false_eq_true]
  rfl

theorem fatx_not_concrete {acc : Accumulator α} {est : α} (hs : acc.strategy ≠ .dummy)
    (hauto : acc.nativeUnits.isAutomatic = false) (hx : acc.pointEstimate = .ok est)
    {u : UnitSystem} (hne : u ≠ acc.nativeUnits) (hu : u.isConcrete = false) :
    acc.fatx u = .error (.invalidUnits ("fatx requested in " ++ u.label ++
      ", which cannot be converted to")) := by
  simp only [fatx, hs, hauto, hx, hne, hu, if_false, if_true, Bool.false_eq_true, Bool.not_false]
  rfl

/-- A request in another standard system converts the estimate: species by species for the
ratio strategy, by the weight ledger for the others. -/
theorem fatx_convert {acc : Accumulator α} {est : α} (hs : acc.strategy ≠ .dummy)
    (hauto : acc.nativeUnits.isAutomatic = false) (hx : acc.pointEstimate = .ok est)
    {u : UnitSystem} (hne : u ≠ acc.nativeUnits) (hu : u.isConcrete) :
    acc.fatx u = match acc.estimator with
      | .ratio b => Rescale.perTarget acc.nativeUnits u est b.weights b.weight.value b.reciprocals
      | _ => (est * ·) <$> Rescale.factor acc.nativeUnits u acc.weights acc.sumweights := by
  simp only [fatx, hs, hauto, hx, hne, hu, if_false, Bool.false_eq_true, Bool.not_true]
  rfl

/-- What a conversion gives in a consistent state, its value aside: it fails only for want of
weight or, per nucleon, on the first species without nucleons. -/
theorem fatx_convert_outcome {acc : Accumulator α} {est : α} (h : acc.Consistent)
    (hs : acc.strategy ≠ .dummy) (hauto : acc.nativeUnits.isAutomatic = false)
    (hx : acc.pointEstimate = .ok est) {u : UnitSystem} (hne : u ≠ acc.nativeUnits)
    (hu : u.isConcrete) :
    (acc.fatx u).map (fun _ => ()) =
      if acc.nativeUnits.norm = u.norm then .ok ()
      else if Scalar.le (Scalar.abs acc.conversionWeight) Scalar.zero then
        .error (.notYetInitialized "target weight ledger")
      else if acc.nativeUnits.norm = .perTarget then
        match acc.conversionLedger.toList.find? (·.1.massNumber == 0) with
        | some p => .error (.invalidUnits
            ("target " ++ p.1.toText ++ " has no nucleons; cannot normalize per nucleon"))
        | none => .ok ()
      else .ok () := by
  have hN := h.concrete hauto
  obtain ⟨sf, hsf⟩ : ∃ sf : α, Rescale.scaleFactor acc.nativeUnits.scale u.scale = .ok sf :=
    Rescale.scaleFactor_concrete hN hu
  obtain ⟨hw, hl⟩ := h.conversion_nonempty (by simp [hx, Except.isOk, Except.toBool])
  rw [fatx_convert hs hauto hx hne hu]
  cases he : acc.estimator with
  | ratio b =>
    simp only [conversionWeights, conversionLedger, conversionWeight, he] at hw hl ⊢
    rw [Rescale.perTarget_eq hN hu hsf hw hl]
    simp only [apply_ite (Except.map fun _ => ())]
    cases List.find? (fun x : Species × α => x.1.massNumber == 0) _ <;> rfl
  | counting => exact absurd (strategy_eq_dummy.2 he) hs
  | declared _ | bestEstimate _ =>
    simp only [conversionWeights, conversionLedger, conversionWeight, he] at hw hl ⊢
    rw [Rescale.factor_eq hN hu hsf hw]
    simp only [apply_ite (Except.map fun _ => ()), apply_ite (Functor.map (est * ·))]
    cases List.find? (fun x : Species × α => x.1.massNumber == 0) _ <;> rfl

/-! ## What a request gives -/

/-- A request in `u` that cannot be answered yet: the run's units are unread, there is no
estimate, or the request changes the normalisation of the estimate while the total weight is
not positive. -/
def notReadyFor (acc : Accumulator α) (u : UnitSystem) : Bool :=
  acc.nativeUnits.isAutomatic || !acc.pointEstimate.isOk ||
    (u != acc.nativeUnits && u.isConcrete && acc.nativeUnits.norm != u.norm &&
      Scalar.le (Scalar.abs acc.conversionWeight) Scalar.zero)

/-- A request in `u` that can never be answered: there is an estimate, and `u` is another
system that is not standard, or asks per nucleon of an estimate per target, with weight to
share it by, while a species of the conversion ledger has no nucleons. -/
def cannotConvertTo (acc : Accumulator α) (u : UnitSystem) : Bool :=
  !acc.nativeUnits.isAutomatic && acc.pointEstimate.isOk && u != acc.nativeUnits &&
    (!u.isConcrete ||
      acc.nativeUnits.norm == .perTarget && u.norm == .perNucleon &&
        !Scalar.le (Scalar.abs acc.conversionWeight) Scalar.zero &&
        acc.conversionLedger.species.any (·.massNumber == 0))

theorem cannotConvertTo_of_notReadyFor {acc : Accumulator α} {u : UnitSystem}
    (h : acc.notReadyFor u) : acc.cannotConvertTo u = false := by
  simp only [notReadyFor, Bool.or_eq_true, Bool.and_eq_true, Bool.not_eq_true'] at h
  rcases h with (h | h) | ⟨⟨⟨-, hu⟩, -⟩, hW⟩
  · simp [cannotConvertTo, h]
  · simp [cannotConvertTo, h]
  · simp [cannotConvertTo, hu, hW]

/-- The three ways a request in `u` ends: not yet initialised when it is not ready, invalid
units with one of two messages when it cannot be converted, and a value otherwise. -/
def FatxCases (acc : Accumulator α) (u : UnitSystem) : Prop :=
  (acc.notReadyFor u ∧ ∃ m, acc.fatx u = .error (.notYetInitialized m)) ∨
  (acc.cannotConvertTo u ∧ ∃ m, acc.fatx u = .error (.invalidUnits m) ∧
    (m = "fatx requested in " ++ u.label ++ ", which cannot be converted to" ∨
      ∃ t ∈ acc.conversionLedger.species, t.massNumber = 0 ∧
        m = "target " ++ t.toText ++ " has no nucleons; cannot normalize per nucleon")) ∨
  (acc.notReadyFor u = false ∧ acc.cannotConvertTo u = false ∧ ∃ x, acc.fatx u = .ok x)

section Estimate

variable {acc : Accumulator α} {est : α} (h : acc.Consistent) (hs : acc.strategy ≠ .dummy)
  (hauto : acc.nativeUnits.isAutomatic = false) (hx : acc.pointEstimate = .ok est)
include h hs hauto hx

/-- A conversion to another standard system ends by its branch: the weight, then per nucleon
the species' nucleons decide. -/
theorem fatxCases_convert {u : UnitSystem} (hne : u ≠ acc.nativeUnits) (hu : u.isConcrete) :
    acc.FatxCases u := by
  have hok : acc.pointEstimate.isOk := by simp [hx, Except.isOk, Except.toBool]
  have ho := fatx_convert_outcome h hs hauto hx hne hu
  by_cases h1 : acc.nativeUnits.norm = u.norm
  · rw [if_pos h1] at ho
    have hc : acc.cannotConvertTo u = false := by
      rcases UnitSystem.norm_of_concrete hu with h2 | h2 <;> simp [cannotConvertTo, h1, h2, hu]
    exact .inr (.inr ⟨by simp [notReadyFor, hauto, hok, h1], hc, map_unit_eq_ok ho⟩)
  rw [if_neg h1] at ho
  cases hW : Scalar.le (Scalar.abs acc.conversionWeight) Scalar.zero
  case true =>
    rw [if_pos hW] at ho
    exact .inl ⟨by simp [notReadyFor, hauto, hok, hne, hu, h1, hW], _, map_unit_eq_error ho⟩
  rw [if_neg (by simp [hW])] at ho
  have hnr : acc.notReadyFor u = false := by simp [notReadyFor, hauto, hok, hW]
  by_cases hT : acc.nativeUnits.norm = .perTarget
  · rw [if_pos hT] at ho
    have hun : u.norm = .perNucleon := by
      rcases UnitSystem.norm_of_concrete hu with h2 | h2
      · exact absurd (hT.trans h2.symm) h1
      · exact h2
    cases hf : acc.conversionLedger.toList.find? (·.1.massNumber == 0) with
    | some p =>
      rw [hf] at ho
      have hp0 : p.1.massNumber = 0 := by simpa using List.find?_some hf
      have hmem : p.1 ∈ acc.conversionLedger.species := by
        rw [← Ledger.map_fst_toList]; exact List.mem_map_of_mem (List.mem_of_find?_eq_some hf)
      have hany : acc.conversionLedger.species.any (·.massNumber == 0) := by
        rw [Ledger.any_species, hf]; rfl
      exact .inr (.inl ⟨by simp [cannotConvertTo, hauto, hok, hne, hu, hT, hun, hW, hany], _,
        map_unit_eq_error ho, .inr ⟨p.1, hmem, hp0, rfl⟩⟩)
    | none =>
      rw [hf] at ho
      have hany : acc.conversionLedger.species.any (·.massNumber == 0) = false := by
        rw [Ledger.any_species, hf]; rfl
      exact .inr (.inr ⟨hnr, by simp [cannotConvertTo, hu, hany], map_unit_eq_ok ho⟩)
  · rw [if_neg hT] at ho
    exact .inr (.inr ⟨hnr, by simp [cannotConvertTo, hu, hT], map_unit_eq_ok ho⟩)

/-- With an estimate, a request in the run's units is answered, one in a system that is not
standard cannot be converted, and one in another standard system converts the estimate. -/
theorem fatxCases_of_estimate (u : UnitSystem) : acc.FatxCases u := by
  have hok : acc.pointEstimate.isOk := by simp [hx, Except.isOk, Except.toBool]
  by_cases hne : u = acc.nativeUnits
  · refine .inr (.inr ⟨by simp [notReadyFor, hauto, hok, hne], by simp [cannotConvertTo, hne],
      est, ?_⟩)
    rw [hne]; exact fatx_native hs hauto hx
  cases hu : u.isConcrete
  case false =>
    exact .inr (.inl ⟨by simp [cannotConvertTo, hauto, hok, hne, hu], _,
      fatx_not_concrete hs hauto hx hne hu, .inl rfl⟩)
  exact fatxCases_convert h hs hauto hx hne hu

end Estimate

/-- In a consistent state every request ends in one of its three ways. -/
theorem fatx_cases {acc : Accumulator α} (h : acc.Consistent) (hs : acc.strategy ≠ .dummy)
    (u : UnitSystem) : acc.FatxCases u := by
  cases hauto : acc.nativeUnits.isAutomatic
  case true => exact .inl ⟨by simp [notReadyFor, hauto], _, fatx_unsettled hs hauto u⟩
  cases hx : acc.pointEstimate with
  | error err =>
    obtain ⟨m, rfl⟩ := pointEstimate_error hx
    exact .inl ⟨by simp [notReadyFor, hx, Except.isOk, Except.toBool], m,
      fatx_no_estimate hs hauto hx u⟩
  | ok est => exact fatxCases_of_estimate h hs hauto hx u

theorem notReadyFor_of_cannotConvertTo {acc : Accumulator α} {u : UnitSystem}
    (h : acc.cannotConvertTo u) : acc.notReadyFor u = false := by
  cases hn : acc.notReadyFor u with
  | false => rfl
  | true => rw [cannotConvertTo_of_notReadyFor hn] at h; cases h

section Consistent

variable {acc : Accumulator α} (h : acc.Consistent) (hs : acc.strategy ≠ .dummy) (u : UnitSystem)
include h hs

theorem fatx_notYetInitialized_iff :
    (∃ m, acc.fatx u = .error (.notYetInitialized m)) ↔ acc.notReadyFor u := by
  rcases fatx_cases h hs u with ⟨hn, m, hm⟩ | ⟨hc, m, hm, -⟩ | ⟨hn, -, x, hx⟩
  · exact ⟨fun _ => hn, fun _ => ⟨m, hm⟩⟩
  · simp [hm, notReadyFor_of_cannotConvertTo hc]
  · simp [hx, hn]

theorem fatx_invalidUnits_iff :
    (∃ m, acc.fatx u = .error (.invalidUnits m)) ↔ acc.cannotConvertTo u := by
  rcases fatx_cases h hs u with ⟨hn, m, hm⟩ | ⟨hc, m, hm, -⟩ | ⟨-, hc, x, hx⟩
  · simp [hm, cannotConvertTo_of_notReadyFor hn]
  · exact ⟨fun _ => hc, fun _ => ⟨m, hm⟩⟩
  · simp [hx, hc]

theorem fatx_ok_of_ready (hn : acc.notReadyFor u = false) (hc : acc.cannotConvertTo u = false) :
    ∃ x, acc.fatx u = .ok x := by
  rcases fatx_cases h hs u with ⟨hn', -⟩ | ⟨hc', -⟩ | ⟨-, -, hx⟩
  · rw [hn] at hn'; cases hn'
  · rw [hc] at hc'; cases hc'
  · exact hx

/-- An invalid-units failure names the system requested or a species without nucleons. -/
theorem fatx_invalidUnits_message {m : String} (hm : acc.fatx u = .error (.invalidUnits m)) :
    m = "fatx requested in " ++ u.label ++ ", which cannot be converted to" ∨
      ∃ t ∈ acc.conversionLedger.species, t.massNumber = 0 ∧
        m = "target " ++ t.toText ++ " has no nucleons; cannot normalize per nucleon" := by
  rcases fatx_cases h hs u with ⟨-, m', hm'⟩ | ⟨-, m', hm', hmsg⟩ | ⟨-, -, x, hx⟩
  · rw [hm] at hm'; cases hm'
  · rw [hm] at hm'; cases hm'; exact hmsg
  · rw [hm] at hx; cases hx

theorem fatx_same_norm (hx : acc.pointEstimate.isOk) (hu : u.isConcrete)
    (hn : u.norm = acc.nativeUnits.norm) : ∃ x, acc.fatx u = .ok x := by
  refine fatx_ok_of_ready h hs u ?_ ?_
  · simp [notReadyFor, h.settled hx, hx, hn]
  · rcases UnitSystem.norm_of_concrete hu with h2 | h2 <;>
      simp [cannotConvertTo, hu, ← hn, h2]

end Consistent

/-- In every reachable estimating state a request fails as not yet initialised exactly when it is
not ready, as invalid units exactly when it cannot be converted, and is answered otherwise. -/
theorem fatx_fails_only_when_unready_or_unconvertible (s : Strategy) (hs : s ≠ .dummy)
    (i : Option Nat) (calls : List (Run × Event)) (u : UnitSystem) :
    let acc : Accumulator α := (new s i).runAll calls
    ((∃ m, acc.fatx u = .error (.notYetInitialized m)) ↔ acc.notReadyFor u) ∧
    ((∃ m, acc.fatx u = .error (.invalidUnits m)) ↔ acc.cannotConvertTo u) ∧
    (acc.notReadyFor u = false → acc.cannotConvertTo u = false → ∃ x, acc.fatx u = .ok x) ∧
    (acc.pointEstimate.isOk → u.isConcrete → u.norm = acc.nativeUnits.norm →
      ∃ x, acc.fatx u = .ok x) ∧
    ∀ m, acc.fatx u = .error (.invalidUnits m) →
      m = "fatx requested in " ++ u.label ++ ", which cannot be converted to" ∨
      ∃ t ∈ acc.conversionLedger.species, t.massNumber = 0 ∧
        m = "target " ++ t.toText ++ " has no nucleons; cannot normalize per nucleon" := by
  intro acc
  have hstart : (new s i : Accumulator α).strategy ≠ .dummy := by simpa using hs
  have h : acc.Consistent := consistent_runAll (consistent_new hs i) hstart calls
  have hacc : acc.strategy ≠ .dummy := by rw [(runAll_keeps _ calls).1]; exact hstart
  exact ⟨fatx_notYetInitialized_iff h hacc u, fatx_invalidUnits_iff h hacc u,
    fatx_ok_of_ready h hacc u, fatx_same_norm h hacc u,
    fun _ hm => fatx_invalidUnits_message h hacc u hm⟩

/-- One event on an electron target with best estimate 2.5 pb per target: the estimate cannot
be asked per nucleon. -/
theorem electron_target_per_nucleon_unconvertible :
    Strategy.bestEstimate ≠ .dummy ∧
      ∃ m, ((new .bestEstimate none : Accumulator Rat).runAll
        [(Run.new, ((Event.new 0).withTarget ⟨11⟩).withCrossSection [2.5])]).fatx
          ⟨.picobarn, .perNucleon⟩ = .error (.invalidUnits m) :=
  ⟨by decide, (fatx_fails_only_when_unready_or_unconvertible .bestEstimate (by decide) none
    [(Run.new, ((Event.new 0).withTarget ⟨11⟩).withCrossSection [2.5])]
    ⟨.picobarn, .perNucleon⟩).2.1.2 (by decide +kernel)⟩

end Accumulator

end FluxAverage