-- The counting strategy reads the event's target and nothing else, counts it with weight one and
-- answers one. In binary64 every partial sum of ones below `2 ^ 53` is exact, so the summed weight
-- is the event count and each ledger entry the number of events on its target.
import FluxAverage.Proofs.Process
import FluxAverage.Proofs.WholeNumbers

namespace FluxAverage

namespace Event

/-- The event has a particle of target status, current or older. -/
def HasTarget (e : Event) : Prop :=
  ∃ p ∈ e.particles, p.status = Status.target ∨ p.status = Status.legacyTarget

theorem firstWithStatus_eq_none {e : Event} {s : Int} :
    e.firstWithStatus s = none ↔ ∀ p ∈ e.particles, p.status ≠ s := by
  simp [firstWithStatus]

theorem firstWithStatus_status {e : Event} {s : Int} {p : Particle}
    (h : e.firstWithStatus s = some p) : p ∈ e.particles ∧ p.status = s :=
  ⟨List.mem_of_find?_eq_some h, by simpa using List.find?_some h⟩

/-- No target is found exactly when no particle has either target status. -/
theorem targetSpecies_eq_error_iff {e : Event} :
    e.targetSpecies = .error .missingTargetParticle ↔ ¬ e.HasTarget := by
  unfold targetSpecies
  cases hf : e.firstWithStatus Status.target with
  | some p =>
    obtain ⟨hp, hs⟩ := firstWithStatus_status hf
    simp only [Option.orElse, reduceCtorEq, false_iff, not_not]
    exact ⟨p, hp, .inl hs⟩
  | none =>
    rw [Option.orElse_none]
    cases hg : e.firstWithStatus Status.legacyTarget with
    | some p =>
      obtain ⟨hp, hs⟩ := firstWithStatus_status hg
      simp only [reduceCtorEq, false_iff, not_not]
      exact ⟨p, hp, .inr hs⟩
    | none =>
      simp only [true_iff]
      rintro ⟨p, hp, hs | hs⟩
      · exact firstWithStatus_eq_none.1 hf p hp hs
      · exact firstWithStatus_eq_none.1 hg p hp hs

theorem targetSpecies_ok_of_hasTarget {e : Event} (h : e.HasTarget) :
    ∃ t, e.targetSpecies = .ok t := by
  cases ht : e.targetSpecies with
  | ok t => exact ⟨t, rfl⟩
  | error err =>
    rw [targetSpecies_error ht] at ht
    exact absurd h (targetSpecies_eq_error_iff.1 ht)

end Event

namespace Accumulator

variable {α : Type} [Scalar α]

/-- The targets of the events that have one, in the order of the calls. -/
def countedTargets (calls : List (Run × Event)) : List Species :=
  calls.filterMap fun c => c.2.targetSpecies.toOption

theorem countedTargets_cons_ok (r : Run) {e : Event} {t : Species} (ht : e.targetSpecies = .ok t)
    (calls : List (Run × Event)) : countedTargets ((r, e) :: calls) = t :: countedTargets calls := by
  simp [countedTargets, ht, Except.toOption]

theorem countedTargets_cons_error (r : Run) {e : Event} {err : Error}
    (ht : e.targetSpecies = .error err) (calls : List (Run × Event)) :
    countedTargets ((r, e) :: calls) = countedTargets calls := by
  simp [countedTargets, ht, Except.toOption]

section Dummy

variable {acc : Accumulator α} (hs : acc.strategy = .dummy)
include hs

/-! ## One call -/

theorem process_dummy_ok (r : Run) {e : Event} {t : Species} (ht : e.targetSpecies = .ok t) :
    acc.process r e = (acc.record t Scalar.one, .ok Scalar.one) := by
  unfold process
  rw [strategy_eq_dummy.1 hs, ht]

theorem process_dummy_error (r : Run) {e : Event} {err : Error}
    (ht : e.targetSpecies = .error err) : acc.process r e = (acc, .error err) := by
  unfold process
  rw [strategy_eq_dummy.1 hs, ht]

theorem process_dummy_run (r r' : Run) (e : Event) : acc.process r e = acc.process r' e := by
  cases ht : e.targetSpecies with
  | ok t => rw [process_dummy_ok hs r ht, process_dummy_ok hs r' ht]
  | error err => rw [process_dummy_error hs r ht, process_dummy_error hs r' ht]

theorem process_dummy_nativeUnits (r : Run) (e : Event) :
    (acc.process r e).1.nativeUnits = acc.nativeUnits := by
  cases ht : e.targetSpecies with
  | ok t => rw [process_dummy_ok hs r ht]; rfl
  | error err => rw [process_dummy_error hs r ht]

theorem process_dummy_strategy (r : Run) (e : Event) : (acc.process r e).1.strategy = .dummy :=
  (process_keeps acc r e).1.trans hs

theorem counted_dummy (e : Event) : acc.counted e = e.targetSpecies.toOption.map (·, Scalar.one) := by
  unfold counted countedWeight
  rw [hs]
  cases e.targetSpecies <;> rfl

theorem fatx_dummy (u : UnitSystem) : acc.fatx u = .ok Scalar.one := by
  unfold fatx
  rw [if_pos hs]
  rfl

/-! ## Sequences of calls -/

theorem runAll_dummy_nativeUnits (calls : List (Run × Event)) :
    (acc.runAll calls).nativeUnits = acc.nativeUnits := by
  -- each call keeps the strategy, so the step lemma applies all along
  induction calls generalizing acc with
  | nil => rfl
  | cons c calls ih =>
    obtain ⟨r, e⟩ := c
    rw [runAll_cons, ih (process_dummy_strategy hs r e), process_dummy_nativeUnits hs r e]

/-- The calls that answer are those whose event has a target. -/
theorem countP_trace_dummy (calls : List (Run × Event)) :
    (acc.trace calls).countP (·.2.isOk) = (countedTargets calls).length := by
  induction calls generalizing acc with
  | nil => rfl
  | cons c calls ih =>
    obtain ⟨r, e⟩ := c
    rw [trace, List.countP_cons, ih (process_dummy_strategy hs r e)]
    cases ht : e.targetSpecies with
    | ok t =>
      rw [process_dummy_ok hs r ht, countedTargets_cons_ok r ht]
      simp [Except.isOk, Except.toBool]
    | error err =>
      rw [process_dummy_error hs r ht, countedTargets_cons_error r ht]
      simp [Except.isOk, Except.toBool]

theorem recorded_dummy (calls : List (Run × Event)) :
    acc.recorded calls = (countedTargets calls).map (·, Scalar.one) := by
  rw [recorded, countedTargets, List.map_filterMap]
  congr 1
  funext c
  rw [counted_dummy hs]

end Dummy

/-! ## Tallies of ones -/

omit [Scalar α] in
theorem filter_map_pair (ts : List Species) (x : α) (t : Species) :
    ((ts.map (·, x)).filter (·.1 == t)).map (·.2) = List.replicate (ts.count t) x := by
  induction ts with
  | nil => rfl
  | cons s ts ih =>
    by_cases h : s = t
    · simp [h, ih, List.replicate_succ]
    · simp [h, ih]

theorem tally_ones {ts : List Species} (h : ts.length < 2 ^ 53) (t : Species) :
    Ledger.tally (ts.map (·, (Scalar.one : Float))) t =
      if t ∈ ts then some (Scalar.ofNat (ts.count t)) else none := by
  have hmem : t ∈ (ts.map (·, (Scalar.one : Float))).map (·.1) ↔ t ∈ ts := by
    simp
  rw [Ledger.tally, filter_map_pair]
  by_cases ht : t ∈ ts
  · rw [if_pos (hmem.2 ht), if_pos ht,
      Binary64.kahan_ofList_ones (Nat.lt_of_le_of_lt List.count_le_length h)]
    rfl
  · rw [if_neg (mt hmem.1 ht), if_neg ht]

/-- From a fresh counting accumulator, fewer than `2 ^ 53` counted events are counted exactly:
the summed weight is their number with no correction, and each species' entry the number of
events on it. -/
theorem runAll_new_dummy_books (i : Option Nat) {calls : List (Run × Event)}
    (h : (countedTargets calls).length < 2 ^ 53) :
    ((new .dummy i : Accumulator Float).runAll calls).events = (countedTargets calls).length ∧
      ((new .dummy i : Accumulator Float).runAll calls).sumWeights =
        ⟨Scalar.ofNat (countedTargets calls).length, Scalar.zero⟩ ∧
      ∀ t, ((new .dummy i : Accumulator Float).runAll calls).weights.get? t =
        if t ∈ countedTargets calls then some (Scalar.ofNat ((countedTargets calls).count t))
        else none := by
  have hs : (new .dummy i : Accumulator Float).strategy = .dummy := new_strategy .dummy i
  obtain ⟨hsum, hw, hn⟩ := runAll_books (new .dummy i : Accumulator Float) calls
  rw [recorded_dummy hs] at hsum hw hn
  have h0 : (new .dummy i : Accumulator Float).events = 0 := rfl
  have hlimit : 2 ^ 53 ≤ eventLimit := by decide
  refine ⟨?_, ?_, fun t => ?_⟩
  · rw [hn (Nat.zero_le _), List.length_map, h0, Nat.zero_add]
    exact Nat.min_eq_left (by omega)
  · rw [hsum]
    simp only [List.map_map, Function.comp_def, List.map_const']
    exact Binary64.kahan_ofList_ones h
  · rw [hw]
    exact (Ledger.get?_recordAll_empty _ t).trans (tally_ones h t)

/-! ## The counting strategy -/

/-- A counting call answers one and counts its target, or fails on a missing target and changes
nothing; from a fresh accumulator, below `2 ^ 53` events the summed weight and each species'
entry are exact counts. -/
theorem counting_calls_answer_one_and_tally_exactly :
    (∀ {α : Type} [Scalar α] (acc : Accumulator α) (r : Run) (e : Event),
      acc.strategy = .dummy →
        (e.HasTarget → ∃ t, e.targetSpecies = .ok t ∧
          acc.process r e = (acc.record t Scalar.one, .ok Scalar.one)) ∧
        (¬ e.HasTarget → acc.process r e = (acc, .error .missingTargetParticle)) ∧
        (∀ r', acc.process r' e = acc.process r e) ∧
        (acc.process r e).1.nativeUnits = acc.nativeUnits ∧
        ∀ u, acc.fatx u = .ok Scalar.one) ∧
    ∀ (i : Option Nat) (calls : List (Run × Event)),
      let acc : Accumulator Float := (new .dummy i).runAll calls
      let ts := countedTargets calls
      ((new .dummy i : Accumulator Float).trace calls).countP (·.2.isOk) = ts.length ∧
        acc.nativeUnits = UnitSystem.automatic ∧
        (ts.length < 2 ^ 53 →
          acc.events = ts.length ∧ acc.sumWeights = ⟨Scalar.ofNat ts.length, Scalar.zero⟩ ∧
            acc.sumweights = Scalar.ofNat acc.events ∧
            ∀ t, acc.weights.get? t = if t ∈ ts then some (Scalar.ofNat (ts.count t)) else none) := by
  refine ⟨fun acc r e hs => ⟨fun he => ?_, fun he => ?_, fun r' => process_dummy_run hs r' r e,
    process_dummy_nativeUnits hs r e, fatx_dummy hs⟩, fun i calls => ?_⟩
  · obtain ⟨t, ht⟩ := Event.targetSpecies_ok_of_hasTarget he
    exact ⟨t, ht, process_dummy_ok hs r ht⟩
  · exact process_dummy_error hs r (Event.targetSpecies_eq_error_iff.2 he)
  · have hs : (new .dummy i : Accumulator Float).strategy = .dummy := new_strategy .dummy i
    refine ⟨countP_trace_dummy hs calls, runAll_dummy_nativeUnits hs calls, fun h => ?_⟩
    obtain ⟨hn, hsum, hw⟩ := runAll_new_dummy_books i h
    refine ⟨hn, hsum, ?_, hw⟩
    rw [sumweights, hsum, hn]
    rfl

/-- A carbon event, an event with no target and a proton marked as an older target: the first
call is counted for carbon, the second fails and changes nothing, and after the three calls the
two counted events are the summed weight. -/
theorem carbon_and_legacy_proton_counted :
    let carbon := (Event.new 1).withTarget ⟨1000060120⟩
    let calls : List (Run × Event) := [(Run.new, carbon), (Run.new, Event.new 2),
      (Run.new, (Event.new 3).withParticle 2212 Status.legacyTarget)]
    let acc : Accumulator Float := (new .dummy none).runAll calls
    (new .dummy none : Accumulator Float).strategy = .dummy ∧ carbon.HasTarget ∧
      (∃ t, carbon.targetSpecies = .ok t ∧ (new .dummy none : Accumulator Float).process Run.new carbon =
        ((new .dummy none).record t Scalar.one, .ok Scalar.one)) ∧
      ¬ (Event.new 2).HasTarget ∧
      (new .dummy none : Accumulator Float).process Run.new (Event.new 2) =
        (new .dummy none, .error .missingTargetParticle) ∧
      (countedTargets calls).length < 2 ^ 53 ∧ acc.events = (countedTargets calls).length ∧
      acc.sumweights = Scalar.ofNat acc.events := by
  intro carbon calls acc
  have hs : (new .dummy none : Accumulator Float).strategy = .dummy := rfl
  have hc : carbon.HasTarget := ⟨⟨1000060120, Status.target⟩, List.mem_singleton_self _, .inl rfl⟩
  have hn : ¬ (Event.new 2).HasTarget := by
    rintro ⟨p, hp, -⟩
    cases hp
  have hlen : (countedTargets calls).length < 2 ^ 53 := by decide
  have hcall := counting_calls_answer_one_and_tally_exactly.1 (new .dummy none : Accumulator Float)
  have hrun := (counting_calls_answer_one_and_tally_exactly.2 none calls).2.2 hlen
  exact ⟨hs, hc, (hcall Run.new carbon hs).1 hc, hn, (hcall Run.new (Event.new 2) hs).2.1 hn, hlen,
    hrun.1, hrun.2.2.1⟩

end Accumulator

end FluxAverage
