-- The ratio strategy's four books move in lockstep: every reachable state has them built from one
-- list of terms in the order of the calls, so the two ledgers list the same species, the estimate
-- is missing exactly when no term was taken, and every weight lookup finds its entry.
import FluxAverage.Proofs.Estimate

namespace FluxAverage

/-- The four ratio books were built from one list of terms, each a species, a weight and a cross
section, taken in order: the summed weight and the weight ledger from the weights, the reciprocal
sum and the reciprocal ledger from the weights over the cross sections. -/
structure RatioBooks.BuiltFrom {α : Type} [Scalar α] (b : RatioBooks α)
    (S : List (Species × α × α)) : Prop where
  weight : b.weight = KahanSum.ofList (S.map (·.2.1))
  weights : b.weights = Ledger.empty.recordAll (S.map fun p => (p.1, p.2.1))
  reciprocal : b.reciprocal = KahanSum.ofList (S.map fun p => p.2.1 / p.2.2)
  reciprocals : b.reciprocals = Ledger.empty.recordAll (S.map fun p => (p.1, p.2.1 / p.2.2))

namespace RatioBooks.BuiltFrom

variable {α : Type} [Scalar α] {b : RatioBooks α} {S : List (Species × α × α)}

theorem species_eq (h : b.BuiltFrom S) : b.weights.species = b.reciprocals.species := by
  rw [h.weights, h.reciprocals]
  exact Ledger.species_recordAll_congr rfl (by simp [List.map_map, Function.comp_def])

theorem mem_species (h : b.BuiltFrom S) {t : Species} :
    t ∈ b.reciprocals.species ↔ t ∈ S.map (·.1) := by
  rw [h.reciprocals, Ledger.mem_species_recordAll_empty, List.map_map]
  rfl

theorem isEmpty_iff (h : b.BuiltFrom S) : b.reciprocals.isEmpty ↔ S = [] := by
  rw [h.reciprocals, Ledger.isEmpty_recordAll]
  simp [Ledger.empty, Ledger.isEmpty]

/-- Each species walked in the reciprocal ledger finds its weight: the compensated sum of its own
weights, in order. -/
theorem get?_weights (h : b.BuiltFrom S) {t : Species} {r : α}
    (hm : (t, r) ∈ b.reciprocals.toList) :
    b.weights.get? t = some (KahanSum.ofList ((S.filter (·.1 == t)).map (·.2.1))).value := by
  have ht : t ∈ S.map (·.1) := by
    rw [← h.mem_species, ← Ledger.map_fst_toList]
    exact List.mem_map.2 ⟨(t, r), hm, rfl⟩
  rw [h.weights, Ledger.get?_recordAll_empty, Ledger.tally,
    if_pos (by simpa [List.map_map, Function.comp_def] using ht), Ledger.filter_map_pairs S (·.2.1)]

/-- The point estimate of books built from the terms: missing exactly when no term was taken,
and otherwise the summed weight over the reciprocal sum. -/
theorem pointEstimate_eq {acc : Accumulator α} (he : acc.estimator = .ratio b)
    (h : b.BuiltFrom S) :
    acc.pointEstimate = if S.isEmpty then .error (.notYetInitialized "reciprocal cross-section sum")
      else .ok (b.weight.value / b.reciprocal.value) := by
  have hempty : b.reciprocals.isEmpty = S.isEmpty := by
    rw [Bool.eq_iff_iff, h.isEmpty_iff, List.isEmpty_iff]
  simp only [Accumulator.pointEstimate, he, hempty]

end RatioBooks.BuiltFrom

namespace Accumulator

variable {α : Type} [Scalar α]

theorem counted_of_ratioTerm {acc : Accumulator α} {c : (Run × Event) × Except Error α}
    {t : Species} {w xs : α} (h : acc.ratioTerm c = some (t, w, xs)) :
    acc.counted c.1.2 = some (t, w) := by
  obtain ⟨⟨r, e⟩, o⟩ := c
  cases o with
  | error err => cases h
  | ok v =>
    cases hc : acc.counted e with
    | none => simp [ratioTerm, hc] at h
    | some p =>
      obtain ⟨t', w'⟩ := p
      cases hx : e.totalCrossSection with
      | error err => simp [ratioTerm, hc, hx] at h
      | ok x =>
        simp only [ratioTerm, hc, hx] at h
        split at h
        · cases h
        · cases h; rfl

/-- The species and weights the ratio books take are those of counted calls, in the order of the
calls: a subsequence of what the common books take. -/
theorem ratioTerms_sublist_recorded (acc : Accumulator α) (calls : List (Run × Event)) :
    ((acc.ratioTerms calls).map fun p => (p.1, p.2.1)).Sublist (acc.recorded calls) := by
  induction calls generalizing acc with
  | nil => exact List.Sublist.slnil
  | cons c calls ih =>
    obtain ⟨r, e⟩ := c
    have hrest := ih (acc.process r e).1
    simp only [ratioTerms, ratioTerm_process, recorded_process] at hrest
    simp only [ratioTerms, trace, List.filterMap_cons]
    cases ht : acc.ratioTerm ((r, e), (acc.process r e).2) with
    | none =>
      cases hc : acc.counted e with
      | none => rw [recorded_cons_none hc]; exact hrest
      | some p => rw [recorded_cons_some hc]; exact hrest.cons p
    | some q =>
      obtain ⟨t, w, xs⟩ := q
      rw [recorded_cons_some (counted_of_ratioTerm ht), List.map_cons]
      exact hrest.cons_cons (t, w)

theorem runAll_builtFrom (i : Option Nat) (calls : List (Run × Event)) :
    ∃ b, ((new .ratio i : Accumulator α).runAll calls).estimator = .ratio b ∧
      b.BuiltFrom ((new .ratio i : Accumulator α).ratioTerms calls) := by
  obtain ⟨b, hb, h1, h2, h3, h4⟩ :=
    runAll_ratio (show (new .ratio i : Accumulator α).estimator = .ratio RatioBooks.empty from rfl)
      calls
  exact ⟨b, hb, ⟨h1, h2, h3, h4⟩⟩

/-- The species of the ratio books of a state reached from a fresh ratio accumulation are counted
in its common weight ledger. -/
theorem ratio_species_counted {i : Option Nat} {calls : List (Run × Event)} {b : RatioBooks α}
    (h : b.BuiltFrom ((new .ratio i : Accumulator α).ratioTerms calls)) {t : Species}
    (ht : t ∈ b.reciprocals.species) :
    t ∈ ((new .ratio i : Accumulator α).runAll calls).weights.species := by
  have hw := (runAll_books (new .ratio i : Accumulator α) calls).2.1
  rw [hw, show (new .ratio i : Accumulator α).weights = Ledger.empty from rfl,
    Ledger.mem_species_recordAll_empty]
  have hs := (ratioTerms_sublist_recorded (new .ratio i : Accumulator α) calls).map (·.1)
  rw [List.map_map] at hs
  exact hs.subset (by simpa [Function.comp_def] using h.mem_species.1 ht)

/-- In every reachable ratio state the four books are built from one list of terms, a
subsequence of the counted calls: the two ledgers have the same species, the estimate is missing
exactly when no term was taken, and no weight lookup falls back. -/
theorem ratio_books_move_in_lockstep (i : Option Nat) (calls : List (Run × Event)) :
    let start : Accumulator α := new .ratio i
    let acc := start.runAll calls
    let S := start.ratioTerms calls
    ∃ b, acc.estimator = .ratio b ∧ b.BuiltFrom S ∧
      (S.map fun p => (p.1, p.2.1)).Sublist (start.recorded calls) ∧
      b.weights.species = b.reciprocals.species ∧
      (∀ t ∈ b.reciprocals.species, t ∈ acc.weights.species) ∧
      (b.reciprocals.isEmpty ↔ S = []) ∧
      acc.pointEstimate =
        (if S.isEmpty then .error (.notYetInitialized "reciprocal cross-section sum")
          else .ok (b.weight.value / b.reciprocal.value)) ∧
      ∀ t r, (t, r) ∈ b.reciprocals.toList → ∃ w, b.weights.get? t = some w := by
  intro start acc S
  obtain ⟨b, hb, h⟩ := runAll_builtFrom (α := α) i calls
  exact ⟨b, hb, h, ratioTerms_sublist_recorded start calls, h.species_eq,
    fun t ht => ratio_species_counted h ht, h.isEmpty_iff, h.pointEstimate_eq hb,
    fun t r hm => ⟨_, h.get?_weights hm⟩⟩

end Accumulator

end FluxAverage
