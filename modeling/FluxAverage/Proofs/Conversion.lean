-- The laws of converting a cross section between standard unit systems. Such a conversion
-- never fails on the systems themselves: it fails only for want of weight to share the
-- estimate by, or, per nucleon, for a species without nucleons, the first in code order.
import FluxAverage.Proofs.Ledger
import FluxAverage.Rescale

namespace FluxAverage

namespace UnitSystem

theorem norm_of_concrete {u : UnitSystem} (h : u.isConcrete) :
    u.norm = .perTarget ∨ u.norm = .perNucleon := by
  obtain ⟨s, n⟩ := u
  cases n <;> simp_all [isConcrete, isCustom, isAutomatic]

theorem picobarns_of_concrete {α : Type} [Scalar α] {u : UnitSystem} (h : u.isConcrete) :
    ∃ p, (u.scale.picobarns : Option α) = some p := by
  obtain ⟨s, n⟩ := u
  cases s <;> simp_all [isConcrete, isCustom, isAutomatic, Scale.picobarns]

end UnitSystem

namespace Rescale

variable {α : Type} [Scalar α]

/-! ## Sums of terms that may fail -/

theorem sumFrom_map_ok {β : Type} (k : KahanSum α) (l : List β) (f : β → Except Error α)
    (g : β → α) (h : ∀ x ∈ l, f x = .ok (g x)) :
    sumFrom k (l.map f) = .ok (k.addAll (l.map g)).value := by
  induction l generalizing k with
  | nil => rfl
  | cons x l ih =>
    simp only [List.map_cons, h x List.mem_cons_self, sumFrom, KahanSum.addAll_cons]
    exact ih (k.add (g x)) fun y hy => h y (List.mem_cons_of_mem x hy)

/-- Terms that fail exactly where a guard holds: the sum fails as the first guarded term. -/
theorem sumFrom_map_guarded {β : Type} (k : KahanSum α) (l : List β) {f : β → Except Error α}
    {bad : β → Bool} {err : β → Error} {g : β → α}
    (hf : ∀ x, f x = if bad x then .error (err x) else .ok (g x)) :
    sumFrom k (l.map f) = match l.find? bad with
      | some x => .error (err x)
      | none => .ok (k.addAll (l.map g)).value := by
  induction l generalizing k with
  | nil => rfl
  | cons x l ih =>
    rw [List.map_cons, hf x, List.find?_cons]
    cases hb : bad x with
    | true => rfl
    | false =>
      simp only [sumFrom, ih, KahanSum.addAll_cons, List.map_cons, Bool.false_eq_true, if_false]

/-! ## The steps of a conversion -/

theorem nucleons_eq (t : Species) : (nucleons t : Except Error α) =
    if t.massNumber = 0 then
      .error (.invalidUnits ("target " ++ t.toText ++ " has no nucleons; cannot normalize per nucleon"))
    else .ok (Scalar.ofNat t.massNumber) := by
  unfold nucleons
  split <;> simp_all

/-- Dividing by a species' nucleons fails exactly for a species without nucleons. -/
theorem nucleons_bind_div (t : Species) (c : α) :
    (nucleons t >>= fun a => pure (c / a)) =
      if t.massNumber == 0 then
        .error (.invalidUnits ("target " ++ t.toText ++ " has no nucleons; cannot normalize per nucleon"))
      else .ok (c / Scalar.ofNat t.massNumber) := by
  rw [nucleons_eq]
  by_cases h : t.massNumber = 0
  · rw [if_pos h, if_pos (by simp [h])]; rfl
  · rw [if_neg h, if_neg (by simp [h])]; rfl

theorem scaleFactor_eq {a b : Scale} {p q : α} (hp : a.picobarns = some p)
    (hq : b.picobarns = some q) :
    scaleFactor a b = .ok (if a = b then Scalar.one else p / q) := by
  unfold scaleFactor
  split
  · rfl
  · simp [hp, hq]

theorem scaleFactor_concrete {N u : UnitSystem} (hN : N.isConcrete) (hu : u.isConcrete) :
    ∃ sf : α, scaleFactor N.scale u.scale = .ok sf := by
  obtain ⟨p, hp⟩ := UnitSystem.picobarns_of_concrete (α := α) hN
  obtain ⟨q, hq⟩ := UnitSystem.picobarns_of_concrete (α := α) hu
  exact ⟨_, scaleFactor_eq hp hq⟩

theorem classify_concrete {N u : UnitSystem} (hN : N.isConcrete) (hu : u.isConcrete) {sf : α}
    (hsf : scaleFactor N.scale u.scale = .ok sf) :
    classify N u = .ok (if N.norm = u.norm then .sameNorm sf
      else if N.norm = .perTarget then .targetToNucleon sf else .nucleonToTarget sf) := by
  simp only [classify, hN, hu, hsf]
  rcases UnitSystem.norm_of_concrete hN with h1 | h1 <;>
    rcases UnitSystem.norm_of_concrete hu with h2 | h2 <;>
    simp [h1, h2, Functor.map, Except.map]

theorem checkWeights_eq {l : Ledger α} (hl : l.isEmpty = false) (W : α) :
    checkWeights l W = if Scalar.le (Scalar.abs W) Scalar.zero
      then .error (.notYetInitialized "target weight ledger") else .ok () := by
  simp [checkWeights, hl]

/-! ## The two conversions -/

/-- The declared-value factor between standard systems: the scale factor for the same
normalisation, else the scale factor shared by weight over the species, divided by or times
their nucleons. -/
theorem factor_eq {N u : UnitSystem} (hN : N.isConcrete) (hu : u.isConcrete) {sf : α}
    (hsf : scaleFactor N.scale u.scale = .ok sf) {weights : Ledger α}
    (hw : weights.isEmpty = false) (W : α) :
    factor N u weights W =
      if N.norm = u.norm then .ok sf
      else if Scalar.le (Scalar.abs W) Scalar.zero then
        .error (.notYetInitialized "target weight ledger")
      else if N.norm = .perTarget then
        match weights.toList.find? (·.1.massNumber == 0) with
        | some p => .error (.invalidUnits
            ("target " ++ p.1.toText ++ " has no nucleons; cannot normalize per nucleon"))
        | none => .ok (KahanSum.ofList (weights.toList.map fun (t, w) =>
            sf * (w / W) / Scalar.ofNat t.massNumber)).value
      else .ok (KahanSum.ofList (weights.toList.map fun (_, w) =>
        sf * totalNucleons weights * (w / W))).value := by
  have hc := classify_concrete hN hu hsf
  by_cases hn : N.norm = u.norm
  · rw [if_pos hn] at hc ⊢
    simp only [factor, hc]; rfl
  rw [if_neg hn] at hc ⊢
  by_cases hW : Scalar.le (Scalar.abs W) Scalar.zero
  · rw [if_pos hW]
    by_cases hT : N.norm = .perTarget
    · rw [if_pos hT] at hc
      simp only [factor, hc, bind, Except.bind, checkWeights_eq hw, hW, if_true]
    · rw [if_neg hT] at hc
      simp only [factor, hc, bind, Except.bind, checkWeights_eq hw, hW, if_true]
  rw [if_neg hW]
  by_cases hT : N.norm = .perTarget
  · rw [if_pos hT] at hc ⊢
    have hterm := fun x : Species × α => nucleons_bind_div x.1 (sf * (x.2 / W))
    simp only [bind, Except.bind] at hterm
    simp only [factor, hc, bind, Except.bind, checkWeights_eq hw, hW, sumTerms,
      sumFrom_map_guarded _ _ hterm, Bool.false_eq_true, if_false, KahanSum.ofList_eq_addAll]
    split <;> rename_i h <;> simp only [h]
  · rw [if_neg hT] at hc ⊢
    simp only [factor, hc, bind, Except.bind, checkWeights_eq hw, hW, sumTerms, Bool.false_eq_true,
      if_false, KahanSum.ofList_eq_addAll]
    exact sumFrom_map_ok _ _ _ _ fun _ _ => rfl

/-- The species-by-species conversion between standard systems: the estimate scaled for the same
normalisation, else each species' own estimate `w / r` shared by weight and scaled, divided by
its nucleons or times the nucleons of all species. -/
theorem perTarget_eq {N u : UnitSystem} (hN : N.isConcrete) (hu : u.isConcrete) {sf : α}
    (hsf : scaleFactor N.scale u.scale = .ok sf) {weights recips : Ledger α}
    (hw : weights.isEmpty = false) (hr : recips.isEmpty = false) (est W : α) :
    perTarget N u est weights W recips =
      if N.norm = u.norm then .ok (est * sf)
      else if Scalar.le (Scalar.abs W) Scalar.zero then
        .error (.notYetInitialized "target weight ledger")
      else if N.norm = .perTarget then
        match recips.toList.find? (·.1.massNumber == 0) with
        | some p => .error (.invalidUnits
            ("target " ++ p.1.toText ++ " has no nucleons; cannot normalize per nucleon"))
        | none => .ok (KahanSum.ofList (recips.toList.map fun (t, r) =>
            (weights.get? t).getD Scalar.zero / r * sf * ((weights.get? t).getD Scalar.zero / W) /
              Scalar.ofNat t.massNumber)).value
      else .ok (KahanSum.ofList (recips.toList.map fun (t, r) =>
        (weights.get? t).getD Scalar.zero / r * sf * ((weights.get? t).getD Scalar.zero / W) *
          totalNucleons recips)).value := by
  have hc := classify_concrete hN hu hsf
  by_cases hn : N.norm = u.norm
  · rw [if_pos hn] at hc ⊢
    simp only [perTarget, hc]; rfl
  rw [if_neg hn] at hc ⊢
  by_cases hW : Scalar.le (Scalar.abs W) Scalar.zero
  · rw [if_pos hW]
    by_cases hT : N.norm = .perTarget
    · rw [if_pos hT] at hc
      simp only [perTarget, hc, bind, Except.bind, pure, Except.pure, checkWeights_eq hw, hW,
        if_true]
    · rw [if_neg hT] at hc
      simp only [perTarget, hc, bind, Except.bind, pure, Except.pure, checkWeights_eq hw, hW,
        if_true]
  rw [if_neg hW]
  by_cases hT : N.norm = .perTarget
  · rw [if_pos hT] at hc ⊢
    have hterm := fun x : Species × α => nucleons_bind_div x.1
      ((weights.get? x.1).getD Scalar.zero / x.2 * sf * ((weights.get? x.1).getD Scalar.zero / W))
    simp only [bind, Except.bind, pure, Except.pure] at hterm
    simp only [perTarget, hc, bind, Except.bind, pure, Except.pure, checkWeights_eq hw, hW, hr,
      sumTerms, Bool.false_eq_true, if_false, if_true, sumFrom_map_guarded _ _ hterm,
      KahanSum.ofList_eq_addAll]
    split <;> rename_i h <;> simp only [h]
  · rw [if_neg hT] at hc ⊢
    simp only [perTarget, hc, bind, Except.bind, pure, Except.pure, checkWeights_eq hw, hW, hr,
      sumTerms, Bool.false_eq_true, if_false, KahanSum.ofList_eq_addAll]
    exact sumFrom_map_ok _ _ _ _ fun _ _ => rfl

end Rescale

end FluxAverage
