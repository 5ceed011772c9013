-- Nuclear codes built from their proton and nucleon counts. For `z ≤ a` and `1 ≤ a ≤ 999` the
-- checked 32-bit arithmetic stays in range and the code reads back as `z` and `a`; conversely
-- every ground-state nuclear code in that range is the code of its own counts.
import FluxAverage.Species

namespace FluxAverage

namespace Species

/-! ## Checked arithmetic -/

theorem checkedI32_of_fits {x : Int} (h1 : -2147483648 ≤ x) (h2 : x < 2147483648) :
    checkedI32 x = some x := if_pos ⟨h1, h2⟩

theorem checkedI32_bind {β : Type} {x : Int} (h1 : -2147483648 ≤ x) (h2 : x < 2147483648)
    (f : Int → Option β) : checkedI32 x >>= f = f x := by
  rw [checkedI32_of_fits h1 h2]
  rfl

/-! ## The code of a nucleus -/

/-- The ten-digit code with proton field `z` and nucleon field `a`, in the ground state. -/
def nuclearCode (z a : Nat) : Species := ⟨nuclearBase + 10000 * z + 10 * a⟩

/-- Counts in range pass every checked step, so the code is built. -/
theorem ofZA?_of_counts {z a : Nat} (hz : z ≤ a) (ha0 : 0 < a) (ha : a < 1000) :
    ofZA? z a = some (nuclearCode z a) := by
  rw [ofZA?, if_neg (by omega), nuclearCode, nuclearBase]
  -- both counts and every intermediate value lie well inside the 32-bit range
  rw [checkedI32_bind (by omega) (by omega), checkedI32_bind (by omega) (by omega),
    checkedI32_bind (by omega) (by omega), checkedI32_bind (by omega) (by omega),
    checkedI32_bind (by omega) (by omega), checkedI32_bind (by omega) (by omega)]
  show some _ = some _
  congr 2
  omega

/-- The counts are refused exactly when there are more protons than nucleons, no nucleon, or
more nucleons than three digits hold. -/
theorem ofZA?_eq_none_iff (z a : Nat) : ofZA? z a = none ↔ z > a ∨ a = 0 ∨ a ≥ 1000 := by
  constructor
  · intro h
    by_cases hr : z > a ∨ a = 0 ∨ a ≥ 1000
    · exact hr
    · rw [ofZA?_of_counts (by omega) (by omega) (by omega)] at h
      cases h
  · intro h
    rw [ofZA?, if_pos h]

section Fields

variable {z a : Nat} (hz : z ≤ 999) (ha : a ≤ 999)
include hz ha

theorem isNucleus_nuclearCode : (nuclearCode z a).isNucleus = true := by
  simp only [isNucleus, nuclearCode, nuclearBase, nuclearLimit, Bool.and_eq_true]
  exact ⟨decide_eq_true (by omega), decide_eq_true (by omega)⟩

theorem massNumber_nuclearCode : (nuclearCode z a).massNumber = a := by
  rw [massNumber, if_pos (isNucleus_nuclearCode hz ha)]
  simp only [nuclearCode, nuclearBase]
  omega

theorem atomicNumber_nuclearCode : (nuclearCode z a).atomicNumber = z := by
  rw [atomicNumber, if_pos (isNucleus_nuclearCode hz ha)]
  simp only [nuclearCode, nuclearBase]
  omega

theorem neutronNumber_nuclearCode : (nuclearCode z a).neutronNumber = a - z := by
  rw [neutronNumber, massNumber_nuclearCode hz ha, atomicNumber_nuclearCode hz ha]

end Fields

theorem nuclearCode_emod_ten (z a : Nat) : (nuclearCode z a).pdg % 10 = 0 := by
  simp only [nuclearCode, nuclearBase]
  omega

/-- A nuclear code in the ground state is made of its two fields: the range of nuclei leaves
no room for a strangeness digit, and the last digit is zero. -/
theorem eq_nuclearCode {p : Species} (hp : p.isNucleus = true) (h10 : p.pdg % 10 = 0) :
    p = nuclearCode p.atomicNumber p.massNumber := by
  have hr : nuclearBase ≤ p.pdg ∧ p.pdg < nuclearLimit := by
    simpa [isNucleus] using hp
  obtain ⟨code⟩ := p
  simp only [nuclearBase, nuclearLimit] at hr
  rw [atomicNumber, massNumber, if_pos hp, if_pos hp]
  simp only [nuclearCode, nuclearBase, mk.injEq]
  simp only at h10 ⊢
  omega

/-- Counts in range build a ground-state nuclear code without overflow, and its fields read
back; the counts are refused exactly out of range; every such code is rebuilt from its counts. -/
theorem nuclear_codes_round_trip_through_counts :
    (∀ z a : Nat, z ≤ a → 1 ≤ a → a ≤ 999 →
      ∃ id, ofZA? z a = some id ∧ id.isNucleus = true ∧ id.massNumber = a ∧
        id.atomicNumber = z ∧ id.neutronNumber = a - z ∧ id.pdg % 10 = 0) ∧
    (∀ z a : Nat, ofZA? z a = none ↔ z > a ∨ a = 0 ∨ a ≥ 1000) ∧
    ∀ p : Species, p.isNucleus = true → p.pdg % 10 = 0 → 1 ≤ p.massNumber →
      p.atomicNumber ≤ p.massNumber → ofZA? p.atomicNumber p.massNumber = some p := by
  refine ⟨fun z a hz ha0 ha => ?_, ofZA?_eq_none_iff, fun p hp h10 ha0 hza => ?_⟩
  · have hz' : z ≤ 999 := by omega
    exact ⟨nuclearCode z a, ofZA?_of_counts hz ha0 (by omega), isNucleus_nuclearCode hz' ha,
      massNumber_nuclearCode hz' ha, atomicNumber_nuclearCode hz' ha,
      neutronNumber_nuclearCode hz' ha, nuclearCode_emod_ten z a⟩
  · have ha : p.massNumber < 1000 := by
      rw [massNumber, if_pos hp]
      omega
    rw [ofZA?_of_counts hza ha0 ha, ← eq_nuclearCode hp h10]

/-- Carbon-12 is built from 6 protons and 12 nucleons, and its code is rebuilt from the
counts it reads as. -/
theorem carbon_code_from_counts :
    (6 ≤ 12 ∧ 1 ≤ 12 ∧ 12 ≤ 999 ∧
      ∃ id, ofZA? 6 12 = some id ∧ id.isNucleus = true ∧ id.massNumber = 12 ∧
        id.atomicNumber = 6 ∧ id.neutronNumber = 12 - 6 ∧ id.pdg % 10 = 0) ∧
    ofZA? (⟨1000060120⟩ : Species).atomicNumber (⟨1000060120⟩ : Species).massNumber =
      some ⟨1000060120⟩ :=
  ⟨⟨by decide, by decide, by decide,
      nuclear_codes_round_trip_through_counts.1 6 12 (by decide) (by decide) (by decide)⟩,
    nuclear_codes_round_trip_through_counts.2.2 ⟨1000060120⟩ (by decide) (by decide) (by decide)
      (by decide)⟩

end Species

end FluxAverage
