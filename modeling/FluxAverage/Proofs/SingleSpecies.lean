-- Conversions on targets of one species. When the weight ledger holds one species of `A` nucleons
-- whose entry is the total weight, a conversion is the scale factor divided or multiplied by `A`,
-- to the bit in binary64; declared and best-estimate runs on one species have such a ledger.
import FluxAverage.Proofs.Exact
import FluxAverage.Proofs.Binary64

namespace FluxAverage

namespace Ledger

variable {α : Type}

theorem isEmpty_of_toList_eq_cons {l : Ledger α} {p : Species × α} {ps : List (Species × α)}
    (h : l.toList = p :: ps) : l.isEmpty = false := by
  obtain ⟨es⟩ := l
  cases es with
  | nil => simp [Ledger.toList] at h
  | cons _ _ => rfl

theorem species_of_toList {l : Ledger α} {t : Species} {W : α} (h : l.toList = [(t, W)]) :
    l.species = [t] := by
  rw [← Ledger.map_fst_toList, h]
  rfl

end Ledger

namespace Rescale

variable {α : Type} [Scalar α]

/-- The factor converting a cross section on targets of one species of `A` nucleons between
standard systems with scale factor `sf`: `sf` for the same normalisation, `sf / A` from per
target to per nucleon and `sf · A` from per nucleon to per target. -/
def singleSpeciesFactor (N u : UnitSystem) (sf : α) (A : Nat) : α :=
  if N.norm = u.norm then sf
  else if N.norm = .perTarget then sf / Scalar.ofNat A
  else sf * Scalar.ofNat A

/-- On a ledger whose one entry is the total weight, each sum of a conversion has one term. -/
theorem factor_single_species {N u : UnitSystem} (hN : N.isConcrete) (hu : u.isConcrete)
    {sf : α} (hsf : scaleFactor N.scale u.scale = .ok sf) {weights : Ledger α} {t : Species}
    {W : α} (hl : weights.toList = [(t, W)]) (hA : t.massNumber ≠ 0)
    (hW : Scalar.le (Scalar.abs W) Scalar.zero = false) :
    factor N u weights W = .ok
      (if N.norm = u.norm then sf
      else if N.norm = .perTarget then
        (KahanSum.empty.add (sf * (W / W) / Scalar.ofNat t.massNumber)).value
      else (KahanSum.empty.add
        (sf * (KahanSum.empty.add (Scalar.ofNat t.massNumber : α)).value * (W / W))).value) := by
  have hfind : weights.toList.find? (·.1.massNumber == 0) = none := by
    simp [hl, hA]
  have hn : totalNucleons weights = (KahanSum.empty.add (Scalar.ofNat t.massNumber : α)).value := by
    simp only [totalNucleons, Ledger.species_of_toList hl]
    rfl
  rw [factor_eq hN hu hsf (Ledger.isEmpty_of_toList_eq_cons hl) W]
  simp only [hW, Bool.false_eq_true, ↓reduceIte]
  by_cases hnorm : N.norm = u.norm
  · rw [if_pos hnorm, if_pos hnorm]
  rw [if_neg hnorm, if_neg hnorm]
  by_cases hT : N.norm = .perTarget
  · rw [if_pos hT, if_pos hT, hfind, hl]
    rfl
  · rw [if_neg hT, if_neg hT, hl, hn]
    rfl

/-! ## In binary64 -/

theorem sign_picobarns {a : Scale} {p : Float} (h : a.picobarns = some p) :
    Binary64.sign p.toModel.unpack = .positive := by
  cases a <;> simp only [Scale.picobarns, Option.some.injEq, reduceCtorEq] at h <;>
    rw [← h] <;> exact Binary64.float_sign_ofScientific _ _ _

theorem sign_scaleFactor {N u : UnitSystem} (hN : N.isConcrete) (hu : u.isConcrete) {sf : Float}
    (hsf : scaleFactor N.scale u.scale = .ok sf) : Binary64.sign sf.toModel.unpack = .positive := by
  obtain ⟨p, hp⟩ := UnitSystem.picobarns_of_concrete (α := Float) hN
  obtain ⟨q, hq⟩ := UnitSystem.picobarns_of_concrete (α := Float) hu
  rw [scaleFactor_eq hp hq] at hsf
  cases hsf
  split
  · exact Binary64.float_sign_ofNat 1
  · exact Binary64.float_sign_div (sign_picobarns hp) (sign_picobarns hq)

/-- In binary64 the one-species conversion is exact: `W / W` is one, `sf · 1` is `sf`, and a
one-term compensated sum of a value with a clear sign bit is the value. -/
theorem factor_single_species_float {N u : UnitSystem} (hN : N.isConcrete) (hu : u.isConcrete)
    {sf : Float} (hsf : scaleFactor N.scale u.scale = .ok sf) {weights : Ledger Float}
    {t : Species} {W : Float} (hl : weights.toList = [(t, W)]) (hA : t.massNumber ≠ 0)
    (hf : W.isFinite = true) (hz : (W == 0) = false) :
    factor N u weights W = .ok (singleSpeciesFactor N u sf t.massNumber) := by
  have hsign := sign_scaleFactor hN hu hsf
  have hnuc := Binary64.float_sign_ofNat t.massNumber
  rw [factor_single_species hN hu hsf hl hA (Binary64.float_abs_le_zero hf hz),
    Binary64.float_div_self hf hz, Binary64.float_value_add_empty hnuc]
  simp only [Binary64.float_mul_one]
  unfold singleSpeciesFactor
  split_ifs
  · rfl
  · rw [Binary64.float_value_add_empty (Binary64.float_sign_div hsign hnuc)]
  · rw [Binary64.float_value_add_empty (Binary64.float_sign_mul hsign hnuc)]

/-! ## Over the rationals -/

theorem factor_single_species_rat {N u : UnitSystem} (hN : N.isConcrete) (hu : u.isConcrete)
    {sf : ℚ} (hsf : scaleFactor N.scale u.scale = .ok sf) {weights : Ledger ℚ} {t : Species}
    {W : ℚ} (hl : weights.toList = [(t, W)]) (hA : t.massNumber ≠ 0) (hW : W ≠ 0) :
    factor N u weights W = .ok (singleSpeciesFactor N u sf t.massNumber) := by
  have hvalue : ∀ x : ℚ, (KahanSum.empty.add x).value = x := fun x => by
    show (KahanSum.ofList [x]).value = x
    simp
  rw [factor_single_species hN hu hsf hl hA (by rw [Scalar.le_abs_zero_rat]; simp [hW])]
  simp only [hvalue, div_self hW, mul_one, singleSpeciesFactor]

theorem picobarns_ne_zero {a : Scale} {p : ℚ} (h : a.picobarns = some p) : p ≠ 0 := by
  cases a <;> simp only [Scale.picobarns, Option.some.injEq, reduceCtorEq] at h <;>
    rw [← h] <;> norm_num

/-- Over the rationals the scale factors there and back multiply to one. -/
theorem scaleFactor_mul_swap {N u : UnitSystem} (hN : N.isConcrete) (hu : u.isConcrete)
    {sf sf' : ℚ} (hsf : scaleFactor N.scale u.scale = .ok sf)
    (hsf' : scaleFactor u.scale N.scale = .ok sf') : sf * sf' = 1 := by
  obtain ⟨p, hp⟩ := UnitSystem.picobarns_of_concrete (α := ℚ) hN
  obtain ⟨q, hq⟩ := UnitSystem.picobarns_of_concrete (α := ℚ) hu
  rw [scaleFactor_eq hp hq] at hsf
  rw [scaleFactor_eq hq hp] at hsf'
  cases hsf
  cases hsf'
  by_cases h : N.scale = u.scale
  · simp [h]
  · rw [if_neg h, if_neg (Ne.symm h)]
    field_simp [picobarns_ne_zero hp, picobarns_ne_zero hq]

theorem singleSpeciesFactor_mul_swap {N u : UnitSystem} (hN : N.isConcrete) (hu : u.isConcrete)
    {sf sf' : ℚ} (hs : sf * sf' = 1) {A : Nat} (hA : A ≠ 0) :
    singleSpeciesFactor N u sf A * singleSpeciesFactor u N sf' A = 1 := by
  have hA' : (A : ℚ) ≠ 0 := Nat.cast_ne_zero.2 hA
  unfold singleSpeciesFactor
  rcases UnitSystem.norm_of_concrete hN with h1 | h1 <;>
    rcases UnitSystem.norm_of_concrete hu with h2 | h2 <;> simp only [h1, h2]
  · simpa using hs
  · simp only [reduceCtorEq, if_false, if_true, Scalar.ofNat_rat]
    field_simp
    exact hs
  · simp only [reduceCtorEq, if_false, if_true, Scalar.ofNat_rat]
    field_simp
    exact hs
  · simpa using hs

end Rescale

namespace Ledger

variable {α : Type} [Scalar α]

theorem recordAll_one_species {t : Species} {l : Ledger α} {k : KahanSum α}
    (hl : l.entries = [(t, k)]) {ps : List (Species × α)} (h : ∀ p ∈ ps, p.1 = t) :
    (l.recordAll ps).entries = [(t, k.addAll (ps.map (·.2)))] := by
  induction ps generalizing l k with
  | nil => exact hl
  | cons p ps ih =>
    obtain ⟨s, x⟩ := p
    obtain rfl : s = t := h (s, x) List.mem_cons_self
    have hrec : (l.record s x).entries = [(s, k.add x)] := by
      simp [record, recordIn, hl]
    rw [recordAll_cons, ih hrec fun p hp => h p (List.mem_cons_of_mem _ hp)]
    rfl

theorem toList_recordAll_one_species {t : Species} {ps : List (Species × α)}
    (h : ∀ p ∈ ps, p.1 = t) (hne : ps ≠ []) :
    (empty.recordAll ps).toList = [(t, (KahanSum.ofList (ps.map (·.2))).value)] := by
  obtain ⟨⟨s, x⟩, ps, rfl⟩ := List.exists_cons_of_ne_nil hne
  obtain rfl : s = t := h (s, x) List.mem_cons_self
  have hrec : ((empty : Ledger α).record s x).entries = [(s, KahanSum.empty.add x)] := rfl
  rw [recordAll_cons, toList, recordAll_one_species hrec fun p hp => h p (List.mem_cons_of_mem _ hp)]
  rfl

end Ledger

namespace Accumulator

variable {α : Type} [Scalar α]

/-- When every counted call targets one species, the ledger's one entry is the summed weight:
both are the compensated sum of the counted weights in order. -/
theorem weights_toList_one_species {s : Strategy} {i : Option Nat} {calls : List (Run × Event)}
    {t : Species} (h : ∀ p ∈ (new s i : Accumulator α).recorded calls, p.1 = t)
    (hne : (new s i : Accumulator α).recorded calls ≠ []) :
    ((new s i : Accumulator α).runAll calls).weights.toList =
      [(t, ((new s i : Accumulator α).runAll calls).sumweights)] := by
  obtain ⟨hsum, hw, -⟩ := runAll_books (new s i : Accumulator α) calls
  rw [hw, sumweights, hsum]
  exact Ledger.toList_recordAll_one_species h hne

theorem estimator_ne_ratio {s : Strategy} (hs : s = .declared ∨ s = .bestEstimate)
    (i : Option Nat) (calls : List (Run × Event)) (b : RatioBooks α) :
    ((new s i : Accumulator α).runAll calls).estimator ≠ .ratio b := by
  intro hb
  have h : ((new s i : Accumulator α).runAll calls).strategy = .ratio := by
    simp [strategy, hb, Estimator.strategy]
  rw [(runAll_keeps _ calls).1, new_strategy] at h
  rcases hs with rfl | rfl <;> cases h

theorem recorded_ne_nil {s : Strategy} {i : Option Nat} {calls : List (Run × Event)}
    (hz : (((new s i : Accumulator Float).runAll calls).sumweights == 0) = false) :
    (new s i : Accumulator Float).recorded calls ≠ [] := by
  intro hnil
  have hstart : (new s i : Accumulator Float).sumWeights = KahanSum.empty := rfl
  rw [sumweights, (runAll_books (new s i : Accumulator Float) calls).1, hnil, hstart] at hz
  exact absurd hz (by decide +kernel)

/-- A declared or best-estimate accumulation in binary64 whose counted calls all target one
species, with a finite nonzero summed weight, answers exactly its estimate times the
one-species factor. -/
theorem fatx_one_species_float {s : Strategy} (hs : s = .declared ∨ s = .bestEstimate)
    {i : Option Nat} {calls : List (Run × Event)} {t : Species} {F : Float} {u : UnitSystem}
    (h : ∀ p ∈ (new s i : Accumulator Float).recorded calls, p.1 = t) (hA : t.massNumber ≠ 0)
    (hf : ((new s i : Accumulator Float).runAll calls).sumweights.isFinite = true)
    (hz : (((new s i : Accumulator Float).runAll calls).sumweights == 0) = false)
    (hx : ((new s i : Accumulator Float).runAll calls).pointEstimate = .ok F)
    (hu : u.isConcrete) :
    ∃ sf, Rescale.scaleFactor ((new s i : Accumulator Float).runAll calls).nativeUnits.scale
        u.scale = .ok sf ∧
      ((new s i : Accumulator Float).runAll calls).fatx u = .ok (F * Rescale.singleSpeciesFactor
        ((new s i : Accumulator Float).runAll calls).nativeUnits u sf t.massNumber) := by
  have hsd : s ≠ .dummy := by rcases hs with rfl | rfl <;> decide
  have hacs : ((new s i : Accumulator Float).runAll calls).strategy ≠ .dummy := by
    rw [(runAll_keeps _ calls).1, new_strategy]
    exact hsd
  have hc := consistent_runAll (consistent_new (α := Float) hsd i) (by rw [new_strategy]; exact hsd)
    calls
  have hauto := hc.settled (by rw [hx]; rfl)
  have hN := hc.concrete hauto
  obtain ⟨sf, hsf⟩ := Rescale.scaleFactor_concrete (α := Float) hN hu
  refine ⟨sf, hsf, ?_⟩
  by_cases hnat : u = ((new s i : Accumulator Float).runAll calls).nativeUnits
  · rw [hnat] at hsf ⊢
    rw [fatx_native hacs hauto hx]
    simp only [Rescale.scaleFactor, if_true] at hsf
    cases hsf
    simp only [Rescale.singleSpeciesFactor, if_true, Binary64.float_mul_one]
  · rw [fatx_convert hacs hauto hx hnat hu]
    split
    · rename_i b hb
      exact absurd hb (estimator_ne_ratio hs i calls b)
    · rw [Rescale.factor_single_species_float hN hu hsf (weights_toList_one_species h (recorded_ne_nil hz)) hA hf hz]
      rfl

end Accumulator

/-- On one species of `A` nucleons a conversion is exact: in binary64 the factor is `sf`, `sf / A`
or `sf · A` to the bit, which a one-species accumulation answers with; over the rationals there
and back is one. -/
theorem one_species_conversions_are_exact :
    (∀ (N u : UnitSystem) (weights : Ledger Float) (t : Species) (W : Float),
      N.isConcrete → u.isConcrete → weights.toList = [(t, W)] → 0 < t.massNumber →
      W.isFinite = true → (W == 0) = false →
      ∃ sf, Rescale.scaleFactor N.scale u.scale = .ok sf ∧
        Rescale.factor N u weights W = .ok (Rescale.singleSpeciesFactor N u sf t.massNumber)) ∧
    (∀ (s : Strategy) (i : Option Nat) (calls : List (Run × Event)) (t : Species) (F : Float)
      (u : UnitSystem), (s = .declared ∨ s = .bestEstimate) →
      let acc : Accumulator Float := (Accumulator.new s i).runAll calls
      (∀ p ∈ (Accumulator.new s i : Accumulator Float).recorded calls, p.1 = t) →
      0 < t.massNumber → acc.sumweights.isFinite = true → (acc.sumweights == 0) = false →
      acc.pointEstimate = .ok F → u.isConcrete →
      acc.weights.toList = [(t, acc.sumweights)] ∧
      ∃ sf, Rescale.scaleFactor acc.nativeUnits.scale u.scale = .ok sf ∧
        acc.fatx u = .ok (F * Rescale.singleSpeciesFactor acc.nativeUnits u sf t.massNumber)) ∧
    ∀ (u₁ u₂ : UnitSystem) (weights : Ledger ℚ) (t : Species) (W : ℚ),
      u₁.isConcrete → u₂.isConcrete → weights.toList = [(t, W)] → 0 < t.massNumber → W ≠ 0 →
      ∃ a b, Rescale.factor u₁ u₂ weights W = .ok a ∧ Rescale.factor u₂ u₁ weights W = .ok b ∧
        a * b = 1 := by
  refine ⟨?_, ?_, ?_⟩
  · intro N u weights t W hN hu hl hA hf hz
    obtain ⟨sf, hsf⟩ := Rescale.scaleFactor_concrete (α := Float) hN hu
    exact ⟨sf, hsf, Rescale.factor_single_species_float hN hu hsf hl (by omega) hf hz⟩
  · intro s i calls t F u hs acc h hA hf hz hx hu
    exact ⟨Accumulator.weights_toList_one_species h (Accumulator.recorded_ne_nil hz),
      Accumulator.fatx_one_species_float hs h (by omega) hf hz hx hu⟩
  · intro u₁ u₂ weights t W h₁ h₂ hl hA hW
    obtain ⟨sf, hsf⟩ := Rescale.scaleFactor_concrete (α := ℚ) h₁ h₂
    obtain ⟨sf', hsf'⟩ := Rescale.scaleFactor_concrete (α := ℚ) h₂ h₁
    refine ⟨_, _, Rescale.factor_single_species_rat h₁ h₂ hsf hl (by omega) hW,
      Rescale.factor_single_species_rat h₂ h₁ hsf' hl (by omega) hW, ?_⟩
    exact Rescale.singleSpeciesFactor_mul_swap h₁ h₂
      (Rescale.scaleFactor_mul_swap h₁ h₂ hsf hsf') (by omega)

/-- Carbon 12 converts to per nucleon by the scale factor over twelve, two best estimates on it
answer the last times that factor, and lead 208 converts there and back to one. -/
theorem carbon_and_lead_convert_exactly :
    let w : Ledger Float := Ledger.empty.record ⟨1000060120⟩ 2.5
    let calls : List (Run × Event) :=
      [(Run.new, ((Event.new 0).withTarget ⟨1000060120⟩).withCrossSection [2.5]),
        (Run.new, ((Event.new 1).withTarget ⟨1000060120⟩).withCrossSection [3.0])]
    let acc : Accumulator Float := (Accumulator.new .bestEstimate none).runAll calls
    let q : Ledger ℚ := Ledger.empty.record ⟨1000822080⟩ 5
    (w.toList = [(⟨1000060120⟩, 2.5)] ∧ (2.5 : Float).isFinite = true ∧
      ((2.5 : Float) == 0) = false ∧
      ∃ sf, Rescale.scaleFactor .picobarn .cm2E38 = .ok sf ∧
        Rescale.factor .pbPerTarget .cm2E38PerNucleon w 2.5 =
          .ok (Rescale.singleSpeciesFactor .pbPerTarget .cm2E38PerNucleon sf 12)) ∧
    ((∀ p ∈ (Accumulator.new .bestEstimate none : Accumulator Float).recorded calls,
        p.1 = ⟨1000060120⟩) ∧
      acc.sumweights.isFinite = true ∧ (acc.sumweights == 0) = false ∧
      acc.pointEstimate = .ok 3.0 ∧ acc.weights.toList = [(⟨1000060120⟩, acc.sumweights)] ∧
      ∃ sf, Rescale.scaleFactor acc.nativeUnits.scale .cm2E38 = .ok sf ∧
        acc.fatx .cm2E38PerNucleon =
          .ok (3.0 * Rescale.singleSpeciesFactor acc.nativeUnits .cm2E38PerNucleon sf 12)) ∧
    q.toList = [(⟨1000822080⟩, 5)] ∧
      ∃ a b, Rescale.factor .pbPerTarget .cm2E38PerNucleon q 5 = .ok a ∧
        Rescale.factor .cm2E38PerNucleon .pbPerTarget q 5 = .ok b ∧ a * b = 1 := by
  intro w calls acc q
  have hC : Species.massNumber ⟨1000060120⟩ = 12 := by decide
  have hw : w.toList = [(⟨1000060120⟩, 2.5)] := by decide +kernel
  have hf : (2.5 : Float).isFinite = true := by decide +kernel
  have hz : ((2.5 : Float) == 0) = false := by decide +kernel
  have hrec : ∀ p ∈ (Accumulator.new .bestEstimate none : Accumulator Float).recorded calls,
      p.1 = ⟨1000060120⟩ := by decide +kernel
  have hsf : acc.sumweights.isFinite = true := by decide +kernel
  have hsz : (acc.sumweights == 0) = false := by decide +kernel
  have hx : acc.pointEstimate = .ok 3.0 := rfl
  have hq : q.toList = [(⟨1000822080⟩, 5)] := by decide +kernel
  have h := one_species_conversions_are_exact
  have h₁ := h.1 .pbPerTarget .cm2E38PerNucleon w ⟨1000060120⟩ 2.5 (by decide) (by decide) hw
    (by decide) hf hz
  have h₂ := h.2.1 .bestEstimate none calls ⟨1000060120⟩ 3.0 .cm2E38PerNucleon (.inr rfl) hrec
    (by decide) hsf hsz hx (by decide)
  rw [hC] at h₁ h₂
  exact ⟨⟨hw, hf, hz, h₁⟩, ⟨hrec, hsf, hsz, hx, h₂⟩, hq,
    h.2.2 .pbPerTarget .cm2E38PerNucleon q ⟨1000822080⟩ 5 (by decide) (by decide) hq (by decide)
      (by norm_num)⟩

end FluxAverage
