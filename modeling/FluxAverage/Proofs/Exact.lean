-- The conversions over exact arithmetic. At the rationals the compensated sums are plain sums, so
-- the weight ledger balances against the summed weight: per nucleon an estimate is shared by
-- weight, per target it is multiplied by the nucleons of all species.
import Mathlib
import FluxAverage.Proofs.Request
import FluxAverage.Proofs.RatioLockstep

namespace FluxAverage

namespace Scalar

/-! ## The rationals as a number system -/

@[simp] theorem ofNat_rat (n : ℕ) : (ofNat n : ℚ) = n := rfl

@[simp] theorem zero_rat : (zero : ℚ) = 0 := by simp [zero]

@[simp] theorem one_rat : (one : ℚ) = 1 := by simp [one]

@[simp] theorem le_abs_zero_rat (q : ℚ) : le (abs q) zero = decide (q = 0) := by
  simp only [le, abs, zero_rat, decide_eq_decide]
  split <;> constructor <;> intro h <;> linarith

end Scalar

namespace KahanSum

/-- Over the rationals compensation never acts: the correction stays zero and the sum is
exact. -/
theorem addAll_exact (s : ℚ) (xs : List ℚ) :
    (⟨s, 0⟩ : KahanSum ℚ).addAll xs = ⟨s + xs.sum, 0⟩ := by
  induction xs generalizing s with
  | nil => simp
  | cons x xs ih =>
    have hstep : (⟨s, 0⟩ : KahanSum ℚ).add x = ⟨s + x, 0⟩ := by
      simp only [add, mk.injEq]
      constructor <;> ring
    rw [addAll_cons, hstep, ih, List.sum_cons, add_assoc]

@[simp] theorem value_ofList_rat (xs : List ℚ) : (ofList xs).value = xs.sum := by
  have h0 : (empty : KahanSum ℚ) = ⟨0, 0⟩ := by
    simp [empty, Scalar.zero, Scalar.ofNat]
  rw [ofList_eq_addAll, h0, addAll_exact, value, zero_add]

end KahanSum

namespace Ledger

variable {α : Type}

/-! ## Ledgers of exact weights -/

theorem toFinset_species_recordAll [Scalar α] (ps : List (Species × α)) :
    (empty.recordAll ps).species.toFinset = (ps.map (·.1)).toFinset := by
  ext t
  simp only [List.mem_toFinset, mem_species_recordAll_empty]

/-- Summing over the entries of a ledger of exact weights recorded from empty is summing over
the species of its terms, each with the sum of its own terms. -/
theorem sum_toList_recordAll (ps : List (Species × ℚ)) (g : Species → ℚ → ℚ) :
    ((empty.recordAll ps).toList.map fun p => g p.1 p.2).sum =
      ∑ t ∈ (ps.map (·.1)).toFinset, g t ((ps.filter (·.1 == t)).map (·.2)).sum := by
  have hentry : ∀ p ∈ (empty.recordAll ps).toList,
      g p.1 p.2 = g p.1 ((ps.filter (·.1 == p.1)).map (·.2)).sum := by
    intro p hp
    have hg := get?_of_mem_toList hp
    rw [get?_recordAll_empty, tally] at hg
    split at hg
    · simp only [Option.some.injEq, KahanSum.value_ofList_rat] at hg
      rw [hg]
    · cases hg
  have hspecies : (empty.recordAll ps).toList.map
        (fun p => g p.1 ((ps.filter (·.1 == p.1)).map (·.2)).sum) =
      (empty.recordAll ps).species.map fun t => g t ((ps.filter (·.1 == t)).map (·.2)).sum := by
    rw [← map_fst_toList, List.map_map]; rfl
  rw [List.map_congr_left hentry, hspecies, ← List.sum_toFinset _ (nodup_species _),
    toFinset_species_recordAll]

theorem sum_species_sums (ps : List (Species × ℚ)) :
    ∑ t ∈ (ps.map (·.1)).toFinset, ((ps.filter (·.1 == t)).map (·.2)).sum = (ps.map (·.2)).sum := by
  induction ps with
  | nil => simp
  | cons p ps ih =>
    obtain ⟨t0, w0⟩ := p
    have hsplit : ∀ t, ((((t0, w0) :: ps).filter (·.1 == t)).map (·.2)).sum =
        (if t0 = t then w0 else 0) + ((ps.filter (·.1 == t)).map (·.2)).sum := by
      intro t
      by_cases h : t0 = t <;> simp [h]
    have hrest : ∑ t ∈ insert t0 (ps.map (·.1)).toFinset, ((ps.filter (·.1 == t)).map (·.2)).sum =
        ∑ t ∈ (ps.map (·.1)).toFinset, ((ps.filter (·.1 == t)).map (·.2)).sum := by
      by_cases hm : t0 ∈ (ps.map (·.1)).toFinset
      · rw [Finset.insert_eq_of_mem hm]
      · rw [Finset.sum_insert hm]
        have hnil : ps.filter (·.1 == t0) = [] := List.filter_eq_nil_iff.2 fun q hq he =>
          hm (List.mem_toFinset.2 (List.mem_map.2 ⟨q, hq, by simpa using he⟩))
        simp [hnil]
    simp only [hsplit, Finset.sum_add_distrib, List.map_cons, List.toFinset_cons, List.sum_cons,
      Finset.sum_ite_eq, Finset.mem_insert_self, if_true, hrest, ih]

theorem totalNucleons_recordAll (ps : List (Species × ℚ)) :
    Rescale.totalNucleons (empty.recordAll ps) = ∑ t ∈ (ps.map (·.1)).toFinset, (t.massNumber : ℚ) := by
  rw [Rescale.totalNucleons, KahanSum.value_ofList_rat, ← toFinset_species_recordAll,
    List.sum_toFinset _ (nodup_species _)]
  simp

/-! ## The ledgers of the ratio books -/

theorem get?_recordAll_exact {ps : List (Species × ℚ)} {t : Species} (ht : t ∈ ps.map (·.1)) :
    (empty.recordAll ps).get? t = some ((ps.filter (·.1 == t)).map (·.2)).sum := by
  rw [get?_recordAll_empty, tally, if_pos ht, KahanSum.value_ofList_rat]

/-- Summing over the reciprocal ledger of exact ratio terms, with each species' weight looked
up in the weight ledger, is summing over the species of the terms, each with its summed weight
and its summed weight per cross section. -/
theorem sum_reciprocals_recordAll (S : List (Species × ℚ × ℚ)) (g : Species → ℚ → ℚ → ℚ) :
    ((empty.recordAll (S.map fun x => (x.1, x.2.1 / x.2.2))).toList.map fun p =>
        g p.1 (((empty.recordAll (S.map fun x => (x.1, x.2.1))).get? p.1).getD 0) p.2).sum =
      ∑ t ∈ (S.map (·.1)).toFinset, g t ((S.filter (·.1 == t)).map (·.2.1)).sum
        ((S.filter (·.1 == t)).map fun x => x.2.1 / x.2.2).sum := by
  have hspecies : ((S.map fun x => (x.1, x.2.1 / x.2.2)).map (·.1)) = S.map (·.1) := by
    rw [List.map_map]; rfl
  rw [sum_toList_recordAll _ fun t x =>
    g t (((empty.recordAll (S.map fun x => (x.1, x.2.1))).get? t).getD 0) x, hspecies]
  refine Finset.sum_congr rfl fun t ht => ?_
  have hmem : t ∈ (S.map fun x => (x.1, x.2.1)).map (·.1) := by
    rw [List.map_map]; exact List.mem_toFinset.1 ht
  rw [get?_recordAll_exact hmem, filter_map_pairs S (·.2.1), Option.getD_some,
    filter_map_pairs S fun x => x.2.1 / x.2.2]

theorem mem_of_mem_toList_recordAll [Scalar α] {ps : List (Species × α)} {p : Species × α}
    (hp : p ∈ (empty.recordAll ps).toList) : p.1 ∈ ps.map (·.1) := by
  rw [← mem_species_recordAll_empty, ← map_fst_toList]
  exact List.mem_map_of_mem hp

end Ledger

namespace Accumulator

/-- Over exact arithmetic, a declared or best-estimate accumulation with an estimate `F` converts it
by `F · sf`, times the weight shares over nucleons per nucleon or the nucleons of all species per
target. -/
theorem fatx_exact_by_weight_shares (s : Strategy) (hs : s = .declared ∨ s = .bestEstimate)
    (i : Option Nat) (calls : List (Run × Event)) (F : ℚ) (u : UnitSystem) (p q : ℚ) :
    let start : Accumulator ℚ := new s i
    let acc := start.runAll calls
    let ps := start.recorded calls
    let W := (ps.map (·.2)).sum
    let w := fun t => ((ps.filter (·.1 == t)).map (·.2)).sum
    let S := (ps.map (·.1)).toFinset
    let N := acc.nativeUnits
    let sf := if N.scale = u.scale then 1 else p / q
    N.isAutomatic = false → acc.pointEstimate = .ok F → u.isConcrete → u ≠ N →
    N.scale.picobarns = some p → u.scale.picobarns = some q →
    (u.norm = N.norm → acc.fatx u = .ok (F * sf)) ∧
    (N.norm = .perTarget → u.norm = .perNucleon → W ≠ 0 → (∀ t ∈ S, 1 ≤ t.massNumber) →
      acc.fatx u = .ok (F * sf * ∑ t ∈ S, w t / W / t.massNumber)) ∧
    (N.norm = .perNucleon → u.norm = .perTarget → W ≠ 0 →
      acc.fatx u = .ok (F * sf * ∑ t ∈ S, (t.massNumber : ℚ))) := by
  intro start acc ps W w S N sf hauto hx hu hne hp hq
  have hsd : s ≠ .dummy := by rcases hs with rfl | rfl <;> decide
  have hstart : start.strategy ≠ .dummy := by simpa [start] using hsd
  have h : acc.Consistent := consistent_runAll (consistent_new hsd i) hstart calls
  have hacc : acc.strategy ≠ .dummy := by rw [(runAll_keeps _ calls).1]; exact hstart
  obtain ⟨hsum, hledger, -⟩ := runAll_books start calls
  have hW : acc.sumweights = W := by
    show (start.runAll calls).sumWeights.value = W
    rw [hsum]
    show (KahanSum.empty.addAll _).value = W
    rw [← KahanSum.ofList_eq_addAll, KahanSum.value_ofList_rat]
  have hwts : acc.weights = Ledger.empty.recordAll ps := hledger
  have hN := h.concrete hauto
  have hsf : Rescale.scaleFactor N.scale u.scale = .ok sf := by
    rw [Rescale.scaleFactor_eq hp hq, Scalar.one_rat]
  have hne_empty : acc.weights.isEmpty = false :=
    h.weighed (by simp [hx, Except.isOk, Except.toBool])
  have hconv : acc.fatx u = (F * ·) <$> Rescale.factor N u acc.weights acc.sumweights := by
    rw [fatx_convert hacc hauto hx hne hu]
    have hst : acc.strategy = s := by rw [(runAll_keeps start calls).1]; exact new_strategy s i
    cases he : acc.estimator with
    | ratio b => simp only [strategy, he, Estimator.strategy] at hst; rcases hs with rfl | rfl <;> cases hst
    | _ => rfl
  rw [hconv, Rescale.factor_eq hN hu hsf hne_empty, hW]
  refine ⟨fun hn => ?_, fun hT hNu hW0 hA => ?_, fun hNn hT hW0 => ?_⟩
  · rw [if_pos hn.symm]; rfl
  · rw [if_neg (by rw [hT, hNu]; decide), Scalar.le_abs_zero_rat, if_neg (by simpa using hW0),
      if_pos hT]
    have hfind : acc.weights.toList.find? (·.1.massNumber == 0) = none := by
      refine List.find?_eq_none.2 fun p hp => ?_
      have hmem : p.1 ∈ S := by
        show p.1 ∈ (ps.map (·.1)).toFinset
        rw [← Ledger.toFinset_species_recordAll, ← hwts, ← Ledger.map_fst_toList]
        exact List.mem_toFinset.2 (List.mem_map_of_mem hp)
      have hA1 := hA p.1 hmem
      simp only [beq_iff_eq]
      omega
    rw [hfind]
    show Except.ok (F * (KahanSum.ofList (acc.weights.toList.map fun p =>
      sf * (p.2 / W) / (p.1.massNumber : ℚ))).value) = _
    rw [KahanSum.value_ofList_rat, hwts,
      Ledger.sum_toList_recordAll ps fun t x => sf * (x / W) / t.massNumber]
    rw [mul_assoc]
    congr 2
    rw [Finset.mul_sum]
    exact Finset.sum_congr rfl fun t _ => by ring
  · rw [if_neg (by rw [hT, hNn]; decide), Scalar.le_abs_zero_rat, if_neg (by simpa using hW0),
      if_neg (by rw [hNn]; decide)]
    show Except.ok (F * (KahanSum.ofList (acc.weights.toList.map fun p =>
      sf * Rescale.totalNucleons acc.weights * (p.2 / W))).value) = _
    -- the species' shares of the weight add up to one
    rw [KahanSum.value_ofList_rat, hwts,
      Ledger.sum_toList_recordAll ps fun _ x => sf * Rescale.totalNucleons (Ledger.empty.recordAll ps) * (x / W),
      ← Finset.mul_sum, ← Finset.sum_div, Ledger.sum_species_sums, div_self hW0,
      Ledger.totalNucleons_recordAll, mul_one, mul_assoc]

/-- One event on carbon 12 with best estimate 2.5 pb per target: in nanobarns the estimate is
a thousandth, and per nucleon a twelfth. -/
theorem carbon_estimate_converted :
    let acc : Accumulator ℚ := (new .bestEstimate none).runAll
      [(Run.new, ((Event.new 0).withTarget ⟨1000060120⟩).withCrossSection [2.5])]
    acc.fatx ⟨.nanobarn, .perTarget⟩ = .ok (Float.toRat 2.5 / 1000) ∧
      acc.fatx ⟨.picobarn, .perNucleon⟩ = .ok (Float.toRat 2.5 / 12) := by
  intro acc
  have hps : (new .bestEstimate none : Accumulator ℚ).recorded
      [(Run.new, ((Event.new 0).withTarget ⟨1000060120⟩).withCrossSection [2.5])] =
        [(⟨1000060120⟩, 1)] := rfl
  have hA : Species.massNumber ⟨1000060120⟩ = 12 := by decide
  have hN : ((new .bestEstimate none : Accumulator ℚ).runAll
      [(Run.new, ((Event.new 0).withTarget ⟨1000060120⟩).withCrossSection [2.5])]).nativeUnits =
        .pbPerTarget := by decide
  constructor
  · have h := (fatx_exact_by_weight_shares .bestEstimate (.inr rfl) none
      [(Run.new, ((Event.new 0).withTarget ⟨1000060120⟩).withCrossSection [2.5])] (Float.toRat 2.5)
      ⟨.nanobarn, .perTarget⟩ 1.0 1e3 (by decide) rfl (by decide) (by decide) rfl rfl).1 rfl
    have hsc : Scale.picobarn ≠ Scale.nanobarn := by decide
    rw [h, hN]
    norm_num [UnitSystem.pbPerTarget, hsc]
    ring
  · have h := (fatx_exact_by_weight_shares .bestEstimate (.inr rfl) none
      [(Run.new, ((Event.new 0).withTarget ⟨1000060120⟩).withCrossSection [2.5])] (Float.toRat 2.5)
      ⟨.picobarn, .perNucleon⟩ 1.0 1.0 (by decide) rfl (by decide) (by decide) rfl rfl).2.1 rfl rfl
      (by rw [hps]; norm_num) (by rw [hps]; simp [hA])
    rw [h, hps, hN]
    norm_num [UnitSystem.pbPerTarget, hA]
    ring

/-! ## The ratio strategy -/

theorem pointEstimate_ratio {α : Type} [Scalar α] {acc : Accumulator α} {b : RatioBooks α}
    (he : acc.estimator = .ratio b) (hr : b.reciprocals.isEmpty = false) :
    acc.pointEstimate = .ok (b.weight.value / b.reciprocal.value) := by
  simp [pointEstimate, he, hr]

/-- Over exact arithmetic the ratio books after a sequence of calls are the exact sums of the
calls' ratio terms. -/
theorem runAll_ratio_exact (i : Option Nat) (calls : List (Run × Event)) :
    let start : Accumulator ℚ := new .ratio i
    let S := start.ratioTerms calls
    ∃ b, (start.runAll calls).estimator = .ratio b ∧
      b.weight.value = (S.map (·.2.1)).sum ∧
      b.reciprocal.value = (S.map fun x => x.2.1 / x.2.2).sum ∧
      b.weights = Ledger.empty.recordAll (S.map fun x => (x.1, x.2.1)) ∧
      b.reciprocals = Ledger.empty.recordAll (S.map fun x => (x.1, x.2.1 / x.2.2)) := by
  intro start S
  obtain ⟨b, hb, h⟩ := runAll_builtFrom (α := ℚ) i calls
  refine ⟨b, hb, ?_, ?_, h.weights, h.reciprocals⟩
  · rw [h.weight, KahanSum.value_ofList_rat]
  · rw [h.reciprocal, KahanSum.value_ofList_rat]

/-- Over exact arithmetic, a ratio accumulation with books answers `W / R` in its units and, on a
change of normalisation, weighs each species of its books by its own estimate `w_t / r_t`; only
the books enter. -/
theorem ratio_fatx_weights_species_by_own_estimate (i : Option Nat) (calls : List (Run × Event))
    (u : UnitSystem) (p q : ℚ) :
    let start : Accumulator ℚ := new .ratio i
    let acc := start.runAll calls
    let S := start.ratioTerms calls
    let W := (S.map (·.2.1)).sum
    let R := (S.map fun x => x.2.1 / x.2.2).sum
    let w := fun t => ((S.filter (·.1 == t)).map (·.2.1)).sum
    let r := fun t => ((S.filter (·.1 == t)).map fun x => x.2.1 / x.2.2).sum
    let T := (S.map (·.1)).toFinset
    let N := acc.nativeUnits
    let sf := if N.scale = u.scale then 1 else p / q
    N.isAutomatic = false → S ≠ [] →
    acc.fatx N = .ok (W / R) ∧
    (u.isConcrete → N.scale.picobarns = some p → u.scale.picobarns = some q →
      (u.norm = N.norm → acc.fatx u = .ok (W / R * sf)) ∧
      (N.norm = .perTarget → u.norm = .perNucleon → W ≠ 0 → (∀ t ∈ T, 1 ≤ t.massNumber) →
        acc.fatx u = .ok (∑ t ∈ T, w t / r t * sf * (w t / W) / t.massNumber)) ∧
      (N.norm = .perNucleon → u.norm = .perTarget → W ≠ 0 →
        acc.fatx u = .ok (∑ t ∈ T, w t / r t * sf * (∑ t' ∈ T, (t'.massNumber : ℚ)) * (w t / W)))) := by
  intro start acc S W R w r T N sf hauto hS
  have hstart : start.strategy ≠ .dummy := by simp [start]
  have hacc : acc.strategy ≠ .dummy := by rw [(runAll_keeps start calls).1]; exact hstart
  have h : acc.Consistent := consistent_runAll (consistent_new (by decide) i) hstart calls
  obtain ⟨b, hb, hW, hR, hws, hrs⟩ := runAll_ratio_exact i calls
  have hr : b.reciprocals.isEmpty = false := by
    have hempty : (Ledger.empty : Ledger ℚ).isEmpty = true := rfl
    simpa [hrs, Ledger.isEmpty_recordAll, hempty] using hS
  have hw : b.weights.isEmpty = false := by rw [h.paired b hb]; exact hr
  have hx : acc.pointEstimate = .ok (W / R) := by
    rw [pointEstimate_ratio hb hr, hW, hR]
  refine ⟨fatx_native hacc hauto hx, fun hu hp hq => ?_⟩
  have hN := h.concrete hauto
  have hsf : Rescale.scaleFactor N.scale u.scale = .ok sf := by
    rw [Rescale.scaleFactor_eq hp hq, Scalar.one_rat]
  have hconv : u ≠ N → acc.fatx u = Rescale.perTarget N u (W / R) b.weights W b.reciprocals := by
    intro hne
    rw [fatx_convert hacc hauto hx hne hu, hb]
    dsimp only
    rw [hW]
  refine ⟨fun hn => ?_, fun hT hNu hW0 hA => ?_, fun hNn hT hW0 => ?_⟩
  · by_cases hne : u = N
    · have hsf1 : sf = 1 := if_pos (by rw [hne])
      rw [hne, fatx_native hacc hauto hx, hsf1, mul_one]
    · rw [hconv hne, Rescale.perTarget_eq hN hu hsf hw hr, if_pos hn.symm]
  · have hne : u ≠ N := fun he => by rw [he, hT] at hNu; cases hNu
    have hfind : b.reciprocals.toList.find? (·.1.massNumber == 0) = none := by
      refine List.find?_eq_none.2 fun x hx => ?_
      have hmem := Ledger.mem_of_mem_toList_recordAll (hrs ▸ hx)
      rw [List.map_map] at hmem
      have hA1 := hA x.1 (List.mem_toFinset.2 hmem)
      simp only [beq_iff_eq]
      omega
    rw [hconv hne, Rescale.perTarget_eq hN hu hsf hw hr, if_neg (by rw [hT, hNu]; decide),
      Scalar.le_abs_zero_rat, if_neg (by simpa using hW0), if_pos hT, hfind]
    show Except.ok (KahanSum.ofList (b.reciprocals.toList.map fun p =>
      (b.weights.get? p.1).getD 0 / p.2 * sf * ((b.weights.get? p.1).getD 0 / W) /
        (p.1.massNumber : ℚ))).value = _
    rw [KahanSum.value_ofList_rat, hws, hrs,
      Ledger.sum_reciprocals_recordAll S fun t x y => x / y * sf * (x / W) / t.massNumber]
  · have hne : u ≠ N := fun he => by rw [he, hNn] at hT; cases hT
    rw [hconv hne, Rescale.perTarget_eq hN hu hsf hw hr, if_neg (by rw [hT, hNn]; decide),
      Scalar.le_abs_zero_rat, if_neg (by simpa using hW0), if_neg (by rw [hNn]; decide)]
    show Except.ok (KahanSum.ofList (b.reciprocals.toList.map fun p =>
      (b.weights.get? p.1).getD 0 / p.2 * sf * ((b.weights.get? p.1).getD 0 / W) *
        Rescale.totalNucleons b.reciprocals)).value = _
    have hn : Rescale.totalNucleons b.reciprocals = ∑ t ∈ T, (t.massNumber : ℚ) := by
      rw [hrs, Ledger.totalNucleons_recordAll, List.map_map]
      rfl
    rw [hn, KahanSum.value_ofList_rat, hws, hrs,
      Ledger.sum_reciprocals_recordAll S fun t x y => x / y * sf * (x / W) * ∑ t' ∈ T, (t'.massNumber : ℚ)]
    exact congrArg Except.ok (Finset.sum_congr rfl fun t _ => by ring)

/-- Carbon 12 with cross section 2 pb, hydrogen with 4 pb and hydrogen with none: the estimate
is 8/3 pb per target, and per nucleon each species counts by its own estimate, 25/12 pb, with
the event without cross section left out of the shares. -/
theorem carbon_and_hydrogen_ratio_per_nucleon :
    let acc : Accumulator ℚ := (new .ratio none).runAll
      [(Run.new, ((Event.new 0).withTarget ⟨1000060120⟩).withAttribute "TotXS" (.double 2.0)),
       (Run.new, ((Event.new 1).withTarget ⟨2212⟩).withAttribute "TotXS" (.double 4.0)),
       (Run.new, ((Event.new 2).withTarget ⟨2212⟩).withAttribute "TotXS" (.double 0.0))]
    acc.fatx .pbPerTarget = .ok (8 / 3) ∧ acc.fatx ⟨.picobarn, .perNucleon⟩ = .ok (25 / 12) := by
  intro acc
  have hterms : (new .ratio none : Accumulator ℚ).ratioTerms
      [(Run.new, ((Event.new 0).withTarget ⟨1000060120⟩).withAttribute "TotXS" (.double 2.0)),
       (Run.new, ((Event.new 1).withTarget ⟨2212⟩).withAttribute "TotXS" (.double 4.0)),
       (Run.new, ((Event.new 2).withTarget ⟨2212⟩).withAttribute "TotXS" (.double 0.0))] =
      [(⟨1000060120⟩, 1, 2), (⟨2212⟩, 1, 4)] := by decide +kernel
  have hN : acc.nativeUnits = .pbPerTarget := by decide +kernel
  have hC : Species.massNumber ⟨1000060120⟩ = 12 := by decide
  have hH : Species.massNumber ⟨2212⟩ = 1 := by decide
  have h := ratio_fatx_weights_species_by_own_estimate none
    [(Run.new, ((Event.new 0).withTarget ⟨1000060120⟩).withAttribute "TotXS" (.double 2.0)),
     (Run.new, ((Event.new 1).withTarget ⟨2212⟩).withAttribute "TotXS" (.double 4.0)),
     (Run.new, ((Event.new 2).withTarget ⟨2212⟩).withAttribute "TotXS" (.double 0.0))]
    ⟨.picobarn, .perNucleon⟩ 1.0 1.0 (by decide +kernel) (by rw [hterms]; simp)
  refine ⟨?_, ?_⟩
  · rw [← hN, h.1, hterms]
    norm_num
  · have h2 := (h.2 (by decide) (by rw [hN]; rfl) rfl).2.1 (by rw [hN]; rfl) rfl
      (by rw [hterms]; norm_num) (by rw [hterms]; simp [hC, hH])
    rw [h2, hterms, hN]
    norm_num [UnitSystem.pbPerTarget, hC, hH]

end Accumulator

end FluxAverage

