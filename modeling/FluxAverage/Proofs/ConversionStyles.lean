-- The two styles of conversion agree when every species has the same estimate: over exact
-- arithmetic, for ledgers of the same species whose estimates all equal `F`, the species-by-species
-- conversion is `F` times the declared-value one, failure for failure.
import FluxAverage.Proofs.Exact

namespace FluxAverage

namespace Ledger

variable {α : Type}

theorem species_eq_of_mem_iff {l m : Ledger α}
    (h : ∀ t, t ∈ l.species ↔ t ∈ m.species) : l.species = m.species := by
  have hcodes : ∀ k : Ledger α, (k.species.map (·.pdg)).Pairwise (· < ·) := by
    intro k
    simpa [species, List.pairwise_map] using k.sorted
  have hpdg : l.species.map (·.pdg) = m.species.map (·.pdg) := by
    refine (hcodes l).eq_of_mem_iff (hcodes m) fun c => ?_
    simp only [List.mem_map, h]
  exact List.map_injective_iff.2 (fun _ _ hst => Species.pdg_inj.1 hst) hpdg

theorem toList_eq_map_species (l : Ledger α) (d : α) :
    l.toList = l.species.map fun t => (t, (l.get? t).getD d) := by
  rw [← map_fst_toList, List.map_map]
  conv_lhs => rw [← List.map_id l.toList]
  refine List.map_congr_left fun p hp => ?_
  simp [get?_of_mem_toList hp]

theorem isEmpty_eq_species {l : Ledger α} : l.isEmpty = l.species.isEmpty := by
  simp [isEmpty, species]

theorem find?_toList_massNumber (l : Ledger α) :
    (l.toList.find? (·.1.massNumber == 0)).map (·.1) = l.species.find? (·.massNumber == 0) := by
  rw [← map_fst_toList, List.find?_map]
  rfl

end Ledger

namespace Rescale

/-- Both styles ask for the same thing when the ledgers have no entries: for the same
normalisation they scale the estimate, and otherwise they fail as not yet initialised. -/
theorem perTarget_empty {N u : UnitSystem} (hN : N.isConcrete) (hu : u.isConcrete)
    {weights recips : Ledger ℚ} (hw : weights.isEmpty = true) (F W : ℚ) :
    perTarget N u F weights W recips = (F * ·) <$> factor N u weights W := by
  obtain ⟨sf, hsf⟩ := scaleFactor_concrete (α := ℚ) hN hu
  have hcheck : checkWeights weights W = .error (.notYetInitialized "target weight ledger") := by
    simp [checkWeights, hw]
  simp only [perTarget, factor, classify_concrete hN hu hsf]
  split <;> split <;> simp [hcheck, bind, Except.bind, pure, Except.pure, Functor.map, Except.map]

/-- How the declared-value conversion between standard systems fails: as not yet initialised
when the normalisation changes without entries or without weight, and as invalid units on the
first species without nucleons, in code order, per target to per nucleon. -/
theorem factor_error {N u : UnitSystem} (hN : N.isConcrete) (hu : u.isConcrete)
    {weights : Ledger ℚ} {W : ℚ} {e : Error} (h : factor N u weights W = .error e) :
    (N.norm ≠ u.norm ∧ (weights.isEmpty ∨ W = 0) ∧
        e = .notYetInitialized "target weight ledger") ∨
      (N.norm = .perTarget ∧ u.norm = .perNucleon ∧
        ∃ t, weights.species.find? (·.massNumber == 0) = some t ∧
          e = .invalidUnits ("target " ++ t.toText ++ " has no nucleons; cannot normalize per nucleon")) := by
  obtain ⟨sf, hsf⟩ := scaleFactor_concrete (α := ℚ) hN hu
  have hnorm : N.norm ≠ u.norm → N.norm = .perTarget → u.norm = .perNucleon := by
    intro hn hT
    rcases UnitSystem.norm_of_concrete hu with h2 | h2
    · exact absurd (hT.trans h2.symm) hn
    · exact h2
  cases hw : weights.isEmpty
  case true =>
    have hcheck : checkWeights weights W = .error (.notYetInitialized "target weight ledger") := by
      simp [checkWeights, hw]
    simp only [factor, classify_concrete hN hu hsf] at h
    by_cases hn : N.norm = u.norm
    · simp [hn, bind, Except.bind, pure, Except.pure] at h
    rw [if_neg hn] at h
    refine .inl ⟨hn, .inl rfl, ?_⟩
    by_cases hT : N.norm = .perTarget
    · rw [if_pos hT] at h
      simpa [hcheck, bind, Except.bind] using h.symm
    · rw [if_neg hT] at h
      simpa [hcheck, bind, Except.bind] using h.symm
  rw [factor_eq hN hu hsf hw] at h
  by_cases hn : N.norm = u.norm
  · simp [hn] at h
  simp only [hn, if_false, Scalar.le_abs_zero_rat, decide_eq_true_eq] at h
  by_cases hW : W = 0
  · simp only [hW, if_true, Except.error.injEq] at h
    exact .inl ⟨hn, .inr hW, h.symm⟩
  simp only [hW, if_false] at h
  by_cases hT : N.norm = .perTarget
  · simp only [hT, if_true] at h
    cases hf : weights.toList.find? (·.1.massNumber == 0) with
    | none => simp [hf] at h
    | some p =>
      simp only [hf, Except.error.injEq] at h
      have hfind := Ledger.find?_toList_massNumber weights
      rw [hf, Option.map_some] at hfind
      exact .inr ⟨hT, hnorm hn hT, p.1, hfind.symm, h.symm⟩
  · simp [hT] at h

/-- The species-by-species conversion of an estimate `F`, over ledgers of the same species, is
`F` times the declared-value conversion, failure for failure, once every species that carries
weight has the estimate `F` whenever there is weight to share by. -/
theorem perTarget_eq_mul_factor {N u : UnitSystem} (hN : N.isConcrete) (hu : u.isConcrete)
    {weights recips : Ledger ℚ} (hsp : weights.species = recips.species) (F W : ℚ)
    (hF : W ≠ 0 → ∀ t ∈ weights.species, (weights.get? t).getD 0 = 0 ∨
      (weights.get? t).getD 0 / (recips.get? t).getD 0 = F) :
    perTarget N u F weights W recips = (F * ·) <$> factor N u weights W := by
  cases hw : weights.isEmpty
  case true => exact perTarget_empty hN hu hw F W
  have hr : recips.isEmpty = false := by
    rw [Ledger.isEmpty_eq_species, ← hsp, ← Ledger.isEmpty_eq_species, hw]
  obtain ⟨sf, hsf⟩ := scaleFactor_concrete (α := ℚ) hN hu
  rw [perTarget_eq hN hu hsf hw hr, factor_eq hN hu hsf hw]
  by_cases hn : N.norm = u.norm
  · simp [hn, Functor.map, Except.map]
  simp only [hn, if_false, Scalar.le_abs_zero_rat, decide_eq_true_eq]
  by_cases hW : W = 0
  · simp [hW, Functor.map, Except.map]
  simp only [hW, if_false]
  -- each species' term of the first style is `F` times its term of the second
  have hterm : ∀ t ∈ weights.species, ∀ c : ℚ,
      (weights.get? t).getD 0 / (recips.get? t).getD 0 * sf * ((weights.get? t).getD 0 / W) * c =
        F * (sf * ((weights.get? t).getD 0 / W) * c) := by
    intro t ht c
    rcases hF hW t ht with h0 | hq
    · simp [h0]
    · rw [hq]; ring
  have hfind : (recips.toList.find? (·.1.massNumber == 0)).map (·.1) =
      (weights.toList.find? (·.1.massNumber == 0)).map (·.1) := by
    rw [Ledger.find?_toList_massNumber, Ledger.find?_toList_massNumber, hsp]
  by_cases hT : N.norm = .perTarget
  · simp only [hT, if_true]
    cases hwf : weights.toList.find? (·.1.massNumber == 0) with
    | some p =>
      rw [hwf, Option.map_some] at hfind
      obtain ⟨q, hq, hqp⟩ := Option.map_eq_some_iff.1 hfind
      simp [hq, hqp, Functor.map, Except.map]
    | none =>
      rw [hwf, Option.map_none, Option.map_eq_none_iff] at hfind
      simp only [hfind, Functor.map, Except.map, KahanSum.value_ofList_rat, Scalar.zero_rat,
        Scalar.ofNat_rat]
      rw [Ledger.toList_eq_map_species recips 0, Ledger.toList_eq_map_species weights 0, ← hsp,
        List.map_map, List.map_map, ← List.sum_map_mul_left]
      congr 2
      refine List.map_congr_left fun t ht => ?_
      simpa [div_eq_mul_inv, mul_assoc] using hterm t ht (t.massNumber : ℚ)⁻¹
  · simp only [hT, if_false, Functor.map, Except.map, KahanSum.value_ofList_rat, Scalar.zero_rat]
    rw [Ledger.toList_eq_map_species recips 0, Ledger.toList_eq_map_species weights 0, ← hsp,
      List.map_map, List.map_map, ← List.sum_map_mul_left]
    have hn : totalNucleons recips = totalNucleons weights := by
      rw [totalNucleons, totalNucleons, hsp]
    rw [hn]
    congr 2
    refine List.map_congr_left fun t ht => ?_
    simpa [mul_comm, mul_left_comm, mul_assoc] using hterm t ht (totalNucleons weights)

end Rescale

namespace Accumulator

/-- A ratio accumulation's books: each species has the estimate `F` wherever there is weight to
share by, when its counted terms all share one species or all one cross section. -/
theorem ratio_species_estimates_agree {i : Option Nat} {calls : List (Run × Event)}
    {b : RatioBooks ℚ} (hb : ((new .ratio i : Accumulator ℚ).runAll calls).estimator = .ratio b)
    (hshare : let S := (new .ratio i : Accumulator ℚ).ratioTerms calls
      (∃ t, ∀ x ∈ S, x.1 = t) ∨ ∃ c, ∀ x ∈ S, x.2.2 = c) :
    b.weight.value ≠ 0 → ∀ t ∈ b.weights.species, (b.weights.get? t).getD 0 = 0 ∨
      (b.weights.get? t).getD 0 / (b.reciprocals.get? t).getD 0 =
        b.weight.value / b.reciprocal.value := by
  intro hW t ht
  obtain ⟨b', hb', hW', hR, hws, hrs⟩ := runAll_ratio_exact i calls
  rw [hb] at hb'
  cases hb'
  set S := (new .ratio i : Accumulator ℚ).ratioTerms calls
  have hmem : t ∈ S.map (·.1) := by
    rw [hws, Ledger.mem_species_recordAll_empty, List.map_map] at ht
    exact ht
  have hw : (b.weights.get? t).getD 0 = ((S.filter (·.1 == t)).map (·.2.1)).sum := by
    rw [hws, Ledger.get?_recordAll_exact (by rwa [List.map_map]), Ledger.filter_map_pairs S (·.2.1),
      Option.getD_some]
  have hr : (b.reciprocals.get? t).getD 0 =
      ((S.filter (·.1 == t)).map fun x => x.2.1 / x.2.2).sum := by
    rw [hrs, Ledger.get?_recordAll_exact (by rwa [List.map_map]),
      Ledger.filter_map_pairs S fun x => x.2.1 / x.2.2, Option.getD_some]
  rw [hw, hr, hW', hR]
  rcases hshare with ⟨t0, ht0⟩ | ⟨c, hc⟩
  · have hall : S.filter (·.1 == t) = S := by
      refine List.filter_eq_self.2 fun x hx => ?_
      obtain ⟨y, hy, hyt⟩ := List.mem_map.1 hmem
      simp [ht0 x hx, ← hyt, ht0 y hy]
    exact .inr (by rw [hall])
  · have hdiv : ∀ T : List (Species × ℚ × ℚ), T ⊆ S →
        (T.map fun x => x.2.1 / x.2.2).sum = (T.map (·.2.1)).sum / c := by
      intro T hT
      rw [div_eq_mul_inv, ← List.sum_map_mul_right]
      refine congrArg List.sum (List.map_congr_left fun x hx => ?_)
      rw [hc x (hT hx), div_eq_mul_inv]
    have hF : (S.map (·.2.1)).sum / ((S.map (·.2.1)).sum / c) = c :=
      div_div_cancel₀ (by rwa [← hW'])
    rw [hdiv _ (List.filter_subset_self S), hdiv S (List.Subset.refl S), hF]
    by_cases h0 : ((S.filter (·.1 == t)).map (·.2.1)).sum = 0
    · exact .inl h0
    · exact .inr (div_div_cancel₀ h0)

/-- A ratio accumulation whose counted terms share one species, or one cross section, converts
its estimate to every standard system as the declared-value style does with its books. -/
theorem ratio_fatx_eq_declared_style (i : Option Nat) (calls : List (Run × Event))
    (u : UnitSystem) (F : ℚ) :
    let start : Accumulator ℚ := new .ratio i
    let acc := start.runAll calls
    let S := start.ratioTerms calls
    ((∃ t, ∀ x ∈ S, x.1 = t) ∨ ∃ c, ∀ x ∈ S, x.2.2 = c) →
    acc.nativeUnits.isAutomatic = false → acc.pointEstimate = .ok F → u.isConcrete →
    acc.fatx u =
      (F * ·) <$> Rescale.factor acc.nativeUnits u acc.conversionWeights acc.conversionWeight := by
  intro start acc S hshare hauto hx hu
  have hstart : start.strategy ≠ .dummy := by simp [start]
  have hacc : acc.strategy ≠ .dummy := by rw [(runAll_keeps start calls).1]; exact hstart
  have h : acc.Consistent := consistent_runAll (consistent_new (by decide) i) hstart calls
  have hN := h.concrete hauto
  obtain ⟨b, hb, -, -, hws, hrs⟩ := runAll_ratio_exact i calls
  have hnonempty := h.conversion_nonempty (by simp [hx, Except.isOk, Except.toBool])
  have hconv : acc.conversionWeights = b.weights ∧ acc.conversionWeight = b.weight.value := by
    simp [conversionWeights, conversionWeight, acc, start, hb]
  rw [hconv.1, hconv.2]
  by_cases hne : u = acc.nativeUnits
  · obtain ⟨p, hp⟩ := UnitSystem.picobarns_of_concrete (α := ℚ) hN
    have hsf : Rescale.scaleFactor acc.nativeUnits.scale u.scale = .ok (1 : ℚ) := by
      rw [Rescale.scaleFactor_eq hp (hne ▸ hp), if_pos (by rw [hne]), Scalar.one_rat]
    have hw : b.weights.isEmpty = false := by
      simpa [hconv.1] using hnonempty.1
    rw [Rescale.factor_eq hN hu hsf hw, if_pos (by rw [hne]), hne, fatx_native hacc hauto hx]
    simp [Functor.map, Except.map]
  have hr : b.reciprocals.isEmpty = false := by
    simpa [conversionLedger, acc, start, hb] using hnonempty.2
  have hF : F = b.weight.value / b.reciprocal.value := by
    have := (pointEstimate_ratio hb hr).symm.trans hx
    exact (Except.ok.inj this).symm
  rw [fatx_convert hacc hauto hx hne hu, hb]
  dsimp only
  have hsp : b.weights.species = b.reciprocals.species := by
    rw [hws, hrs]
    exact Ledger.species_recordAll_congr rfl (by simp only [List.map_map]; rfl)
  refine Rescale.perTarget_eq_mul_factor hN hu hsp F _ ?_
  rw [hF]
  exact ratio_species_estimates_agree hb hshare

end Accumulator

/-- Over exact arithmetic, when every species has the same estimate `F`, the species-by-species
conversion is `F` times the declared-value factor, failure for failure; so is a ratio
accumulation's whose terms share one species or one cross section. -/
theorem uniform_species_estimates_convert_as_declared :
    (∀ (N u : UnitSystem) (weights recips : Ledger ℚ) (F W : ℚ), N.isConcrete → u.isConcrete →
      (∀ t, t ∈ weights.species ↔ t ∈ recips.species) →
      (∀ t w r, weights.get? t = some w → recips.get? t = some r → w / r = F) →
      Rescale.perTarget N u F weights W recips = (F * ·) <$> Rescale.factor N u weights W ∧
      ∀ e, Rescale.perTarget N u F weights W recips = .error e →
        (N.norm ≠ u.norm ∧ (weights.isEmpty ∨ W = 0) ∧
          e = .notYetInitialized "target weight ledger") ∨
        (N.norm = .perTarget ∧ u.norm = .perNucleon ∧
          ∃ t, weights.species.find? (·.massNumber == 0) = some t ∧
            e = .invalidUnits
              ("target " ++ t.toText ++ " has no nucleons; cannot normalize per nucleon"))) ∧
    ∀ (i : Option Nat) (calls : List (Run × Event)) (u : UnitSystem) (F : ℚ),
      let start : Accumulator ℚ := Accumulator.new .ratio i
      let acc := start.runAll calls
      let S := start.ratioTerms calls
      ((∃ t, ∀ x ∈ S, x.1 = t) ∨ ∃ c, ∀ x ∈ S, x.2.2 = c) →
      acc.nativeUnits.isAutomatic = false → acc.pointEstimate = .ok F → u.isConcrete →
      acc.fatx u =
        (F * ·) <$> Rescale.factor acc.nativeUnits u acc.conversionWeights acc.conversionWeight := by
  refine ⟨fun N u weights recips F W hN hu hsp hF => ?_, Accumulator.ratio_fatx_eq_declared_style⟩
  have hF' : W ≠ 0 → ∀ t ∈ weights.species, (weights.get? t).getD 0 = 0 ∨
      (weights.get? t).getD 0 / (recips.get? t).getD 0 = F := by
    intro _ t ht
    obtain ⟨w, hw⟩ := Option.isSome_iff_exists.1 (Ledger.mem_species_iff.1 ht)
    obtain ⟨r, hr⟩ := Option.isSome_iff_exists.1 (Ledger.mem_species_iff.1 ((hsp t).1 ht))
    rw [hw, hr, Option.getD_some, Option.getD_some]
    exact .inr (hF t w r hw hr)
  have heq := Rescale.perTarget_eq_mul_factor hN hu (Ledger.species_eq_of_mem_iff hsp) F W hF'
  refine ⟨heq, fun e he => Rescale.factor_error hN hu ?_⟩
  rw [heq] at he
  cases hf : Rescale.factor N u weights W with
  | ok x => rw [hf] at he; cases he
  | error e' => rw [hf] at he; cases he; rfl

/-- Carbon 12 and lead 208 at estimate 10 convert per nucleon at ten times the declared-value
factor, and a ratio accumulation of carbon 12 and hydrogen at 2 pb converts as that style. -/
theorem carbon_and_lead_share_one_estimate :
    let weights : Ledger ℚ := Ledger.empty.recordAll [(⟨1000060120⟩, 30), (⟨1000822080⟩, 70)]
    let recips : Ledger ℚ := Ledger.empty.recordAll [(⟨1000060120⟩, 3), (⟨1000822080⟩, 7)]
    let calls := [(Run.new, ((Event.new 0).withTarget ⟨1000060120⟩).withAttribute "TotXS" (.double 2.0)),
      (Run.new, ((Event.new 1).withTarget ⟨2212⟩).withAttribute "TotXS" (.double 2.0))]
    let acc : Accumulator ℚ := (Accumulator.new .ratio none).runAll calls
    ((∀ t w r, weights.get? t = some w → recips.get? t = some r → w / r = 10) ∧
      Rescale.perTarget .pbPerTarget ⟨.picobarn, .perNucleon⟩ 10 weights 100 recips =
        (10 * ·) <$> Rescale.factor .pbPerTarget ⟨.picobarn, .perNucleon⟩ weights 100) ∧
    ((Accumulator.new .ratio none : Accumulator ℚ).ratioTerms calls =
        [(⟨1000060120⟩, 1, 2), (⟨2212⟩, 1, 2)] ∧ acc.pointEstimate = .ok 2 ∧
      acc.fatx ⟨.picobarn, .perNucleon⟩ = (2 * ·) <$> Rescale.factor acc.nativeUnits
        ⟨.picobarn, .perNucleon⟩ acc.conversionWeights acc.conversionWeight) := by
  intro weights recips calls acc
  have hsp : weights.species = recips.species := by decide +kernel
  have hF : ∀ t w r, weights.get? t = some w → recips.get? t = some r → w / r = 10 := by
    intro t w r hw hr
    have ht : t ∈ weights.species := Ledger.mem_species_iff.2 (by rw [hw]; rfl)
    have hs : weights.species = [⟨1000060120⟩, ⟨1000822080⟩] := by decide +kernel
    rw [hs, List.mem_pair] at ht
    rcases ht with rfl | rfl
    · have h1 : weights.get? ⟨1000060120⟩ = some 30 := by decide +kernel
      have h2 : recips.get? ⟨1000060120⟩ = some 3 := by decide +kernel
      rw [h1, Option.some.injEq] at hw
      rw [h2, Option.some.injEq] at hr
      rw [← hw, ← hr]
      norm_num
    · have h1 : weights.get? ⟨1000822080⟩ = some 70 := by decide +kernel
      have h2 : recips.get? ⟨1000822080⟩ = some 7 := by decide +kernel
      rw [h1, Option.some.injEq] at hw
      rw [h2, Option.some.injEq] at hr
      rw [← hw, ← hr]
      norm_num
  have hterms : (Accumulator.new .ratio none : Accumulator ℚ).ratioTerms calls =
      [(⟨1000060120⟩, 1, 2), (⟨2212⟩, 1, 2)] := by decide +kernel
  have hx : acc.pointEstimate = .ok 2 := by decide +kernel
  refine ⟨⟨hF, (uniform_species_estimates_convert_as_declared.1 .pbPerTarget ⟨.picobarn, .perNucleon⟩
    weights recips 10 100 (by decide) (by decide) (fun t => by rw [hsp]) hF).1⟩, hterms, hx, ?_⟩
  exact uniform_species_estimates_convert_as_declared.2 none calls ⟨.picobarn, .perNucleon⟩ 2
    (.inr ⟨2, by rw [hterms]; simp⟩) (by decide +kernel) hx (by decide)

end FluxAverage
