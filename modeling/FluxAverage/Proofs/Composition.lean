-- The composition summaries of a ledger. The counts stop at the 64-bit limit but never reach it,
-- so the nucleons are the protons plus the neutrons when no species has more protons than
-- nucleons; over exact arithmetic each mean is the entry-weighted mean of its field.
import FluxAverage.Proofs.Exact

namespace FluxAverage

namespace Species

/-! ## The fields a composition counts -/

/-- The species that can carry nucleons: the nuclei and the two free nucleons. -/
def nucleonCarriers : Finset Species :=
  (Finset.range 10000000).image (fun n : Nat => (⟨nuclearBase + n⟩ : Species)) ∪ {proton, neutron}

theorem card_nucleonCarriers_le : nucleonCarriers.card ≤ 10000002 := by
  have hnuclei :
      ((Finset.range 10000000).image (fun n : Nat => (⟨nuclearBase + n⟩ : Species))).card ≤
        10000000 :=
    Finset.card_image_le.trans (Finset.card_range _).le
  rw [nucleonCarriers]
  calc _
      ≤ ((Finset.range 10000000).image (fun n : Nat => (⟨nuclearBase + n⟩ : Species))).card +
          ({proton, neutron} : Finset Species).card := Finset.card_union_le _ _
    _ ≤ 10000000 + 2 := Nat.add_le_add hnuclei Finset.card_le_two

/-- A field a composition counts: at most 999, and zero off the nucleon carriers. -/
structure CompositionField (f : Species → Nat) : Prop where
  le : ∀ s, f s ≤ 999
  carrier : ∀ s, f s ≠ 0 → s ∈ nucleonCarriers

theorem mem_nucleonCarriers_of_isNucleus {s : Species} (h : s.isNucleus = true) :
    s ∈ nucleonCarriers := by
  have hr : nuclearBase ≤ s.pdg ∧ s.pdg < nuclearLimit := by
    simpa [isNucleus] using h
  simp only [nuclearBase, nuclearLimit] at hr
  refine Finset.mem_union_left _ (Finset.mem_image.2 ⟨(s.pdg - nuclearBase).toNat, ?_, ?_⟩)
  · simp only [Finset.mem_range, nuclearBase]
    omega
  · obtain ⟨code⟩ := s
    simp only [nuclearBase, mk.injEq] at hr ⊢
    omega

theorem compositionField_massNumber : CompositionField massNumber where
  le s := by
    unfold massNumber
    split
    · omega
    · split <;> omega
  carrier s h := by
    unfold massNumber at h
    split at h
    · exact mem_nucleonCarriers_of_isNucleus ‹_›
    · split at h
      · rename_i hpn
        rcases hpn with rfl | rfl <;> simp [nucleonCarriers]
      · exact absurd rfl h

theorem compositionField_atomicNumber : CompositionField atomicNumber where
  le s := by
    unfold atomicNumber
    split
    · omega
    · split <;> omega
  carrier s h := by
    unfold atomicNumber at h
    split at h
    · exact mem_nucleonCarriers_of_isNucleus ‹_›
    · split at h
      · rename_i hp
        subst hp
        simp [nucleonCarriers]
      · exact absurd rfl h

theorem compositionField_neutronNumber : CompositionField neutronNumber where
  le s := (Nat.sub_le _ _).trans (compositionField_massNumber.le s)
  carrier s h := compositionField_massNumber.carrier s (by unfold neutronNumber at h; omega)

/-- Over distinct species a composition field adds up to at most 999 per nucleon carrier. -/
theorem CompositionField.sum_le {f : Species → Nat} (hf : CompositionField f) {xs : List Species}
    (hx : xs.Nodup) : (xs.map f).sum ≤ 10000002 * 999 := by
  -- only the species that carry nucleons add anything
  have hsub : ∑ s ∈ xs.toFinset ∩ nucleonCarriers, f s = ∑ s ∈ xs.toFinset, f s :=
    Finset.sum_subset Finset.inter_subset_left fun s hs hn => by
      by_contra h0
      exact hn (Finset.mem_inter.2 ⟨hs, hf.carrier s h0⟩)
  calc (xs.map f).sum
      = ∑ s ∈ xs.toFinset ∩ nucleonCarriers, f s := by rw [hsub, List.sum_toFinset _ hx]
    _ ≤ (xs.toFinset ∩ nucleonCarriers).card * 999 :=
        Finset.sum_le_card_nsmul _ _ _ fun s _ => hf.le s
    _ ≤ 10000002 * 999 := Nat.mul_le_mul_right _
        ((Finset.card_le_card Finset.inter_subset_right).trans card_nucleonCarriers_le)

end Species

namespace Ledger

variable {α : Type}

/-! ## The counts never saturate -/

theorem foldl_countStep_eq_sum (f : Species → Nat) (xs : List Species) {acc : Nat}
    (h : acc + (xs.map f).sum ≤ countLimit) :
    xs.foldl (fun acc s => min (acc + f s) countLimit) acc = acc + (xs.map f).sum := by
  induction xs generalizing acc with
  | nil => simp
  | cons x xs ih =>
    simp only [List.map_cons, List.sum_cons] at h
    rw [List.foldl_cons, Nat.min_eq_left (by omega), ih (by omega), List.map_cons,
      List.sum_cons, Nat.add_assoc]

theorem sum_field_lt_countLimit (l : Ledger α) {f : Species → Nat}
    (hf : Species.CompositionField f) : (l.species.map f).sum < countLimit := by
  have hle := hf.sum_le (nodup_species l)
  have hlimit : 10000002 * 999 < countLimit := by decide
  omega

theorem countOver_eq_sum (l : Ledger α) {f : Species → Nat}
    (hf : Species.CompositionField f) : l.countOver f = (l.species.map f).sum := by
  rw [countOver, foldl_countStep_eq_sum f _ (by have := sum_field_lt_countLimit l hf; omega),
    Nat.zero_add]

/-- With no species holding more protons than nucleons, the nucleons are the protons and the
neutrons. -/
theorem totalNucleons_eq_add {l : Ledger α}
    (hza : ∀ s ∈ l.species, s.atomicNumber ≤ s.massNumber) :
    l.totalNucleons = l.totalProtons + l.totalNeutrons := by
  rw [totalNucleons, totalProtons, totalNeutrons,
    countOver_eq_sum l Species.compositionField_massNumber,
    countOver_eq_sum l Species.compositionField_atomicNumber,
    countOver_eq_sum l Species.compositionField_neutronNumber, ← List.sum_map_add]
  congr 1
  refine List.map_congr_left fun s hs => ?_
  have := hza s hs
  rw [Species.neutronNumber]
  omega

/-! ## Means over exact weights -/

theorem total_rat (q : Ledger ℚ) : q.total = (q.toList.map (·.2)).sum := by
  rw [total, KahanSum.value_ofList_rat]

/-- Over the rationals a mean is the entry-weighted mean of its field, once the total is not
zero. -/
theorem weightedMean_rat (q : Ledger ℚ) (f : Species → Nat) :
    q.weightedMean f =
      if q.total = 0 then none
      else some ((q.toList.map fun p => p.2 * (f p.1 : ℚ)).sum / (q.toList.map (·.2)).sum) := by
  rw [weightedMean, Scalar.le_abs_zero_rat, KahanSum.value_ofList_rat, total_rat]
  by_cases h0 : (q.toList.map (·.2)).sum = 0
  · rw [if_pos (by simp [h0]), if_pos h0]
  · rw [if_neg (by simp [h0]), if_neg h0]
    rfl

/-- Mean nucleons are mean protons plus mean neutrons when no species has more protons than
nucleons; while the total is zero all three are absent. -/
theorem averageA_eq_map₂ {q : Ledger ℚ} (hza : ∀ s ∈ q.species, s.atomicNumber ≤ s.massNumber) :
    q.averageA = Option.map₂ (· + ·) q.averageZ q.averageN := by
  rw [averageA, averageZ, averageN, weightedMean_rat, weightedMean_rat, weightedMean_rat]
  by_cases h0 : q.total = 0
  · simp [h0]
  · simp only [h0, if_false, Option.map₂_some_some, Option.some.injEq]
    rw [← add_div, ← List.sum_map_add]
    congr 2
    refine List.map_congr_left fun p hp => ?_
    have hs : p.1 ∈ q.species := by
      rw [← map_fst_toList]
      exact List.mem_map_of_mem hp
    have hsplit : p.1.massNumber = p.1.atomicNumber + p.1.neutronNumber := by
      have := hza p.1 hs
      rw [Species.neutronNumber]
      omega
    rw [hsplit, Nat.cast_add, mul_add]

/-- The composition counts of every ledger are plain sums that never saturate, and nucleons are
protons plus neutrons when no species has more protons than nucleons; over exact weights each
mean is the entry-weighted mean, and mean nucleons are mean protons plus mean neutrons. -/
theorem composition_counts_exact_and_means_add :
    (∀ {α : Type} (l : Ledger α),
      (l.totalNucleons = (l.species.map Species.massNumber).sum ∧
        (l.species.map Species.massNumber).sum < countLimit) ∧
      (l.totalProtons = (l.species.map Species.atomicNumber).sum ∧
        (l.species.map Species.atomicNumber).sum < countLimit) ∧
      (l.totalNeutrons = (l.species.map Species.neutronNumber).sum ∧
        (l.species.map Species.neutronNumber).sum < countLimit) ∧
      ((∀ s ∈ l.species, s.atomicNumber ≤ s.massNumber) →
        l.totalNucleons = l.totalProtons + l.totalNeutrons)) ∧
    ∀ q : Ledger ℚ,
      (q.total ≠ 0 →
        q.averageA = some ((q.toList.map fun p => p.2 * (p.1.massNumber : ℚ)).sum /
          (q.toList.map (·.2)).sum) ∧
        q.averageZ = some ((q.toList.map fun p => p.2 * (p.1.atomicNumber : ℚ)).sum /
          (q.toList.map (·.2)).sum) ∧
        q.averageN = some ((q.toList.map fun p => p.2 * (p.1.neutronNumber : ℚ)).sum /
          (q.toList.map (·.2)).sum)) ∧
      ((∀ s ∈ q.species, s.atomicNumber ≤ s.massNumber) →
        q.averageA = Option.map₂ (· + ·) q.averageZ q.averageN) := by
  refine ⟨fun l => ?_, fun q => ⟨fun h0 => ?_, averageA_eq_map₂⟩⟩
  · exact ⟨⟨countOver_eq_sum l Species.compositionField_massNumber,
        sum_field_lt_countLimit l Species.compositionField_massNumber⟩,
      ⟨countOver_eq_sum l Species.compositionField_atomicNumber,
        sum_field_lt_countLimit l Species.compositionField_atomicNumber⟩,
      ⟨countOver_eq_sum l Species.compositionField_neutronNumber,
        sum_field_lt_countLimit l Species.compositionField_neutronNumber⟩,
      totalNucleons_eq_add⟩
  · refine ⟨?_, ?_, ?_⟩
    · rw [averageA, weightedMean_rat, if_neg h0]
    · rw [averageZ, weightedMean_rat, if_neg h0]
    · rw [averageN, weightedMean_rat, if_neg h0]

/-- Carbon-12 and lead-208 weighed 1 and 3: the counts of the ledger add up, and its
mean nucleon number, a weighted mean, is its mean proton number plus its mean neutron number. -/
theorem carbon_and_lead_composition_adds :
    let q : Ledger ℚ := (empty.record ⟨1000060120⟩ 1).record ⟨1000822080⟩ 3
    (∀ s ∈ q.species, s.atomicNumber ≤ s.massNumber) ∧ q.total ≠ 0 ∧
      q.totalNucleons = q.totalProtons + q.totalNeutrons ∧
      q.averageA = some ((q.toList.map fun p => p.2 * (p.1.massNumber : ℚ)).sum /
        (q.toList.map (·.2)).sum) ∧
      q.averageA = Option.map₂ (· + ·) q.averageZ q.averageN := by
  intro q
  have hza : ∀ s ∈ q.species, s.atomicNumber ≤ s.massNumber := by decide
  have ht : q.total ≠ 0 := by
    rw [total_rat]
    norm_num [q, record, recordIn, empty, toList, KahanSum.add, KahanSum.empty, KahanSum.value,
      Scalar.zero]
  exact ⟨hza, ht, (composition_counts_exact_and_means_add.1 q).2.2.2 hza,
    ((composition_counts_exact_and_means_add.2 q).1 ht).1,
    (composition_counts_exact_and_means_add.2 q).2 hza⟩

end Ledger

end FluxAverage
