-- The laws of the ledger. Entries stand in strictly ascending order of code, and recording a
-- term touches the entry of its species only, so a ledger recorded from empty holds, for each
-- species that contributed, the compensated sum of its contributions in their order. Which
-- species a ledger lists depends on the species of its terms alone, never on their values.
import FluxAverage.Ledger.Basic

namespace FluxAverage

theorem Species.pdg_inj {s t : Species} : s.pdg = t.pdg ↔ s = t := by
  cases s; cases t; simp

namespace KahanSum

variable {α : Type} [Scalar α]

@[simp] theorem addAll_nil (k : KahanSum α) : k.addAll [] = k := rfl

@[simp] theorem addAll_cons (k : KahanSum α) (x : α) (xs : List α) :
    k.addAll (x :: xs) = (k.add x).addAll xs := rfl

theorem ofList_eq_addAll (xs : List α) : ofList xs = empty.addAll xs := rfl

end KahanSum

namespace Ledger

variable {α : Type}

/-! ## Lookups and the order of entries -/

/-- The compensated sum kept for a species. -/
def sumAt? (l : Ledger α) (t : Species) : Option (KahanSum α) :=
  (l.entries.find? (·.1 == t)).map (·.2)

theorem get?_eq_sumAt? (l : Ledger α) (t : Species) : l.get? t = (l.sumAt? t).map KahanSum.value := by
  simp [get?, sumAt?, Option.map_map, Function.comp_def]

theorem map_fst_toList (l : Ledger α) : l.toList.map (·.1) = l.species := by
  simp [toList, species]

theorem any_species (l : Ledger α) (f : Species → Bool) :
    l.species.any f = (l.toList.find? (f ·.1)).isSome := by
  rw [← map_fst_toList, List.any_map, List.isSome_find?]
  rfl

theorem pairwise_species_ne {es : List (Species × KahanSum α)}
    (h : es.Pairwise (fun a b => a.1.pdg < b.1.pdg)) : es.Pairwise (fun a b => a.1 ≠ b.1) :=
  h.imp fun hlt heq => by
    rw [heq] at hlt
    exact Int.lt_irrefl _ hlt

theorem nodup_species (l : Ledger α) : l.species.Nodup :=
  List.pairwise_map.2 (pairwise_species_ne l.sorted)

theorem mem_species_iff {l : Ledger α} {t : Species} : t ∈ l.species ↔ (l.get? t).isSome := by
  simp [species, get?, List.find?_isSome]

theorem get?_of_mem_toList {l : Ledger α} {p : Species × α} (hp : p ∈ l.toList) :
    l.get? p.1 = some p.2 := by
  obtain ⟨es, h⟩ := l
  simp only [toList, List.mem_map] at hp
  obtain ⟨e, he, rfl⟩ := hp
  simp only [get?]
  induction es with
  | nil => cases he
  | cons e0 rest ih =>
    have hs := List.pairwise_cons.1 h
    rcases List.mem_cons.1 he with rfl | he
    · simp
    · have hne : e0.1 ≠ e.1 := (List.pairwise_cons.1 (pairwise_species_ne h)).1 e he
      simp [hne, ih hs.2 he]

variable [Scalar α]

/-! ## Recording a term -/

theorem find?_recordIn {t s : Species} {x : α} {es : List (Species × KahanSum α)}
    (hs : es.Pairwise (fun a b => a.1.pdg < b.1.pdg)) :
    ((recordIn t x es).find? (·.1 == s)).map (·.2) =
      if s = t then some ((((es.find? (·.1 == t)).map (·.2)).getD KahanSum.empty).add x)
      else (es.find? (·.1 == s)).map (·.2) := by
  induction es with
  | nil =>
    by_cases h : s = t
    · subst h; simp [recordIn]
    · simp [recordIn, h, Ne.symm h]
  | cons p rest ih =>
    obtain ⟨u, k⟩ := p
    rw [List.pairwise_cons] at hs
    by_cases hlt : t.pdg < u.pdg
    · have hnone : ((u, k) :: rest).find? (·.1 == t) = none := by
        rw [List.find?_eq_none]
        rintro ⟨v, _⟩ hv
        have : u.pdg ≤ v.pdg := by
          rcases List.mem_cons.1 hv with h | h
          · cases h; exact Int.le_refl _
          · exact Int.le_of_lt (hs.1 _ h)
        simp only [beq_iff_eq]
        rintro rfl
        omega
      by_cases h : s = t
      · subst h; simp [recordIn, hlt, hnone]
      · simp [recordIn, hlt, h, Ne.symm h]
    · by_cases heq : t.pdg = u.pdg
      · obtain rfl := Species.pdg_inj.1 heq
        by_cases h : s = t
        · subst h; simp [recordIn]
        · simp [recordIn, h, Ne.symm h]
      · have hne : u ≠ t := fun h => heq (h ▸ rfl)
        have hrec : recordIn t x ((u, k) :: rest) = (u, k) :: recordIn t x rest := by
          simp [recordIn, hlt, heq]
        rw [hrec]
        by_cases hu : u = s
        · subst hu; simp [hne]
        · simp [hu, hne, ih hs.2]

theorem sumAt?_record (l : Ledger α) (t s : Species) (x : α) :
    (l.record t x).sumAt? s =
      if s = t then some (((l.sumAt? t).getD KahanSum.empty).add x) else l.sumAt? s :=
  find?_recordIn l.sorted

@[simp] theorem isEmpty_record (l : Ledger α) (t : Species) (x : α) :
    (l.record t x).isEmpty = false := by
  show (recordIn t x l.entries).isEmpty = false
  cases l.entries with
  | nil => rfl
  | cons q rest =>
    obtain ⟨u, k⟩ := q
    simp only [recordIn]
    split
    · rfl
    · split <;> rfl

/-! ## Recording a list of terms -/

@[simp] theorem recordAll_nil (l : Ledger α) : l.recordAll [] = l := rfl

@[simp] theorem recordAll_cons (l : Ledger α) (p : Species × α) (ps : List (Species × α)) :
    l.recordAll (p :: ps) = (l.record p.1 p.2).recordAll ps := rfl

theorem isEmpty_recordAll (l : Ledger α) (ps : List (Species × α)) :
    (l.recordAll ps).isEmpty = (l.isEmpty && ps.isEmpty) := by
  induction ps generalizing l with
  | nil => simp
  | cons p ps ih => simp [ih]

/-- Each species' sum goes on with its own terms, in their order. -/
theorem sumAt?_recordAll (l : Ledger α) (ps : List (Species × α)) (s : Species) :
    (l.recordAll ps).sumAt? s =
      if s ∈ ps.map (·.1) then
        some (((l.sumAt? s).getD KahanSum.empty).addAll ((ps.filter (·.1 == s)).map (·.2)))
      else l.sumAt? s := by
  induction ps generalizing l with
  | nil => simp
  | cons p ps ih =>
    obtain ⟨t, x⟩ := p
    rw [recordAll_cons, ih, sumAt?_record]
    by_cases hst : s = t
    · subst hst
      by_cases hm : s ∈ ps.map (·.1)
      · simp [hm]
      · have hnil : ps.filter (·.1 == s) = [] :=
          List.filter_eq_nil_iff.2 fun p hp he => hm (List.mem_map.2 ⟨p, hp, by simpa using he⟩)
        simp [hm, hnil]
    · by_cases hm : s ∈ ps.map (·.1) <;> simp [hm, hst, Ne.symm hst]

/-- What a ledger recorded from empty holds for a species: the compensated sum of the species'
contributions in their order, and nothing for a species that never contributed. -/
def tally (ps : List (Species × α)) (t : Species) : Option α :=
  if t ∈ ps.map (·.1) then some (KahanSum.ofList ((ps.filter (·.1 == t)).map (·.2))).value
  else none

theorem get?_recordAll_empty (ps : List (Species × α)) (t : Species) :
    (empty.recordAll ps).get? t = tally ps t := by
  rw [get?_eq_sumAt?, sumAt?_recordAll, tally]
  split <;> simp [sumAt?, empty, KahanSum.ofList_eq_addAll]

theorem mem_species_recordAll_empty {ps : List (Species × α)} {t : Species} :
    t ∈ (empty.recordAll ps).species ↔ t ∈ ps.map (·.1) := by
  rw [mem_species_iff, get?_recordAll_empty, tally]
  split <;> simp_all

/-! ## The species depend on the keys alone -/

/-- Where a recording opens or finds its entry depends on the species alone, not on the terms. -/
theorem species_recordIn_congr (t : Species) (x y : α) {es es' : List (Species × KahanSum α)}
    (h : es.map (·.1) = es'.map (·.1)) :
    (recordIn t x es).map (·.1) = (recordIn t y es').map (·.1) := by
  induction es generalizing es' with
  | nil =>
    obtain rfl := List.map_eq_nil_iff.1 h.symm
    rfl
  | cons p rest ih =>
    obtain ⟨s, k⟩ := p
    cases es' with
    | nil => cases h
    | cons p' rest' =>
      obtain ⟨s', k'⟩ := p'
      simp only [List.map_cons, List.cons.injEq] at h
      obtain ⟨rfl, hrest⟩ := h
      -- both recordings compare `t` with the same first species, so they take the same branch
      simp only [recordIn]
      split
      · simp [hrest]
      · split
        · simp [hrest]
        · simp [ih hrest]

theorem species_record_congr {l l' : Ledger α} (h : l.species = l'.species) (t : Species)
    (x y : α) : (l.record t x).species = (l'.record t y).species :=
  species_recordIn_congr t x y h

/-- Two ledgers with the same species, given terms for the same species in the same order, end
with the same species, whatever the terms are. -/
theorem species_recordAll_congr {l l' : Ledger α} (h : l.species = l'.species)
    {ps qs : List (Species × α)} (hk : ps.map (·.1) = qs.map (·.1)) :
    (l.recordAll ps).species = (l'.recordAll qs).species := by
  induction ps generalizing l l' qs with
  | nil =>
    obtain rfl := List.map_eq_nil_iff.1 hk.symm
    exact h
  | cons p ps ih =>
    cases qs with
    | nil => cases hk
    | cons q qs =>
      simp only [List.map_cons, List.cons.injEq] at hk
      obtain ⟨hpq, hk⟩ := hk
      have hstep : (l.record p.1 p.2).species = (l'.record q.1 q.2).species := by
        rw [hpq]; exact species_record_congr h q.1 p.2 q.2
      exact ih hstep hk

/-! ## Ledgers recorded from the same terms -/

theorem filter_map_pairs {β γ : Type} (S : List (Species × β)) (f : Species × β → γ) (t : Species) :
    ((S.map fun x => (x.1, f x)).filter (·.1 == t)).map (·.2) = (S.filter (·.1 == t)).map f := by
  rw [List.filter_map, List.map_map]
  rfl

end Ledger

end FluxAverage
