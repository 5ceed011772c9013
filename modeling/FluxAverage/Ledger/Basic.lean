-- The per-species ledger: one compensated sum per target species, in strictly ascending order of
-- code, which the ledger carries and recording keeps. The composition summaries count and average
-- nucleons, protons and neutrons over the species, weighted by the entries.
import FluxAverage.Species
import FluxAverage.Ledger.KahanSum

namespace FluxAverage

/-- Compensated sums by target species, in strictly ascending order of code, so a species has
at most one entry. -/
structure Ledger (α : Type) where
  entries : List (Species × KahanSum α)
  sorted : entries.Pairwise (fun a b => a.1.pdg < b.1.pdg)

namespace Ledger

variable {α : Type} [Scalar α]

/-- The ledger without entries. -/
def empty : Ledger α := ⟨[], List.Pairwise.nil⟩

instance : Inhabited (Ledger α) := ⟨empty⟩

/-- Adds a term to the species' entry, opening it in its place if new. -/
def recordIn (t : Species) (x : α) : List (Species × KahanSum α) → List (Species × KahanSum α)
  | [] => [(t, KahanSum.empty.add x)]
  | (s, k) :: rest =>
    if t.pdg < s.pdg then (t, KahanSum.empty.add x) :: (s, k) :: rest
    else if t.pdg = s.pdg then (s, k.add x) :: rest
    else (s, k) :: recordIn t x rest

/-- Recording puts every key either at the recorded species or at one that was there. -/
theorem mem_recordIn {t : Species} {x : α} {es : List (Species × KahanSum α)}
    {p : Species × KahanSum α} (h : p ∈ recordIn t x es) : p.1 = t ∨ ∃ q ∈ es, q.1 = p.1 := by
  induction es with
  | nil =>
    simp only [recordIn, List.mem_singleton] at h
    exact .inl (by rw [h])
  | cons q rest ih =>
    obtain ⟨u, k⟩ := q
    unfold recordIn at h
    split at h
    · rcases List.mem_cons.1 h with rfl | h
      · exact .inl rfl
      · exact .inr ⟨_, h, rfl⟩
    split at h
    · rcases List.mem_cons.1 h with rfl | h
      · exact .inr ⟨(u, k), List.mem_cons_self, rfl⟩
      · exact .inr ⟨_, List.mem_cons_of_mem _ h, rfl⟩
    · rcases List.mem_cons.1 h with rfl | h
      · exact .inr ⟨(u, k), List.mem_cons_self, rfl⟩
      · rcases ih h with h | ⟨q, hq, hq'⟩
        · exact .inl h
        · exact .inr ⟨q, List.mem_cons_of_mem _ hq, hq'⟩

theorem pairwise_recordIn (t : Species) (x : α) {es : List (Species × KahanSum α)}
    (hs : es.Pairwise (fun a b => a.1.pdg < b.1.pdg)) :
    (recordIn t x es).Pairwise (fun a b => a.1.pdg < b.1.pdg) := by
  induction es with
  | nil => simp [recordIn]
  | cons q rest ih =>
    obtain ⟨u, k⟩ := q
    rw [List.pairwise_cons] at hs
    unfold recordIn
    split
    · rename_i hlt
      refine List.Pairwise.cons ?_ (List.pairwise_cons.2 hs)
      intro a ha
      rcases List.mem_cons.1 ha with rfl | ha
      · exact hlt
      · exact Int.lt_trans hlt (hs.1 a ha)
    split
    · exact List.Pairwise.cons hs.1 hs.2
    · refine List.Pairwise.cons ?_ (ih hs.2)
      intro a ha
      rcases mem_recordIn ha with h | ⟨q, hq, hq'⟩
      · rename_i hlt heq
        show u.pdg < a.1.pdg
        rw [h]; omega
      · rw [← hq']; exact hs.1 q hq

/-- Records a term for a species. -/
def record (l : Ledger α) (t : Species) (x : α) : Ledger α :=
  ⟨recordIn t x l.entries, pairwise_recordIn t x l.sorted⟩

/-- Records the pairs in order. -/
def recordAll (l : Ledger α) (xs : List (Species × α)) : Ledger α :=
  xs.foldl (fun l p => l.record p.1 p.2) l

/-- The entries as species and values, in ascending order of code. -/
def toList (l : Ledger α) : List (Species × α) := l.entries.map fun (s, k) => (s, k.value)

/-- The value of a species' entry. -/
def get? (l : Ledger α) (t : Species) : Option α :=
  (l.entries.find? (·.1 == t)).map (·.2.value)

/-- Whether the species has an entry. -/
def contains (l : Ledger α) (t : Species) : Bool := l.entries.any (·.1 == t)

/-- The number of species. -/
def size (l : Ledger α) : Nat := l.entries.length

/-- Whether no species has an entry. -/
def isEmpty (l : Ledger α) : Bool := l.entries.isEmpty

/-- The species, in ascending order of code. -/
def species (l : Ledger α) : List Species := l.entries.map (·.1)

/-- The compensated sum of the entries, in ascending order of code. -/
def total (l : Ledger α) : α := (KahanSum.ofList (l.toList.map (·.2))).value

/-- The species' share of a total: its entry over the total, or zero when the species has no
entry or the total is zero (or not a number). -/
def fraction (l : Ledger α) (t : Species) (total : α) : α :=
  match l.get? t with
  | some w => if Scalar.lt Scalar.zero (Scalar.abs total) then w / total else Scalar.zero
  | none => Scalar.zero

/-! ## Composition -/

/-- The largest 64-bit natural, where the species counts stop growing. -/
def countLimit : Nat := Nat.pow 2 64 - 1

/-- Sums a count over the distinct species, stopping at the 64-bit limit. -/
def countOver (l : Ledger α) (f : Species → Nat) : Nat :=
  l.species.foldl (fun acc s => min (acc + f s) countLimit) 0

/-- Nucleons over the distinct species. -/
def totalNucleons (l : Ledger α) : Nat := l.countOver Species.massNumber

/-- Protons over the distinct species. -/
def totalProtons (l : Ledger α) : Nat := l.countOver Species.atomicNumber

/-- Neutrons over the distinct species. -/
def totalNeutrons (l : Ledger α) : Nat := l.countOver Species.neutronNumber

/-- The mean of a count weighted by the entries: the compensated sum of `w · f t` over the
total; none when the total is zero. A total that is not a number gives a mean that is not
one either. -/
def weightedMean (l : Ledger α) (f : Species → Nat) : Option α :=
  let total := l.total
  if Scalar.le (Scalar.abs total) Scalar.zero then none
  else some ((KahanSum.ofList (l.toList.map fun (s, w) => w * Scalar.ofNat (f s))).value / total)

/-- The mean mass number. -/
def averageA (l : Ledger α) : Option α := l.weightedMean Species.massNumber

/-- The mean atomic number. -/
def averageZ (l : Ledger α) : Option α := l.weightedMean Species.atomicNumber

/-- The mean neutron number. -/
def averageN (l : Ledger α) : Option α := l.weightedMean Species.neutronNumber

end Ledger

end FluxAverage
