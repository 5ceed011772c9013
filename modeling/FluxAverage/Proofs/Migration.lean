-- Bringing a run header into the current format changes the attributes under one or two names at
-- each step and leaves everything read as before, so a migrated header chooses the same strategy
-- and weight, and every sequence of calls against it reaches the same states.
import Mathlib.Data.String.Basic
import Mathlib.Data.List.Induction
import FluxAverage.Accumulator.Select
import FluxAverage.Metadata.Migrate
import FluxAverage.Proofs.Process

namespace FluxAverage

/-! ## Sets of texts -/

theorem mem_insertText {s t : String} {l : List String} :
    t ∈ insertText s l ↔ t = s ∨ t ∈ l := by
  induction l with
  | nil => simp [insertText]
  | cons u rest ih =>
    unfold insertText
    split
    · simp
    split
    · rename_i heq
      subst heq
      simp
    · simp only [List.mem_cons, ih]
      tauto

theorem pairwise_insertText (s : String) {l : List String} (h : l.Pairwise (· < ·)) :
    (insertText s l).Pairwise (· < ·) := by
  induction l with
  | nil => simp [insertText]
  | cons u rest ih =>
    rw [List.pairwise_cons] at h
    unfold insertText
    split
    · rename_i hlt
      refine List.Pairwise.cons (fun t ht => ?_) (List.pairwise_cons.2 h)
      rcases List.mem_cons.1 ht with rfl | ht
      · exact hlt
      · exact lt_trans hlt (h.1 t ht)
    split
    · exact List.pairwise_cons.2 h
    · rename_i hlt heq
      refine List.Pairwise.cons (fun t ht => ?_) (ih h.2)
      rcases mem_insertText.1 ht with rfl | ht
      · exact lt_of_le_of_ne (not_lt.1 hlt) (Ne.symm heq)
      · exact h.1 t ht

theorem insertText_of_lt {s : String} {l : List String} (h : ∀ t ∈ l, t < s) :
    insertText s l = l ++ [s] := by
  induction l with
  | nil => rfl
  | cons u rest ih =>
    have hu : u < s := h u List.mem_cons_self
    rw [insertText, if_neg (not_lt.2 hu.le), if_neg (ne_of_gt hu),
      ih fun t ht => h t (List.mem_cons_of_mem u ht)]
    rfl

theorem pairwise_foldl_insertText (xs : List String) {acc : List String}
    (h : acc.Pairwise (· < ·)) :
    (xs.foldl (fun acc s => insertText s acc) acc).Pairwise (· < ·) := by
  induction xs generalizing acc with
  | nil => exact h
  | cons x xs ih => exact ih (pairwise_insertText x h)

theorem pairwise_textSet (xs : List String) : (textSet xs).Pairwise (· < ·) :=
  pairwise_foldl_insertText xs List.Pairwise.nil

theorem textSet_of_pairwise {l : List String} (h : l.Pairwise (· < ·)) : textSet l = l := by
  induction l using List.reverseRecOn with
  | nil => rfl
  | append_singleton p s ih =>
    rw [List.pairwise_append] at h
    rw [textSet, List.foldl_append, ← textSet, ih h.1]
    exact insertText_of_lt fun t ht => h.2.2 t ht s (List.mem_singleton_self s)

theorem textSet_textSet (xs : List String) : textSet (textSet xs) = textSet xs :=
  textSet_of_pairwise (pairwise_textSet xs)

/-! ## Lookups after each step -/

namespace Attributes

theorem find?_insertIn (n m : String) (v : AttrValue) (es : List (String × AttrValue)) :
    ((insertIn n v es).find? (·.1 == m)).map (·.2) =
      if m = n then some v else (es.find? (·.1 == m)).map (·.2) := by
  induction es with
  | nil =>
    by_cases h : m = n
    · subst h; simp [insertIn]
    · simp [insertIn, h, Ne.symm h]
  | cons e rest ih =>
    obtain ⟨k, w⟩ := e
    by_cases hlt : n < k
    · rw [insertIn, if_pos hlt]
      by_cases h : m = n
      · subst h; simp
      · simp [h, Ne.symm h]
    by_cases heq : n = k
    · subst heq
      rw [insertIn, if_neg hlt, if_pos rfl]
      by_cases h : m = n
      · subst h; simp
      · simp [h, Ne.symm h]
    · rw [insertIn, if_neg hlt, if_neg heq]
      by_cases hk : k = m
      · subst hk
        simp [Ne.symm heq]
      · simp [hk, ih]

theorem get?_insert (a : Attributes) (n m : String) (v : AttrValue) :
    (a.insert n v).get? m = if m = n then some v else a.get? m :=
  find?_insertIn n m v a.entries

theorem get?_erase (a : Attributes) (n m : String) :
    (a.erase n).get? m = if m = n then none else a.get? m := by
  unfold erase get?
  by_cases h : m = n
  · subst h
    simp [List.find?_filter]
  · simp only [h, if_false]
    congr 1
    induction a.entries with
    | nil => rfl
    | cons e rest ih =>
      rw [List.filter_cons]
      by_cases hkn : e.1 = n
      · have hk : (n == m) = false := by simp [Ne.symm h]
        simp [hkn, hk, ih]
      · simp [hkn, List.find?_cons, ih]

theorem contains_eq_isSome (a : Attributes) (m : String) : a.contains m = (a.get? m).isSome := by
  rw [contains, get?, Option.isSome_map, List.isSome_find?]

theorem get?_rename {a : Attributes} {src tgt m : String} (hs : m ≠ src) (ht : m ≠ tgt) :
    (a.rename src tgt).get? m = a.get? m := by
  unfold rename
  split
  · rw [get?_insert, if_neg ht, get?_erase, if_neg hs]
  · rfl

/-- Respelling changes the target scale only, and a text there only to its current spelling. -/
theorem get?_respellTargetScale (a : Attributes) (m : String) :
    a.respellTargetScale.get? m =
      if m = RunKey.targetScale then
        match a.get? m with
        | some (.text d) => some (.text ((currentTargetScale d).getD d))
        | other => other
      else a.get? m := by
  by_cases hm : m = RunKey.targetScale
  · subst hm
    rw [if_pos rfl]
    unfold respellTargetScale
    cases hget : a.get? RunKey.targetScale with
    | none => simp [hget]
    | some v =>
      cases v with
      | text d =>
        cases hc : currentTargetScale d with
        | none => simp [hget, hc]
        | some c => simp [hc, get?_insert]
      | _ => simp [hget]
  · rw [if_neg hm]
    unfold respellTargetScale
    split
    · split
      · rw [get?_insert, if_neg hm]
      · rfl
    · rfl

theorem get?_setCurrentVersion (a : Attributes) (m : String) :
    a.setCurrentVersion.get? m =
      if m = RunKey.patch then some (.int 0)
      else if m = RunKey.minor then some (.int 0)
      else if m = RunKey.major then some (.int 1)
      else a.get? m := by
  simp only [setCurrentVersion, get?_insert]
  rfl

/-- Every step of a migration, from writing the conventions back to setting the version: the
version is current, the target scale is respelled, the conventions are those written, and every
name but the two of the beam's unit is as it was. -/
theorem get?_migrated (a : Attributes) (cs : List String) {m : String}
    (hl : m ≠ RunKey.legacyRateUnit) (hf : m ≠ RunKey.fluxUnit) :
    ((if a.contains RunKey.conventions then a.insert RunKey.conventions (.texts cs) else a).rename
        RunKey.legacyRateUnit RunKey.fluxUnit).respellTargetScale.setCurrentVersion.get? m =
      if m = RunKey.patch then some (.int 0)
      else if m = RunKey.minor then some (.int 0)
      else if m = RunKey.major then some (.int 1)
      else if m = RunKey.targetScale then
        match a.get? m with
        | some (.text d) => some (.text ((currentTargetScale d).getD d))
        | other => other
      else if m = RunKey.conventions then (a.get? m).map fun _ => .texts cs
      else a.get? m := by
  rw [get?_setCurrentVersion, get?_respellTargetScale, get?_rename hl hf]
  have hct : RunKey.conventions ≠ RunKey.targetScale := by decide
  split
  · rfl
  split
  · rfl
  split
  · rfl
  by_cases hc : a.contains RunKey.conventions
  · have hsome : (a.get? RunKey.conventions).isSome := by rwa [← contains_eq_isSome]
    by_cases hts : m = RunKey.targetScale
    · subst hts
      simp [hc, get?_insert, Ne.symm hct]
    · by_cases hcv : m = RunKey.conventions
      · subst hcv
        obtain ⟨v, hv⟩ := Option.isSome_iff_exists.1 hsome
        simp [hc, get?_insert, hct, hv]
      · simp [hc, get?_insert, hts, hcv]
  · have hnone : a.get? RunKey.conventions = none := by
      simpa [contains_eq_isSome] using hc
    by_cases hts : m = RunKey.targetScale
    · subst hts
      simp [hc]
    · by_cases hcv : m = RunKey.conventions
      · subst hcv
        simp [hc, hnone]
      · simp [hc, hts, hcv]

/-! ## Reads that see the same values -/

variable {β : Type} [AttrType β]

theorem readOr_congr {a b : Attributes} {name : String} (h : a.get? name = b.get? name) (d : β) :
    a.readOr name d = b.readOr name d := by
  simp only [readOr, h]

theorem read_of_get? {a : Attributes} {name : String} {v : AttrValue} (h : a.get? name = some v) :
    (a.read name : Except Error β) = convert name v := by
  simp only [read, h]

/-- A read of a name that holds the same value in two attribute sets is the same, but for the
names that a missing attribute lists. -/
theorem read_congr {a b : Attributes} {name : String} (h : a.get? name = b.get? name) :
    (a.read name : Except Error β) =
      match (b.read name : Except Error β) with
      | .error (.missingAttribute n _) => .error (.missingAttribute n a.names)
      | result => result := by
  unfold read
  rw [h]
  cases b.get? name with
  | none => rfl
  | some v =>
    cases hx : (AttrType.extract? v : Option β) <;> simp [convert, hx]

theorem readOr_typeMismatch {a : Attributes} {name : String} {d : β} {err : Error}
    (h : a.readOr name d = .error err) : ∃ n e f, err = .typeMismatch n e f := by
  unfold readOr convert at h
  split at h
  · split at h
    · cases h
    · cases h; exact ⟨_, _, _, rfl⟩
  · cases h

end Attributes

/-! ## What a header reads -/

theorem TargetNorm.ofDeclared_respell (n : String) :
    TargetNorm.ofDeclared ((currentTargetScale n).getD n) = TargetNorm.ofDeclared n := by
  unfold currentTargetScale
  split <;> rfl

namespace Run

/-- The conventions as read under a declared version: renumbered for an older one. -/
theorem conventions_eq {r : Run} {v : FormatVersion} (hv : r.declaredVersion = .ok (some v)) :
    r.conventions = (fun declared : List String => textSet
      (if v.lt FormatVersion.current then declared.filterMap renumberLegacy else declared)) <$>
        r.attributes.readOr RunKey.conventions [] := by
  unfold conventions predatesCurrentFormat
  rw [hv]
  cases r.attributes.readOr RunKey.conventions ([] : List String) with
  | error e => rfl
  | ok declared =>
    cases hlt : v.lt FormatVersion.current <;>
      simp [hlt, bind, Except.bind, pure, Except.pure, Functor.map, Except.map]

theorem textSet_of_conventions {r : Run} {cs : List String} (h : r.conventions = .ok cs) :
    textSet cs = cs := by
  unfold conventions at h
  cases hd : r.attributes.readOr RunKey.conventions ([] : List String) with
  | error e => simp [hd, bind, Except.bind] at h
  | ok declared =>
    cases hp : r.predatesCurrentFormat with
    | error e => simp [hd, hp, bind, Except.bind] at h
    | ok old =>
      cases old <;> simp [hd, hp, bind, Except.bind, pure, Except.pure] at h <;>
        rw [← h, textSet_textSet]

theorem declaredVersion_of_get? {r : Run} {major minor patch : Int}
    (h1 : r.attributes.get? RunKey.major = some (.int major))
    (h2 : r.attributes.get? RunKey.minor = some (.int minor))
    (h3 : r.attributes.get? RunKey.patch = some (.int patch)) :
    r.declaredVersion = .ok (some ⟨major, minor, patch⟩) := by
  have hc : r.attributes.contains RunKey.major := by
    rw [Attributes.contains_eq_isSome, h1]; rfl
  simp only [declaredVersion, hc, if_true, version, Attributes.read_of_get? h1,
    Attributes.read_of_get? h2, Attributes.read_of_get? h3]
  rfl

/-- A target scale that reads the same but for its spelling gives the same units; a refusal
names it as it is spelled. -/
theorem nativeUnits_respelled {r r' : Run}
    (hu : r'.attributes.get? RunKey.unit = r.attributes.get? RunKey.unit)
    (ht : r'.attributes.get? RunKey.targetScale =
      match r.attributes.get? RunKey.targetScale with
      | some (.text d) => some (.text ((currentTargetScale d).getD d))
      | other => other) :
    r'.nativeUnits =
      match r.nativeUnits with
      | .error (.nonStandardUnits scale norm) =>
        .error (.nonStandardUnits scale ((currentTargetScale norm).getD norm))
      | result => result := by
  have hscale : (r'.attributes.readOr RunKey.unit "pb" : Except Error String) =
      r.attributes.readOr RunKey.unit "pb" := Attributes.readOr_congr hu "pb"
  have hnorm : (r'.attributes.readOr RunKey.targetScale "PerTargetAtom" : Except Error String) =
      (fun n => (currentTargetScale n).getD n) <$>
        r.attributes.readOr RunKey.targetScale "PerTargetAtom" := by
    unfold Attributes.readOr
    rw [ht]
    cases r.attributes.get? RunKey.targetScale with
    | none => rfl
    | some v => cases v <;> rfl
  unfold nativeUnits crossSectionUnits
  rw [hscale, hnorm]
  cases hs : r.attributes.readOr RunKey.unit "pb" with
  | error e =>
    obtain ⟨n, a, f, rfl⟩ := Attributes.readOr_typeMismatch hs
    rfl
  | ok scale =>
    cases hn : r.attributes.readOr RunKey.targetScale "PerTargetAtom" with
    | error e =>
      obtain ⟨n, a, f, rfl⟩ := Attributes.readOr_typeMismatch hn
      rfl
    | ok norm =>
      simp only [bind, Except.bind, Functor.map, Except.map, pure, Except.pure, UnitSystem.ofDeclared,
        TargetNorm.ofDeclared_respell]
      split <;> rename_i hc <;> simp [hc, throw, throwThe, MonadExceptOf.throw]

/-! ## What a migration does -/

/-- A successful migration either leaves the header as it was and says so, or migrates a header
of an older format: it keeps the weight names, writes the conventions back as they read, and
changes the attributes step by step. -/
theorem migrate_ok {r r' : Run} {b : Bool} (h : r.migrate = .ok (b, r')) :
    (b = false ∧ r' = r) ∨
    (b = true ∧ ∃ v, r.declaredVersion = .ok (some v) ∧ v.lt FormatVersion.current ∧
      r'.weightNames = r.weightNames ∧ ∃ cs, r.conventions = .ok cs ∧
        r'.attributes = ((if r.attributes.contains RunKey.conventions then
            r.attributes.insert RunKey.conventions (.texts cs) else r.attributes).rename
          RunKey.legacyRateUnit RunKey.fluxUnit).respellTargetScale.setCurrentVersion) := by
  unfold migrate at h
  cases hv : r.declaredVersion with
  | error e => simp [hv, bind, Except.bind] at h
  | ok ov =>
    cases ov with
    | none =>
      simp only [hv, bind, Except.bind, pure, Except.pure, Except.ok.injEq, Prod.mk.injEq] at h
      exact .inl ⟨h.1.symm, h.2.symm⟩
    | some v =>
      cases hlt : v.lt FormatVersion.current
      case false =>
        simp only [hv, hlt, bind, Except.bind, pure, Except.pure, Bool.not_false, if_true,
          Except.ok.injEq, Prod.mk.injEq] at h
        exact .inl ⟨h.1.symm, h.2.symm⟩
      by_cases hc : r.attributes.contains RunKey.conventions
      · cases hcs : r.conventions with
        | error e => simp [hv, hlt, hc, hcs, bind, Except.bind] at h
        | ok cs =>
          simp only [hv, hlt, hc, hcs, bind, Except.bind, pure, Except.pure, Bool.not_true,
            if_true] at h
          obtain ⟨rfl, rfl⟩ := h
          exact .inr ⟨rfl, v, rfl, hlt, rfl, cs, rfl, by simp [hc]⟩
      · have hnone : r.attributes.get? RunKey.conventions = none := by
          simpa [Attributes.contains_eq_isSome] using hc
        have hcs : r.conventions = .ok [] := by
          rw [conventions_eq hv, Attributes.readOr, hnone]
          simp [hlt, Functor.map, Except.map, textSet]
        simp only [hv, hlt, hc, bind, Except.bind, pure, Except.pure, Bool.not_true,
          Bool.false_eq_true, if_false, Except.ok.injEq, Prod.mk.injEq] at h
        obtain ⟨rfl, rfl⟩ := h
        exact .inr ⟨rfl, v, rfl, hlt, rfl, [], hcs, by simp [hc]⟩

/-- What a header of an older format reads after its migration: the current version, the
conventions written back as they read, the target scale respelled, and the declared value and
the scale as they were. -/
theorem migrate_true_reads {r r' : Run} (h : r.migrate = .ok (true, r')) :
    ∃ cs, r.conventions = .ok cs ∧ r'.weightNames = r.weightNames ∧
      r'.declaredVersion = .ok (some FormatVersion.current) ∧
      r'.attributes.get? RunKey.conventions =
        (r.attributes.get? RunKey.conventions).map (fun _ => .texts cs) ∧
      r'.attributes.get? RunKey.fatx = r.attributes.get? RunKey.fatx ∧
      r'.attributes.get? RunKey.unit = r.attributes.get? RunKey.unit ∧
      r'.attributes.get? RunKey.targetScale =
        match r.attributes.get? RunKey.targetScale with
        | some (.text d) => some (.text ((currentTargetScale d).getD d))
        | other => other := by
  rcases migrate_ok h with ⟨hb, -⟩ | ⟨-, v, -, -, hw, cs, hcs, hattrs⟩
  · cases hb
  -- every name read here is neither of the two names of the beam's unit
  have hget : ∀ m, m ≠ RunKey.legacyRateUnit → m ≠ RunKey.fluxUnit → r'.attributes.get? m = _ :=
    fun m hl hf => hattrs ▸ Attributes.get?_migrated r.attributes cs hl hf
  refine ⟨cs, hcs, hw, declaredVersion_of_get? ?_ ?_ ?_, ?_, ?_, ?_, ?_⟩ <;>
    rw [hget _ (by decide) (by decide)] <;> simp +decide

/-- A migration keeps the conventions as they read. -/
theorem conventions_migrate {r r' : Run} {b : Bool} (h : r.migrate = .ok (b, r')) :
    r'.conventions = r.conventions := by
  rcases migrate_ok h with ⟨-, rfl⟩ | ⟨rfl, v, hv, hlt, -⟩
  · rfl
  obtain ⟨cs, hcs, -, hv', hconv, -⟩ := migrate_true_reads h
  rw [conventions_eq hv', hcs, Attributes.readOr, hconv]
  cases hr : r.attributes.get? RunKey.conventions with
  | none =>
    have hnil : r.conventions = .ok [] := by
      rw [conventions_eq hv, Attributes.readOr, hr]
      simp [hlt, Functor.map, Except.map, textSet]
    rw [hcs] at hnil
    cases hnil
    rfl
  | some x =>
    have hcur : FormatVersion.current.lt FormatVersion.current = false := by decide
    simp [Attributes.convert, AttrType.extract?, Functor.map, Except.map, hcur,
      textSet_of_conventions hcs]

theorem weightNames_migrate {r r' : Run} {b : Bool} (h : r.migrate = .ok (b, r')) :
    r'.weightNames = r.weightNames := by
  rcases migrate_ok h with ⟨-, rfl⟩ | ⟨-, -, -, -, hw, -⟩
  · rfl
  · exact hw

/-- A migration keeps the declared value; when it migrates, a missing one lists the names of
the migrated header. -/
theorem declaredFatx_migrate {r r' : Run} {b : Bool} (h : r.migrate = .ok (b, r')) :
    r'.declaredFatx =
      if b then
        match r.declaredFatx with
        | .error (.missingAttribute name _) => .error (.missingAttribute name r'.attributes.names)
        | result => result
      else r.declaredFatx := by
  rcases migrate_ok h with ⟨rfl, rfl⟩ | ⟨rfl, -⟩
  · rfl
  obtain ⟨-, -, -, -, -, hfatx, -⟩ := migrate_true_reads h
  rw [if_pos rfl, declaredFatx, declaredFatx, Attributes.read_congr hfatx]
  cases (r.attributes.read RunKey.fatx : Except Error Float) with
  | ok x => rfl
  | error e => cases e <;> rfl

/-- A migration keeps the units; when it migrates, a refusal names the target scale in its
current spelling. -/
theorem nativeUnits_migrate {r r' : Run} {b : Bool} (h : r.migrate = .ok (b, r')) :
    r'.nativeUnits =
      if b then
        match r.nativeUnits with
        | .error (.nonStandardUnits scale norm) =>
          .error (.nonStandardUnits scale ((currentTargetScale norm).getD norm))
        | result => result
      else r.nativeUnits := by
  rcases migrate_ok h with ⟨rfl, rfl⟩ | ⟨rfl, -⟩
  · rfl
  obtain ⟨-, -, -, -, -, -, hunit, hscale⟩ := migrate_true_reads h
  rw [if_pos rfl]
  exact nativeUnits_respelled hunit hscale

end Run

/-! ## Accumulating against a migrated header -/

namespace Accumulator

variable {α : Type} [Scalar α]

omit [Scalar α] in
theorem resolveUnits_congr (acc : Accumulator α) {r r' : Run}
    (h : r'.nativeUnits.toOption = r.nativeUnits.toOption) :
    (acc.resolveUnits r').toOption = (acc.resolveUnits r).toOption := by
  unfold resolveUnits
  split
  · cases hr : r.nativeUnits <;> cases hr' : r'.nativeUnits <;>
      simp_all [Except.toOption, Functor.map, Except.map]
  · rfl

theorem bookkeep_congr (acc : Accumulator α) {r r' : Run}
    (h : r'.declaredFatx.toOption = r.declaredFatx.toOption) (e : Event) (t : Species) (w : α) :
    (acc.bookkeep r' e t w).toOption = (acc.bookkeep r e t w).toOption := by
  unfold bookkeep
  split
  · cases hr : r.declaredFatx <;> cases hr' : r'.declaredFatx <;>
      simp_all [Except.toOption, Functor.map, Except.map]
  all_goals rfl

/-- Two runs whose units and declared value read alike, up to what their failures say, lead a
call to the same state. -/
theorem process_congr_run (acc : Accumulator α) {r r' : Run}
    (hu : r'.nativeUnits.toOption = r.nativeUnits.toOption)
    (hf : r'.declaredFatx.toOption = r.declaredFatx.toOption) (e : Event) :
    (acc.process r' e).1 = (acc.process r e).1 := by
  unfold process
  split
  · rfl
  cases acc.centralWeight e with
  | error err => rfl
  | ok w =>
    cases e.targetSpecies with
    | error err => rfl
    | ok t =>
      dsimp only
      have h1 := resolveUnits_congr (acc.record t w) hu
      cases hr : (acc.record t w).resolveUnits r with
      | error err =>
        cases hr' : (acc.record t w).resolveUnits r' with
        | error err' => rfl
        | ok a' => simp [hr, hr', Except.toOption] at h1
      | ok a =>
        cases hr' : (acc.record t w).resolveUnits r' with
        | error err' => simp [hr, hr', Except.toOption] at h1
        | ok a' =>
          -- the units settled alike, so the bookkeeping starts from the same state
          obtain rfl : a' = a := by simpa [hr, hr', Except.toOption] using h1
          dsimp only
          have h2 := bookkeep_congr a' hf e t w
          cases hb : a'.bookkeep r e t w with
          | error err =>
            cases hb' : a'.bookkeep r' e t w with
            | error err' => rfl
            | ok c' => simp [hb, hb', Except.toOption] at h2
          | ok c =>
            cases hb' : a'.bookkeep r' e t w with
            | error err' => simp [hb, hb', Except.toOption] at h2
            | ok c' =>
              obtain rfl : c' = c := by simpa [hb, hb', Except.toOption] using h2
              rfl

theorem runAll_congr_run (acc : Accumulator α) {r r' : Run}
    (hu : r'.nativeUnits.toOption = r.nativeUnits.toOption)
    (hf : r'.declaredFatx.toOption = r.declaredFatx.toOption) (events : List Event) :
    acc.runAll (events.map (r', ·)) = acc.runAll (events.map (r, ·)) := by
  induction events generalizing acc with
  | nil => rfl
  | cons e events ih =>
    simp only [List.map_cons, runAll_cons, process_congr_run acc hu hf e, ih]

theorem ofRun_migrate {r r' : Run} {b : Bool} (h : r.migrate = .ok (b, r')) (name : String) :
    (ofRun r' name : Except Error (Accumulator α)) = ofRun r name := by
  simp only [ofRun, Run.conventions_migrate h, Run.weightIndex, Run.weightNames_migrate h]

theorem ofSettings_migrate {r r' : Run} {b : Bool} (h : r.migrate = .ok (b, r'))
    (c : AccumulatorSettings) :
    (ofSettings r' c : Except Error (Accumulator α)) = ofSettings r c := by
  unfold ofSettings
  split
  · exact ofRun_migrate h _
  · simp only [Run.weightIndex, Run.weightNames_migrate h]

end Accumulator

/-- A successful migration changes nothing the accumulation reads, but for the names a failure
mentions: strategy choice and every run of calls are as against the header as it was. -/
theorem migrated_header_reads_as_before {α : Type} [Scalar α] {r r' : Run} {b : Bool}
    (h : r.migrate = .ok (b, r')) :
    r'.conventions = r.conventions ∧
    (∀ name, r'.weightIndex name = r.weightIndex name) ∧
    r'.declaredFatx =
      (if b then
        match r.declaredFatx with
        | .error (.missingAttribute name _) => .error (.missingAttribute name r'.attributes.names)
        | result => result
      else r.declaredFatx) ∧
    r'.nativeUnits =
      (if b then
        match r.nativeUnits with
        | .error (.nonStandardUnits scale norm) =>
          .error (.nonStandardUnits scale ((currentTargetScale norm).getD norm))
        | result => result
      else r.nativeUnits) ∧
    (∀ name, (Accumulator.ofRun r' name : Except Error (Accumulator α)) = Accumulator.ofRun r name) ∧
    (∀ c, (Accumulator.ofSettings r' c : Except Error (Accumulator α)) =
      Accumulator.ofSettings r c) ∧
    ∀ (acc : Accumulator α) (events : List Event),
      acc.runAll (events.map (r', ·)) = acc.runAll (events.map (r, ·)) := by
  have hfatx := Run.declaredFatx_migrate h
  have hunits := Run.nativeUnits_migrate h
  have hu : r'.nativeUnits.toOption = r.nativeUnits.toOption := by
    rw [hunits]
    split
    · split <;> simp_all [Except.toOption]
    · rfl
  have hf : r'.declaredFatx.toOption = r.declaredFatx.toOption := by
    rw [hfatx]
    split
    · split <;> simp_all [Except.toOption]
    · rfl
  refine ⟨Run.conventions_migrate h, fun name => ?_, hfatx, hunits, Accumulator.ofRun_migrate h,
    Accumulator.ofSettings_migrate h, fun acc events => Accumulator.runAll_congr_run acc hu hf events⟩
  simp only [Run.weightIndex, Run.weightNames_migrate h]

/-- The header of the runner's test, version 0.9.0 declaring G.C.1 and G.C.8: it migrates to
the current format declaring G.C.5, and the run and the migrated header choose alike. -/
theorem legacy_declared_header_chooses_alike :
    let r : Run := ⟨["CV"], ⟨[(RunKey.conventions, .texts ["G.C.1", "G.C.8"]),
      (RunKey.fatx, .double 42.0), (RunKey.major, .int 0), (RunKey.minor, .int 9),
      (RunKey.patch, .int 0)]⟩⟩
    let r' : Run := ⟨["CV"], ⟨[(RunKey.conventions, .texts ["G.C.5"]),
      (RunKey.fatx, .double 42.0), (RunKey.major, .int 1), (RunKey.minor, .int 0),
      (RunKey.patch, .int 0)]⟩⟩
    r.migrate = .ok (true, r') ∧ r'.conventions = r.conventions ∧
      (Accumulator.ofRun r' "CV" : Except Error (Accumulator Float)) = Accumulator.ofRun r "CV" := by
  intro r r'
  have hm : r.migrate = .ok (true, r') := by rfl
  have h := migrated_header_reads_as_before (α := Float) hm
  exact ⟨hm, h.1, h.2.2.2.2.1 "CV"⟩

/-- A header of version 0.9.0 with a beam rate unit and no declared value: the migration moves
the unit to the flux unit's name, so the missing declared value lists other names after it. -/
theorem renamed_rate_unit_changes_missing_fatx_names :
    let r : Run := ⟨[], ⟨[(RunKey.legacyRateUnit, .text "cm-2 s-1"), (RunKey.major, .int 0),
      (RunKey.minor, .int 9), (RunKey.patch, .int 0)]⟩⟩
    let r' : Run := ⟨[], ⟨[(RunKey.fluxUnit, .text "cm-2 s-1"), (RunKey.major, .int 1),
      (RunKey.minor, .int 0), (RunKey.patch, .int 0)]⟩⟩
    r.migrate = .ok (true, r') ∧ r'.declaredFatx ≠ r.declaredFatx := by
  intro r r'
  refine ⟨by rfl, ?_⟩
  decide

end FluxAverage
