-- Choosing the strategy of an accumulation: from a run, that of the most trusted convention it
-- declares (G.C.5 over E.C.4 over E.C.2), older formats renumbered first; a strategy named in the
-- settings overrides the run, which is then read for the central-value weight only.
import Mathlib.Data.Prod.Lex
import FluxAverage.Proofs.MigrationOnce

namespace FluxAverage

/-! ## Versions -/

theorem FormatVersion.lt_iff_toLex (v w : FormatVersion) :
    v.lt w = true ↔
      toLex (v.major, toLex (v.minor, v.patch)) < toLex (w.major, toLex (w.minor, w.patch)) := by
  simp only [FormatVersion.lt, Prod.Lex.toLex_lt_toLex, Bool.or_eq_true, Bool.and_eq_true,
    decide_eq_true_eq, beq_iff_eq]

theorem Attributes.read_int_ok {a : Attributes} {name : String} {n : Int}
    (h : (a.read name : Except Error Int) = .ok n) : a.get? name = some (.int n) := by
  unfold Attributes.read at h
  cases hv : a.get? name with
  | none => rw [hv] at h; cases h
  | some v =>
    rw [hv] at h
    cases v <;> simp_all [Attributes.convert, AttrType.extract?]

namespace Run

/-- A version that reads has its three numbers present as integers. -/
theorem version_ok {r : Run} {v : FormatVersion} (h : r.version = .ok v) :
    r.attributes.get? RunKey.major = some (.int v.major) ∧
      r.attributes.get? RunKey.minor = some (.int v.minor) ∧
      r.attributes.get? RunKey.patch = some (.int v.patch) := by
  unfold version at h
  cases h1 : (r.attributes.read RunKey.major : Except Error Int) with
  | error e => simp [h1, bind, Except.bind] at h
  | ok major =>
    cases h2 : (r.attributes.read RunKey.minor : Except Error Int) with
    | error e => simp [h1, h2, bind, Except.bind] at h
    | ok minor =>
      cases h3 : (r.attributes.read RunKey.patch : Except Error Int) with
      | error e => simp [h1, h2, h3, bind, Except.bind] at h
      | ok patch =>
        simp only [h1, h2, h3, bind, Except.bind, pure, Except.pure, Except.ok.injEq] at h
        subst h
        exact ⟨Attributes.read_int_ok h1, Attributes.read_int_ok h2, Attributes.read_int_ok h3⟩

/-- A version with one of its numbers missing or not an integer does not read. -/
theorem version_error {r : Run}
    (h : ∃ k ∈ [RunKey.major, RunKey.minor, RunKey.patch], ∀ n : Int,
      r.attributes.get? k ≠ some (.int n)) :
    ∃ err, r.version = .error err := by
  cases hv : r.version with
  | error err => exact ⟨err, rfl⟩
  | ok v =>
    obtain ⟨k, hk, hn⟩ := h
    obtain ⟨h1, h2, h3⟩ := version_ok hv
    simp only [List.mem_cons, List.not_mem_nil, or_false] at hk
    rcases hk with rfl | rfl | rfl
    · exact absurd h1 (hn _)
    · exact absurd h2 (hn _)
    · exact absurd h3 (hn _)

/-! ## The declared conventions -/

section Declared

variable {r : Run} {declared : List String}
  (hd : r.attributes.readOr RunKey.conventions [] = .ok declared)
include hd

theorem conventions_of_no_major (hm : r.attributes.contains RunKey.major = false) :
    r.conventions = .ok (textSet declared) := by
  unfold conventions predatesCurrentFormat declaredVersion
  rw [hd, if_neg (by rw [hm]; decide)]
  rfl

theorem conventions_of_version {v : FormatVersion} (hm : r.attributes.contains RunKey.major = true)
    (hv : r.version = .ok v) :
    r.conventions = .ok (textSet
      (if v.lt FormatVersion.current then declared.filterMap renumberLegacy else declared)) := by
  have hdv : r.declaredVersion = .ok (some v) := by
    rw [declaredVersion, if_pos hm, hv]
    rfl
  rw [conventions_eq hdv, hd]
  rfl

/-- A major number with a version that does not read makes the conventions fail on it. -/
theorem conventions_of_version_error {err : Error}
    (hm : r.attributes.contains RunKey.major = true) (hv : r.version = .error err) :
    r.conventions = .error err := by
  unfold conventions predatesCurrentFormat declaredVersion
  rw [hd, if_pos hm, hv]
  rfl

end Declared

theorem conventions_of_read_error {r : Run} {err : Error}
    (hd : (r.attributes.readOr RunKey.conventions [] : Except Error (List String)) = .error err) :
    r.conventions = .error err := by
  unfold conventions
  rw [hd]
  rfl

/-- A major number with a version number missing or not an integer makes the conventions fail,
on the declared list if that does not read, else on the version. -/
theorem conventions_error_of_version {r : Run} (hm : r.attributes.contains RunKey.major = true)
    (hk : ∃ k ∈ [RunKey.major, RunKey.minor, RunKey.patch], ∀ n : Int,
      r.attributes.get? k ≠ some (.int n)) :
    ∃ err, r.conventions = .error err := by
  cases hd : (r.attributes.readOr RunKey.conventions [] : Except Error (List String)) with
  | error err => exact ⟨err, conventions_of_read_error hd⟩
  | ok declared =>
    obtain ⟨err, hv⟩ := version_error hk
    exact ⟨err, conventions_of_version_error hd hm hv⟩

end Run

theorem Run.weightIndex_eq_some_iff {r : Run} {n : String} {k : Nat} :
    r.weightIndex n = some k ↔
      r.weightNames[k]? = some n ∧ ∀ j < k, r.weightNames[j]? ≠ some n := by
  rw [Run.weightIndex, List.idxOf?_eq_some_iff]
  constructor
  · rintro ⟨hk, heq, hfirst⟩
    refine ⟨by rw [List.getElem?_eq_getElem hk, heq], fun j hj => ?_⟩
    rw [List.getElem?_eq_getElem (by omega)]
    exact fun h => hfirst j hj (Option.some.inj h)
  · rintro ⟨hk, hfirst⟩
    obtain ⟨hk', heq⟩ := List.getElem?_eq_some_iff.1 hk
    exact ⟨hk', heq, fun j hj h => hfirst j hj (by rw [List.getElem?_eq_getElem (by omega), h])⟩

theorem Strategy.ofToken?_eq_some_iff {name : String} {st : Strategy} :
    Strategy.ofToken? name = some st ↔ st.token = name := by
  constructor
  · intro h
    unfold Strategy.ofToken? at h
    split at h <;> cases h <;> rfl
  · rintro rfl
    cases st <;> rfl

/-! ## Renumbering older conventions -/

/-- What an older format called G.C.8 is G.C.5 now, and nothing else becomes G.C.5. -/
theorem renumberLegacy_eq_declared {d : String} : renumberLegacy d = some "G.C.5" ↔ d = "G.C.8" := by
  unfold renumberLegacy
  split <;> simp_all

theorem renumberLegacy_eq_perEvent {c d : String} (hc : c = "E.C.4" ∨ c = "E.C.2") :
    renumberLegacy d = some c ↔ d = c := by
  unfold renumberLegacy
  rcases hc with rfl | rfl <;> split <;> simp_all

theorem mem_renumbered_declared {declared : List String} :
    "G.C.5" ∈ textSet (declared.filterMap renumberLegacy) ↔ "G.C.8" ∈ declared := by
  simp only [mem_textSet, List.mem_filterMap, renumberLegacy_eq_declared, exists_eq_right]

theorem mem_renumbered_perEvent {c : String} (hc : c = "E.C.4" ∨ c = "E.C.2")
    {declared : List String} :
    c ∈ textSet (declared.filterMap renumberLegacy) ↔ c ∈ declared := by
  simp only [mem_textSet, List.mem_filterMap, renumberLegacy_eq_perEvent hc, exists_eq_right]

/-! ## Choosing the strategy -/

namespace Accumulator

variable {α : Type} [Scalar α]

theorem ofRun_error {r : Run} {err : Error} (h : r.conventions = .error err) (n : String) :
    (ofRun r n : Except Error (Accumulator α)) = .error err := by
  unfold ofRun
  rw [h]
  rfl

/-- The strategy of the most trusted detectable convention among those declared. -/
theorem ofRun_ok {r : Run} {S : List String} (h : r.conventions = .ok S) (n : String) :
    (ofRun r n : Except Error (Accumulator α)) =
      if "G.C.5" ∈ S then .ok (new .declared (r.weightIndex n))
      else if "E.C.4" ∈ S then .ok (new .bestEstimate (r.weightIndex n))
      else if "E.C.2" ∈ S then .ok (new .ratio (r.weightIndex n))
      else .error (.noMethod S) := by
  unfold ofRun
  rw [h]
  simp only [bind, Except.bind, Strategy.detectionOrder, List.find?_cons, List.find?_nil,
    Strategy.token, List.contains_eq_mem]
  by_cases h5 : "G.C.5" ∈ S
  · simp only [h5, decide_true, if_true]
    rfl
  by_cases h4 : "E.C.4" ∈ S
  · simp only [h5, h4, decide_true, decide_false, if_true, if_false]
    rfl
  by_cases h2 : "E.C.2" ∈ S
  · simp only [h5, h4, h2, decide_true, decide_false, if_true, if_false]
    rfl
  · simp only [h5, h4, h2, decide_false, if_false]
    rfl

section Settings

variable {s : AccumulatorSettings}

theorem ofSettings_of_none (hs : s.conventionOverride = none) (r : Run) :
    (ofSettings r s : Except Error (Accumulator α)) = ofRun r s.cvWeightName := by
  unfold ofSettings
  rw [hs]

theorem ofSettings_named {name : String} {st : Strategy} (hs : s.conventionOverride = some name)
    (ht : Strategy.ofToken? name = some st) (r : Run) :
    (ofSettings r s : Except Error (Accumulator α)) = .ok (new st (r.weightIndex s.cvWeightName)) := by
  unfold ofSettings named
  rw [hs]
  dsimp only
  rw [ht]
  rfl

theorem ofSettings_unknown {name : String} (hs : s.conventionOverride = some name)
    (ht : Strategy.ofToken? name = none) (r : Run) :
    (ofSettings r s : Except Error (Accumulator α)) = .error (.noMethod [name]) := by
  unfold ofSettings named
  rw [hs]
  dsimp only
  rw [ht]
  rfl

/-- A named strategy reads nothing of the run but its weight names. -/
theorem ofSettings_congr_run {name : String} (hs : s.conventionOverride = some name) {r r' : Run}
    (hw : r'.weightNames = r.weightNames) :
    (ofSettings r' s : Except Error (Accumulator α)) = ofSettings r s := by
  have hi : r'.weightIndex s.cvWeightName = r.weightIndex s.cvWeightName := by
    rw [Run.weightIndex, Run.weightIndex, hw]
  cases ht : Strategy.ofToken? name with
  | none => rw [ofSettings_unknown hs ht, ofSettings_unknown hs ht]
  | some st => rw [ofSettings_named hs ht, ofSettings_named hs ht, hi]

end Settings

end Accumulator

/-! ## The strategy of an accumulation -/

/-- A run's conventions read as its declared set, renumbered for an older version; the strategy is
the most trusted convention declared, or an error listing them, and a named strategy in the
settings overrides the run. -/
theorem strategy_follows_most_trusted_convention {α : Type} [Scalar α] :
    (∀ (r : Run) (declared : List String),
      r.attributes.readOr RunKey.conventions [] = .ok declared →
        (r.attributes.contains RunKey.major = false → r.conventions = .ok (textSet declared)) ∧
        ∀ v, r.attributes.contains RunKey.major = true → r.version = .ok v →
          r.conventions = .ok (textSet
            (if v.lt FormatVersion.current then declared.filterMap renumberLegacy else declared))) ∧
    (∀ r : Run, r.attributes.contains RunKey.major = true →
      (∃ k ∈ [RunKey.major, RunKey.minor, RunKey.patch], ∀ n : Int,
        r.attributes.get? k ≠ some (.int n)) →
      ∃ err, r.conventions = .error err) ∧
    (∀ v w : FormatVersion, v.lt w = true ↔
      toLex (v.major, toLex (v.minor, v.patch)) < toLex (w.major, toLex (w.minor, w.patch))) ∧
    (∀ xs : List String, (textSet xs).Pairwise (· < ·) ∧ ∀ c, c ∈ textSet xs ↔ c ∈ xs) ∧
    (∀ declared : List String,
      ("G.C.5" ∈ textSet (declared.filterMap renumberLegacy) ↔ "G.C.8" ∈ declared) ∧
      ("E.C.4" ∈ textSet (declared.filterMap renumberLegacy) ↔ "E.C.4" ∈ declared) ∧
      ("E.C.2" ∈ textSet (declared.filterMap renumberLegacy) ↔ "E.C.2" ∈ declared)) ∧
    (∀ (r : Run) (n : String),
      (∀ err, r.conventions = .error err →
        (Accumulator.ofRun r n : Except Error (Accumulator α)) = .error err) ∧
      ∀ S, r.conventions = .ok S → S.Pairwise (· < ·) ∧
        (Accumulator.ofRun r n : Except Error (Accumulator α)) =
          if "G.C.5" ∈ S then .ok (Accumulator.new .declared (r.weightIndex n))
          else if "E.C.4" ∈ S then .ok (Accumulator.new .bestEstimate (r.weightIndex n))
          else if "E.C.2" ∈ S then .ok (Accumulator.new .ratio (r.weightIndex n))
          else .error (.noMethod S)) ∧
    (∀ (r : Run) (n : String) (k : Nat),
      (r.weightIndex n = some k ↔
        r.weightNames[k]? = some n ∧ ∀ j < k, r.weightNames[j]? ≠ some n) ∧
      (r.weightIndex n = none ↔ n ∉ r.weightNames)) ∧
    (∀ (name : String) (st : Strategy), Strategy.ofToken? name = some st ↔ st.token = name) ∧
    ∀ (r r' : Run) (s : AccumulatorSettings),
      (s.conventionOverride = none →
        (Accumulator.ofSettings r s : Except Error (Accumulator α)) =
          Accumulator.ofRun r s.cvWeightName) ∧
      ∀ name, s.conventionOverride = some name →
        (∀ st, Strategy.ofToken? name = some st →
          (Accumulator.ofSettings r s : Except Error (Accumulator α)) =
            .ok (Accumulator.new st (r.weightIndex s.cvWeightName))) ∧
        (Strategy.ofToken? name = none →
          (Accumulator.ofSettings r s : Except Error (Accumulator α)) = .error (.noMethod [name])) ∧
        (r'.weightNames = r.weightNames →
          (Accumulator.ofSettings r' s : Except Error (Accumulator α)) =
            Accumulator.ofSettings r s) := by
  refine ⟨fun r declared hd => ⟨Run.conventions_of_no_major hd,
      fun v hm hv => Run.conventions_of_version hd hm hv⟩,
    fun r hm hk => Run.conventions_error_of_version hm hk, FormatVersion.lt_iff_toLex, fun xs => ⟨pairwise_textSet xs, fun c => mem_textSet⟩,
    fun declared => ⟨mem_renumbered_declared, mem_renumbered_perEvent (.inl rfl),
      mem_renumbered_perEvent (.inr rfl)⟩,
    fun r n => ⟨fun err h => Accumulator.ofRun_error h n, fun S h => ?_⟩,
    fun r n k => ⟨Run.weightIndex_eq_some_iff, List.idxOf?_eq_none_iff⟩,
    fun name st => Strategy.ofToken?_eq_some_iff,
    fun r r' s => ⟨fun hs => Accumulator.ofSettings_of_none hs r, fun name hs => ⟨fun st ht =>
      Accumulator.ofSettings_named hs ht r, fun ht => Accumulator.ofSettings_unknown hs ht r,
      Accumulator.ofSettings_congr_run hs⟩⟩⟩
  have hset : textSet S = S := Run.textSet_of_conventions h
  exact ⟨hset ▸ pairwise_textSet S, Accumulator.ofRun_ok h n⟩

/-- A run of format 0.9.0 declaring E.C.2, G.C.8 and the withdrawn G.C.1, with two weights
named CV: its conventions read as E.C.2 and G.C.5, so it chooses the declared value, with the
first CV weight as central value. -/
theorem legacy_run_declaring_g_c_8_chooses_declared :
    let r : Run := ⟨["CV", "alt", "CV"], ⟨[(RunKey.conventions, .texts ["E.C.2", "G.C.8", "G.C.1"]),
      (RunKey.major, .int 0), (RunKey.minor, .int 9), (RunKey.patch, .int 0)]⟩⟩
    r.attributes.readOr RunKey.conventions [] = .ok ["E.C.2", "G.C.8", "G.C.1"] ∧
      r.attributes.contains RunKey.major = true ∧ r.version = .ok ⟨0, 9, 0⟩ ∧
      r.conventions = .ok ["E.C.2", "G.C.5"] ∧ "G.C.5" ∈ ["E.C.2", "G.C.5"] ∧
      (Accumulator.ofRun r "CV" : Except Error (Accumulator Float)) =
        .ok (Accumulator.new .declared (some 0)) := by
  intro r
  have hd : r.attributes.readOr RunKey.conventions [] = .ok ["E.C.2", "G.C.8", "G.C.1"] := rfl
  have hm : r.attributes.contains RunKey.major = true := rfl
  have hv : r.version = .ok ⟨0, 9, 0⟩ := rfl
  have hc : r.conventions = .ok ["E.C.2", "G.C.5"] :=
    ((strategy_follows_most_trusted_convention (α := Float)).1 r _ hd).2 _ hm hv
  have h5 : "G.C.5" ∈ ["E.C.2", "G.C.5"] := List.mem_cons_of_mem _ (List.mem_singleton_self _)
  have hrun :=
    ((strategy_follows_most_trusted_convention (α := Float)).2.2.2.2.2.1 r "CV").2 _ hc
  rw [if_pos h5] at hrun
  exact ⟨hd, hm, hv, hc, h5, hrun.2⟩

end FluxAverage
