-- A header is migrated at most once. Every read that can fail is a read of the header as given,
-- so a failed migration writes nothing; a migration touches only the version, the beam's flux
-- unit, the conventions and the target scale, and the stamped version makes the next one idle.
import FluxAverage.Proofs.Migration

namespace FluxAverage

theorem mem_foldl_insertText {c : String} (xs : List String) {acc : List String} :
    c ∈ xs.foldl (fun acc s => insertText s acc) acc ↔ c ∈ acc ∨ c ∈ xs := by
  induction xs generalizing acc with
  | nil => simp
  | cons x xs ih =>
    rw [List.foldl_cons, ih, mem_insertText, List.mem_cons]
    tauto

theorem mem_textSet {c : String} {xs : List String} : c ∈ textSet xs ↔ c ∈ xs := by
  simp [textSet, mem_foldl_insertText]

theorem currentTargetScale_ne_iff (d : String) :
    (currentTargetScale d).getD d ≠ d ↔ d = "PerTarget" ∨ d = "PerAtom" ∨ d = "PerNucleon" := by
  unfold currentTargetScale
  split <;> simp_all

namespace Attributes

theorem get?_rename_source (a : Attributes) {src tgt : String} (h : src ≠ tgt) :
    (a.rename src tgt).get? src = none := by
  unfold rename
  split
  · rw [get?_insert, if_neg h, get?_erase, if_pos rfl]
  · assumption

theorem get?_rename_target (a : Attributes) (src tgt : String) :
    (a.rename src tgt).get? tgt = (a.get? src).or (a.get? tgt) := by
  unfold rename
  split <;> simp_all [get?_insert]

/-- Writing the conventions back, respelling the target scale and stamping the version leave
the two names of the beam's unit as they were. -/
theorem get?_beam_unit (a : Attributes) (b : Bool) (cs : List String) {m : String}
    (hm : m = RunKey.legacyRateUnit ∨ m = RunKey.fluxUnit) :
    (((if b then a.insert RunKey.conventions (.texts cs) else a).rename RunKey.legacyRateUnit
        RunKey.fluxUnit).respellTargetScale.setCurrentVersion).get? m =
      ((a.rename RunKey.legacyRateUnit RunKey.fluxUnit)).get? m := by
  have hts : m ≠ RunKey.targetScale := by rcases hm with rfl | rfl <;> decide
  have hver : m ≠ RunKey.patch ∧ m ≠ RunKey.minor ∧ m ≠ RunKey.major := by
    rcases hm with rfl | rfl <;> decide
  have hc : m ≠ RunKey.conventions := by rcases hm with rfl | rfl <;> decide
  rw [get?_setCurrentVersion, if_neg hver.1, if_neg hver.2.1, if_neg hver.2.2,
    get?_respellTargetScale, if_neg hts]
  have hsame : ∀ n, n ≠ RunKey.conventions →
      (if b then a.insert RunKey.conventions (.texts cs) else a).get? n = a.get? n := by
    intro n hn
    cases b
    · rfl
    · simp [get?_insert, hn]
  rcases hm with rfl | rfl
  · rw [get?_rename_source _ (by decide), get?_rename_source _ (by decide)]
  · rw [get?_rename_target, get?_rename_target, hsame _ (by decide), hsame _ (by decide)]

end Attributes

namespace Run

/-- A migration fails exactly when reading the version fails, or, for a header of an older
format that has conventions, when reading them fails; either read is of the header as given. -/
theorem migrate_error_iff (r : Run) (err : Error) :
    r.migrate = .error err ↔
      r.declaredVersion = .error err ∨
        ∃ v, r.declaredVersion = .ok (some v) ∧ v.lt FormatVersion.current ∧
          r.attributes.contains RunKey.conventions ∧ r.conventions = .error err := by
  unfold migrate
  cases hv : r.declaredVersion with
  | error e => simp [bind, Except.bind]
  | ok ov =>
    cases ov with
    | none => simp [bind, Except.bind, pure, Except.pure]
    | some v =>
      cases hlt : v.lt FormatVersion.current
      case false => simp [hlt, bind, Except.bind, pure, Except.pure]
      by_cases hc : r.attributes.contains RunKey.conventions
      · cases r.conventions <;> simp [hlt, hc, bind, Except.bind, pure, Except.pure]
      · simp [hlt, hc, bind, Except.bind, pure, Except.pure]

/-- The conventions of a header of an older format, as they read: its declared list,
renumbered without the withdrawn ones, as a set. -/
theorem conventions_older {r : Run} {v : FormatVersion} (hv : r.declaredVersion = .ok (some v))
    (hlt : v.lt FormatVersion.current) {cs : List String} (hcs : r.conventions = .ok cs)
    {v0 : AttrValue} (h0 : r.attributes.get? RunKey.conventions = some v0) :
    ∃ declared, v0 = .texts declared ∧ cs = textSet (declared.filterMap renumberLegacy) := by
  rw [conventions_eq hv, Attributes.readOr, h0] at hcs
  cases v0 with
  | texts declared =>
    simp only [Attributes.convert, AttrType.extract?, Functor.map, Except.map, hlt, if_true,
      Except.ok.injEq] at hcs
    exact ⟨declared, rfl, hcs.symm⟩
  | _ => simp [Attributes.convert, AttrType.extract?, Functor.map, Except.map] at hcs

/-- A migrated header declares the current version and is left alone by the next migration. -/
theorem migrate_migrate {r r' : Run} {b : Bool} (h : r.migrate = .ok (b, r')) :
    r'.migrate = .ok (false, r') := by
  cases b
  case false =>
    rcases migrate_ok h with ⟨-, rfl⟩ | ⟨hb, -⟩
    · exact h
    · cases hb
  obtain ⟨-, -, -, hv, -⟩ := migrate_true_reads h
  have hcur : FormatVersion.current.lt FormatVersion.current = false := by decide
  simp [migrate, hv, hcur, bind, Except.bind, pure, Except.pure]

end Run

/-- A migration fails exactly when reading the version or the conventions fails; when it
migrates it writes the current version, the renumbered conventions, the flux unit and the
respelled target scale, and a second migration changes nothing. -/
theorem migration_fails_first_and_runs_once (r : Run) :
    (∀ err, r.migrate = .error err ↔
      r.declaredVersion = .error err ∨
        ∃ v, r.declaredVersion = .ok (some v) ∧ v.lt FormatVersion.current ∧
          r.attributes.contains RunKey.conventions ∧ r.conventions = .error err) ∧
    (∀ r', r.migrate = .ok (false, r') → r' = r) ∧
    (∀ r', r.migrate = .ok (true, r') →
      r'.attributes.get? RunKey.major = some (.int 1) ∧
      r'.attributes.get? RunKey.minor = some (.int 0) ∧
      r'.attributes.get? RunKey.patch = some (.int 0) ∧
      r'.attributes.get? RunKey.legacyRateUnit = none ∧
      r'.attributes.get? RunKey.fluxUnit =
        (r.attributes.get? RunKey.legacyRateUnit).or (r.attributes.get? RunKey.fluxUnit) ∧
      (r'.attributes.get? RunKey.conventions).isSome =
        (r.attributes.get? RunKey.conventions).isSome ∧
      (∀ v, r'.attributes.get? RunKey.conventions = some v →
        ∃ declared cs, r.attributes.get? RunKey.conventions = some (.texts declared) ∧
          v = .texts cs ∧ cs.Pairwise (· < ·) ∧
          ∀ c, c ∈ cs ↔ ∃ d ∈ declared, renumberLegacy d = some c) ∧
      (r'.attributes.get? RunKey.targetScale ≠ r.attributes.get? RunKey.targetScale ↔
        ∃ d, r.attributes.get? RunKey.targetScale = some (.text d) ∧
          (d = "PerTarget" ∨ d = "PerAtom" ∨ d = "PerNucleon")) ∧
      (∀ d, r.attributes.get? RunKey.targetScale = some (.text d) →
        r'.attributes.get? RunKey.targetScale = some (.text ((currentTargetScale d).getD d))) ∧
      r'.weightNames = r.weightNames ∧
      ∀ m, m ∉ [RunKey.conventions, RunKey.targetScale, RunKey.major, RunKey.minor,
          RunKey.patch, RunKey.legacyRateUnit, RunKey.fluxUnit] →
        r'.attributes.get? m = r.attributes.get? m) ∧
    ∀ b r', r.migrate = .ok (b, r') → r'.migrate = .ok (false, r') := by
  refine ⟨Run.migrate_error_iff r, fun r' h => ?_, fun r' h => ?_,
    fun b r' h => Run.migrate_migrate h⟩
  · rcases Run.migrate_ok h with ⟨-, rfl⟩ | ⟨hb, -⟩
    · rfl
    · cases hb
  rcases Run.migrate_ok h with ⟨hb, -⟩ | ⟨-, v, hv, hlt, hw, cs, hcs, hattrs⟩
  · cases hb
  -- every name but the two of the beam's unit reads through the steps of the migration
  have hget : ∀ m, m ≠ RunKey.legacyRateUnit → m ≠ RunKey.fluxUnit →
      r'.attributes.get? m = _ :=
    fun m hl hf => hattrs ▸ Attributes.get?_migrated r.attributes cs hl hf
  have hbeam : ∀ m, m = RunKey.legacyRateUnit ∨ m = RunKey.fluxUnit →
      r'.attributes.get? m = (r.attributes.rename RunKey.legacyRateUnit RunKey.fluxUnit).get? m :=
    fun m hm => hattrs ▸ Attributes.get?_beam_unit r.attributes _ cs hm
  have hconv : r'.attributes.get? RunKey.conventions =
      (r.attributes.get? RunKey.conventions).map fun _ => .texts cs := by
    rw [hget _ (by decide) (by decide)]; simp +decide
  refine ⟨by rw [hget _ (by decide) (by decide)]; simp +decide,
    by rw [hget _ (by decide) (by decide)]; simp +decide,
    by rw [hget _ (by decide) (by decide)]; simp +decide,
    by rw [hbeam _ (.inl rfl), Attributes.get?_rename_source _ (by decide)],
    by rw [hbeam _ (.inr rfl), Attributes.get?_rename_target],
    by rw [hconv, Option.isSome_map], fun v0 hv0 => ?_, ?_,
    fun d hd => by rw [hget _ (by decide) (by decide)]; simp +decide [hd], hw, fun m hm => ?_⟩
  · rw [hconv] at hv0
    obtain ⟨v1, h1, rfl⟩ := Option.map_eq_some_iff.1 hv0
    obtain ⟨declared, rfl, rfl⟩ := Run.conventions_older hv hlt hcs h1
    exact ⟨declared, _, h1, rfl, pairwise_textSet _, fun c => by
      rw [mem_textSet, List.mem_filterMap]⟩
  · rw [hget _ (by decide) (by decide)]
    cases r.attributes.get? RunKey.targetScale with
    | none => simp +decide
    | some v1 =>
      cases v1 with
      | text d => simp +decide [currentTargetScale_ne_iff]
      | _ => simp +decide
  · simp only [List.mem_cons, List.not_mem_nil, or_false, not_or] at hm
    obtain ⟨hc, hts, hmaj, hmin, hpat, hl, hf⟩ := hm
    rw [hget m hl hf]
    simp [hc, hts, hmaj, hmin, hpat]

/-- The legacy header of version 0.9.0 that declares G.C.8 and G.C.2, a beam rate unit and the
target scale `PerTarget` migrates to version 1.0.0, with the rate unit as its flux unit and the
target scale `PerTargetAtom`, and a second migration leaves it alone. -/
theorem legacy_header_migrates_once :
    let r : Run := ((((((Run.new.withAttribute RunKey.major (.int 0)).withAttribute RunKey.minor
      (.int 9)).withAttribute RunKey.patch (.int 0)).withAttribute RunKey.conventions
      (.texts ["G.C.8", "G.C.2"])).withAttribute RunKey.legacyRateUnit (.text "Events/s")).withAttribute
      RunKey.targetScale (.text "PerTarget"))
    ∃ r', r.migrate = .ok (true, r') ∧ r'.attributes.get? RunKey.major = some (.int 1) ∧
      r'.attributes.get? RunKey.fluxUnit = some (.text "Events/s") ∧
      r'.attributes.get? RunKey.targetScale = some (.text "PerTargetAtom") ∧
      r'.migrate = .ok (false, r') := by
  intro r
  obtain ⟨r', hm⟩ : ∃ r', r.migrate = .ok (true, r') := ⟨_, rfl⟩
  have h := (migration_fails_first_and_runs_once r).2.2.1 r' hm
  refine ⟨r', hm, h.1, ?_, ?_, (migration_fails_first_and_runs_once r).2.2.2 true r' hm⟩
  · rw [h.2.2.2.2.1]
    rfl
  · rw [h.2.2.2.2.2.2.2.2.1 "PerTarget" rfl]
    rfl

end FluxAverage
