-- The laws of reading an event stream. Blank lines are skipped wherever they stand and keep
-- their numbers. The first line that is not blank is the run header and the later ones are the
-- events, processed in order. The outcome is settled by the first line that fails, whatever
-- follows it; when none fails, the report is that of the events folded in order.
import Mathlib.Data.List.TakeWhile
import FluxAverage.Cli.Run
import FluxAverage.Proofs.Process

namespace FluxAverage

namespace Text

/-- A text trims to nothing exactly when all its characters are blank. -/
theorem trimBlank_eq_empty_iff (s : String) : trimBlank s = "" ↔ isBlankText s = true := by
  have hleft : ∀ l : List Char, (∀ c ∈ l.dropWhile isBlank, isBlank c) → l.dropWhile isBlank = [] := by
    intro l h
    by_contra hne
    have hc := List.head_dropWhile_not isBlank hne
    rw [h _ (List.head_mem hne)] at hc
    simp at hc
  rw [trimBlank, String.ofList_eq_empty_iff, List.reverse_eq_nil_iff, List.dropWhile_eq_nil_iff,
    isBlankText, List.all_eq_true]
  simp only [List.mem_reverse]
  constructor
  · intro h
    exact List.dropWhile_eq_nil_iff.1 (hleft _ h)
  · intro h c hc
    exact h c ((List.dropWhile_suffix isBlank).subset hc)

end Text

namespace Stream

variable {rd : LineReader} {c : Config} {bytes : ByteArray} {r : Run}

/-! ## Lines and their texts -/

theorem map_lineText_eq_cons {ls : List (Nat × List UInt8)} {s : String} {texts : List String}
    (h : ls.map (fun p => lineText p.2) = (s :: texts).map some) :
    ∃ n b rest, ls = (n, b) :: rest ∧ lineText b = some s ∧
      rest.map (fun p => lineText p.2) = texts.map some := by
  rw [List.map_cons] at h
  obtain ⟨⟨n, b⟩, rest, rfl, hs, hrest⟩ := List.map_eq_cons_iff.1 h
  exact ⟨n, b, rest, rfl, hs, hrest⟩

theorem map_lineText_eq_append {ls : List (Nat × List UInt8)} {pre : List String} {s : String}
    {post : List String} (h : ls.map (fun p => lineText p.2) = (pre ++ s :: post).map some) :
    ∃ lpre n b lpost, ls = lpre ++ (n, b) :: lpost ∧ lpre.length = pre.length ∧
      lpre.map (fun p => lineText p.2) = pre.map some ∧ lineText b = some s ∧
      lpost.map (fun p => lineText p.2) = post.map some := by
  rw [List.map_append] at h
  obtain ⟨lpre, ls', rfl, hpre, hs⟩ := List.map_eq_append_iff.1 h
  obtain ⟨n, b, lpost, rfl, hb, hpost⟩ := map_lineText_eq_cons hs
  have hlen : lpre.length = pre.length := by simpa using congrArg List.length hpre
  exact ⟨lpre, n, b, lpost, rfl, hlen, hpre, hb, hpost⟩

theorem numberedLines_number {pre rest : List (Nat × List UInt8)} {x : Nat × List UInt8}
    (h : numberedLines bytes = pre ++ x :: rest) : x.1 = pre.length + 1 := by
  have hx : (numberedLines bytes)[pre.length]? = some x := by simp [h]
  simp only [numberedLines, List.getElem?_map, List.getElem?_zipIdx] at hx
  obtain ⟨l, -, rfl⟩ := by simpa using hx
  simp

theorem numberedLines_number_append {lpre lpost lmid lafter : List (Nat × List UInt8)}
    {x y : Nat × List UInt8} (h : numberedLines bytes = lpre ++ x :: lpost)
    (hpost : lpost = lmid ++ y :: lafter) : y.1 = lpre.length + lmid.length + 2 := by
  have hsplit : numberedLines bytes = (lpre ++ x :: lmid) ++ y :: lafter := by
    rw [h, hpost]
    simp
  rw [numberedLines_number hsplit]
  simp only [List.length_append, List.length_cons]
  omega

/-! ## The header -/

theorem header_append_blank {pre : List (Nat × List UInt8)} {texts : List String}
    (hpre : pre.map (fun p => lineText p.2) = texts.map some)
    (hb : ∀ s ∈ texts, Text.isBlankText s = true) (rest : List (Nat × List UInt8)) :
    header rd (pre ++ rest) = header rd rest := by
  induction texts generalizing pre with
  | nil =>
    obtain rfl : pre = [] := by simpa using hpre
    rfl
  | cons s texts ih =>
    obtain ⟨n, b, pre, rfl, hs, hpre⟩ := map_lineText_eq_cons hpre
    rw [List.cons_append, header, hs]
    simp only [hb s List.mem_cons_self, if_true]
    exact ih hpre fun s' hs' => hb s' (List.mem_cons_of_mem s hs')

theorem header_cons_nonblank {n : Nat} {b : List UInt8} {s : String} (hs : lineText b = some s)
    (hb : Text.isBlankText s = false) (rest : List (Nat × List UInt8)) :
    header rd ((n, b) :: rest) =
      match rd.run s with
      | some r => .ok (r, rest)
      | none => .error (.parse n) := by
  rw [header, hs]
  exact if_neg (by simp [hb])

/-- The header search finds the stream empty exactly when every line is blank. -/
theorem header_eq_emptyStream_iff {ls : List (Nat × List UInt8)} {texts : List String}
    (h : ls.map (fun p => lineText p.2) = texts.map some) :
    header rd ls = .error .emptyStream ↔ ∀ s ∈ texts, Text.isBlankText s = true := by
  induction texts generalizing ls with
  | nil =>
    obtain rfl : ls = [] := by simpa using h
    simp [header]
  | cons s texts ih =>
    obtain ⟨n, b, rest, rfl, hs, hrest⟩ := map_lineText_eq_cons h
    rw [List.forall_mem_cons]
    cases hb : Text.isBlankText s with
    | true =>
      rw [header, hs]
      simp only [hb, if_true, ih hrest, true_and]
    | false =>
      rw [header_cons_nonblank hs hb]
      split <;> simp

/-! ## The events -/

theorem processAll_ne_emptyStream (acc : Accumulator Float) (ls : List (Nat × List UInt8)) :
    processAll rd r acc ls ≠ .error .emptyStream := by
  fun_induction processAll rd r acc ls <;> simp_all

/-- Lines whose events all pass fold their events into the accumulator, in order, and the loop
goes on with the lines after them. -/
theorem processAll_append {ls : List (Nat × List UInt8)} {texts : List String} {es : List Event}
    (h : ls.map (fun p => lineText p.2) = texts.map some)
    (he : (texts.filter (!Text.isBlankText ·)).map rd.event =
      es.map some)
    (acc : Accumulator Float) (hok : ∀ x ∈ acc.trace (es.map (r, ·)), x.2.isOk = true)
    (rest : List (Nat × List UInt8)) :
    processAll rd r acc (ls ++ rest) = processAll rd r (acc.runAll (es.map (r, ·))) rest := by
  -- the induction is on the texts; the events are consumed as the lines that are not blank go by
  induction texts generalizing ls es acc with
  | nil =>
    obtain rfl : ls = [] := by simpa using h
    rw [List.filter_nil, List.map_nil, eq_comm, List.map_eq_nil_iff] at he
    subst he
    rfl
  | cons s texts ih =>
    obtain ⟨n, b, ls, rfl, hs, hls⟩ := map_lineText_eq_cons h
    rw [List.cons_append, processAll, hs]
    cases hb : Text.isBlankText s with
    | true =>
      simp only [hb, if_true]
      simp only [List.filter_cons, hb, Bool.not_true, Bool.false_eq_true, if_false] at he
      exact ih hls he acc hok
    | false =>
      simp only [hb, Bool.false_eq_true, if_false]
      simp only [List.filter_cons, hb, Bool.not_false, if_true, List.map_cons] at he
      obtain ⟨e, es, rfl, he1, hes⟩ := List.map_eq_cons_iff.1 he.symm
      rw [← he1]
      rcases hprocess : acc.process r e with ⟨acc', w⟩
      have hw : w.isOk = true := by
        simpa [Accumulator.trace, hprocess] using hok ((r, e), w)
      obtain ⟨v, rfl⟩ : ∃ v, w = .ok v := by
        cases w with
        | ok v => exact ⟨v, rfl⟩
        | error err => simp [Except.isOk, Except.toBool] at hw
      have hok' : ∀ x ∈ acc'.trace (es.map (r, ·)), x.2.isOk = true := by
        intro x hx
        exact hok x (by simp [Accumulator.trace, hprocess, hx])
      simp only [hprocess, List.map_cons, Accumulator.runAll_cons]
      exact ih hls hes.symm acc' hok'

/-- At a line that is not blank the loop reads an event and processes it, and stops at a
failure. -/
theorem processAll_cons_nonblank {n : Nat} {b : List UInt8} {s : String} (acc : Accumulator Float)
    (hs : lineText b = some s) (hb : Text.isBlankText s = false) (rest : List (Nat × List UInt8)) :
    processAll rd r acc ((n, b) :: rest) =
      match rd.event s with
      | none => .error (.parse n)
      | some e =>
        match acc.process r e with
        | (acc', .ok _) => processAll rd r acc' rest
        | (_, .error err) => .error (.event e.number err) := by
  rw [processAll, hs]
  exact if_neg (by simp [hb])

/-! ## The report -/

theorem report_of_header {rest : List (Nat × List UInt8)}
    (h : header rd (numberedLines bytes) = .ok (r, rest)) :
    report rd c bytes = (do
      let (_, r) ← r.migrate.mapError .fatx
      let acc ← (Accumulator.ofSettings r c.accumulator).mapError .fatx
      let acc ← processAll rd r acc rest
      return Report.ofAccumulator acc (c.units.map UnitSpec.unitSystem)) := by
  simp only [report, h]
  rfl

theorem report_of_settings {rest : List (Nat × List UInt8)} {b : Bool} {r' : Run}
    {acc : Accumulator Float} (hh : header rd (numberedLines bytes) = .ok (r, rest))
    (hm : r.migrate = .ok (b, r')) (hacc : Accumulator.ofSettings r' c.accumulator = .ok acc) :
    report rd c bytes =
      (processAll rd r' acc rest).map (Report.ofAccumulator · (c.units.map UnitSpec.unitSystem)) := by
  simp only [report_of_header hh, hm, hacc, Except.mapError, bind, Except.bind]
  cases processAll rd r' acc rest <;> rfl

/-- The stream is reported empty exactly when the header search finds it so. -/
theorem report_eq_emptyStream_iff :
    report rd c bytes = .error .emptyStream ↔ header rd (numberedLines bytes) = .error .emptyStream := by
  cases hh : header rd (numberedLines bytes) with
  | error f => simp [report, hh, bind, Except.bind]
  | ok p =>
    obtain ⟨r, rest⟩ := p
    rw [report_of_header hh]
    simp only [reduceCtorEq, iff_false]
    cases r.migrate with
    | error e => simp [Except.mapError, bind, Except.bind]
    | ok m =>
      cases hs : (Accumulator.ofSettings m.2 c.accumulator : Except Error (Accumulator Float)) with
      | error e => simp [Except.mapError, bind, Except.bind, hs]
      | ok acc =>
        have hne : processAll rd m.2 acc rest ≠ .error .emptyStream := processAll_ne_emptyStream acc rest
        cases hp : processAll rd m.2 acc rest <;>
          simp_all [Except.mapError, bind, Except.bind, pure, Except.pure]

/-- For any line reader, a stream is empty exactly when all its lines are blank, and otherwise its
first failing line decides the report, else the fold of all its events does. -/
theorem report_decided_by_first_failing_line (rd : LineReader) (c : Config) (bytes : ByteArray)
    (lines : List String)
    (hlines : (numberedLines bytes).map (fun p => lineText p.2) = lines.map some) :
    let blank := fun s : String => Text.trimBlank s = ""
    let out := report rd c bytes
    (out = .error .emptyStream ↔ ∀ s ∈ lines, blank s) ∧
    ∀ pre h post, lines = pre ++ h :: post → (∀ s ∈ pre, blank s) → ¬ blank h →
      (rd.run h = none → out = .error (.parse (pre.length + 1))) ∧
      ∀ r, rd.run h = some r →
        (∀ err, r.migrate = .error err → out = .error (.fatx err)) ∧
        ∀ b r', r.migrate = .ok (b, r') →
          (∀ err, (Accumulator.ofSettings r' c.accumulator : Except Error (Accumulator Float)) =
            .error err → out = .error (.fatx err)) ∧
          ∀ acc, Accumulator.ofSettings r' c.accumulator = .ok acc →
            ∀ mid (es : List Event),
              (mid.filter fun s => !decide (blank s)).map rd.event = es.map some →
              (∀ x ∈ acc.trace (es.map (r', ·)), x.2.isOk) →
              let acc' := acc.runAll (es.map (r', ·))
              (post = mid →
                out = .ok (Report.ofAccumulator acc' (c.units.map UnitSpec.unitSystem))) ∧
              ∀ l after, post = mid ++ l :: after → ¬ blank l →
                (rd.event l = none → out = .error (.parse (pre.length + mid.length + 2))) ∧
                ∀ e err, rd.event l = some e → (acc'.process r' e).2 = .error err →
                  out = .error (.event e.number err) := by
  intro blank out
  have hblank : ∀ s, blank s ↔ Text.isBlankText s = true := Text.trimBlank_eq_empty_iff
  have hfilter : ∀ l : List String,
      l.filter (fun s => !decide (blank s)) = l.filter (!Text.isBlankText ·) := by
    intro l
    congr
    funext s
    simp [hblank s]
  refine ⟨?_, ?_⟩
  · rw [report_eq_emptyStream_iff, header_eq_emptyStream_iff hlines]
    simp only [hblank]
  intro pre h post hsplit hpre hh
  subst hsplit
  obtain ⟨lpre, n, bh, lpost, hL, hlen, hlpre, hbh, hlpost⟩ := map_lineText_eq_append hlines
  have hn : n = pre.length + 1 := by simpa [hlen] using numberedLines_number hL
  have hhb : Text.isBlankText h = false := by simpa [hblank] using hh
  have hheader : header rd (numberedLines bytes) =
      match rd.run h with
      | some r => .ok (r, lpost)
      | none => .error (.parse n) := by
    rw [hL, header_append_blank hlpre (fun s hs => (hblank s).1 (hpre s hs)),
      header_cons_nonblank hbh hhb]
  refine ⟨fun hnone => ?_, fun r hr => ?_⟩
  · rw [hnone] at hheader
    simp [out, report, hheader, hn, bind, Except.bind]
  rw [hr] at hheader
  refine ⟨fun err herr => ?_, fun b r' hm => ?_⟩
  · simp [out, report_of_header hheader, herr, Except.mapError, bind, Except.bind]
  refine ⟨fun err hs => ?_, fun acc hacc mid es hes hok => ?_⟩
  · simp [out, report_of_header hheader, hm, hs, Except.mapError, bind, Except.bind]
  intro acc'
  have hrun : out = _ := report_of_settings hheader hm hacc
  rw [hfilter] at hes
  refine ⟨fun hpost => ?_, fun l after hpost hl => ?_⟩
  · subst hpost
    have hall := processAll_append hlpost hes acc hok []
    rw [List.append_nil] at hall
    rw [hrun, hall]
    rfl
  subst hpost
  obtain ⟨lmid, m, bl, lafter, hLpost, hlenm, hlmid, hbl, -⟩ := map_lineText_eq_append hlpost
  have hm : m = pre.length + mid.length + 2 := by
    simpa [hlen, hlenm] using numberedLines_number_append hL hLpost
  have hlb : Text.isBlankText l = false := by simpa [hblank] using hl
  have hloop : processAll rd r' acc lpost =
      match rd.event l with
      | none => .error (.parse m)
      | some e =>
        match acc'.process r' e with
        | (acc'', .ok _) => processAll rd r' acc'' lafter
        | (_, .error err) => .error (.event e.number err) := by
    rw [hLpost, processAll_append hlmid hes acc hok, processAll_cons_nonblank _ hbl hlb]
  refine ⟨fun hnone => ?_, fun e err he herr => ?_⟩
  · rw [hrun, hloop, hnone, hm]
    rfl
  · rcases hp : acc'.process r' e with ⟨a, w⟩
    rw [hp] at herr
    subst herr
    rw [hrun, hloop, he]
    simp only [hp]
    rfl


/-- Read as JSON under the counting strategy, an event without a target stops the stream, and
the line after it, which is not JSON, is never read. -/
theorem event_without_target_stops_the_stream :
    let c : Config := { Config.default with accumulator := ⟨some "Dummy", "CV", 1e-9⟩ }
    let bytes := "\n\x7b\x7d\n\n\x7b\x7d\noops\n".toUTF8
    (numberedLines bytes).map (fun p => lineText p.2) =
        ["", "\x7b\x7d", "", "\x7b\x7d", "oops"].map some ∧
      report LineReader.json c bytes = .error (.event 0 .missingTargetParticle) := by
  intro c bytes
  have hlines : (numberedLines bytes).map (fun p => lineText p.2) =
      ["", "\x7b\x7d", "", "\x7b\x7d", "oops"].map some := by
    decide +kernel
  refine ⟨hlines, ?_⟩
  have hstream := report_decided_by_first_failing_line LineReader.json c bytes _ hlines
  have hevents := (((hstream.2 [""] "\x7b\x7d" ["", "\x7b\x7d", "oops"] rfl (by decide)
    (by decide)).2 Run.new rfl).2 false Run.new rfl).2 (Accumulator.new .dummy none) rfl [""] []
    rfl (by simp [Accumulator.trace])
  exact (hevents.2 "\x7b\x7d" ["oops"] rfl (by decide)).2 (Event.new 0) _ rfl rfl

end Stream

end FluxAverage
