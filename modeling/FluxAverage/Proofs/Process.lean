import FluxAverage.Accumulator.Basic
import FluxAverage.Proofs.Ledger

namespace FluxAverage

namespace Error

/-- The failures of reading a call's weight or its target, before anything is counted. -/
def beforeCount : Error → Bool
  | .missingWeight .. | .missingTargetParticle => true
  | _ => false

/-- The failures of reading the run's units or a strategy's own input, once the call is
counted. -/
def afterCount : Error → Bool
  | .nonStandardUnits .. | .missingAttribute .. | .typeMismatch .. => true
  | _ => false

theorem beforeCount_eq_false {err : Error} (h : err.afterCount) : err.beforeCount = false := by
  cases err <;> simp_all [afterCount, beforeCount]

end Error

theorem Attributes.read_error {β : Type} [AttrType β] {a : Attributes} {name : String} {err : Error}
    (h : (a.read name : Except Error β) = .error err) : err.afterCount := by
  unfold read convert at h
  split at h
  · split at h
    · cases h
    · cases h; rfl
  · cases h; rfl

theorem Attributes.readOr_error {β : Type} [AttrType β] {a : Attributes} {name : String}
    {d : β} {err : Error} (h : a.readOr name d = .error err) : err.afterCount := by
  unfold readOr convert at h
  split at h
  · split at h
    · cases h
    · cases h; rfl
  · cases h

theorem Scale.ofDeclared_ne_automatic (s : String) : Scale.ofDeclared s ≠ .automatic := by
  unfold Scale.ofDeclared; split <;> simp

theorem TargetNorm.ofDeclared_ne_automatic (s : String) :
    TargetNorm.ofDeclared s ≠ .automatic := by
  unfold TargetNorm.ofDeclared; split <;> simp

theorem UnitSystem.isConcrete_ofDeclared {scale norm : String}
    (h : (UnitSystem.ofDeclared scale norm).isCustom = false) :
    (UnitSystem.ofDeclared scale norm).isConcrete := by
  unfold UnitSystem.isConcrete
  rw [h]
  simp [UnitSystem.isAutomatic, UnitSystem.ofDeclared, Scale.ofDeclared_ne_automatic,
    TargetNorm.ofDeclared_ne_automatic]

theorem Run.nativeUnits_error {r : Run} {err : Error} (h : r.nativeUnits = .error err) :
    err.afterCount := by
  unfold nativeUnits crossSectionUnits at h
  cases h1 : r.attributes.readOr RunKey.unit "pb" with
  | error e =>
    simp only [h1, bind, Except.bind] at h
    cases h; exact Attributes.readOr_error h1
  | ok scale =>
    cases h2 : r.attributes.readOr RunKey.targetScale "PerTargetAtom" with
    | error e =>
      simp only [h1, h2, bind, Except.bind] at h
      cases h; exact Attributes.readOr_error h2
    | ok norm =>
      simp only [h1, h2, bind, Except.bind, pure, Except.pure] at h
      split at h
      · cases h; rfl
      · cases h

/-- A run's units, once read, are standard on both axes. -/
theorem Run.nativeUnits_concrete {r : Run} {u : UnitSystem} (h : r.nativeUnits = .ok u) :
    u.isConcrete := by
  unfold nativeUnits crossSectionUnits at h
  cases h1 : r.attributes.readOr RunKey.unit "pb" with
  | error e => simp [h1, bind, Except.bind] at h
  | ok scale =>
    cases h2 : r.attributes.readOr RunKey.targetScale "PerTargetAtom" with
    | error e => simp [h1, h2, bind, Except.bind] at h
    | ok norm =>
      simp only [h1, h2, bind, Except.bind, pure, Except.pure] at h
      split at h
      · cases h
      · rename_i hc
        cases h
        exact UnitSystem.isConcrete_ofDeclared (by simpa using hc)

theorem UnitSystem.isAutomatic_eq_false {u : UnitSystem} (h : u.isConcrete) :
    u.isAutomatic = false := by
  simp only [UnitSystem.isConcrete, Bool.and_eq_true, Bool.not_eq_true'] at h
  exact h.2

namespace Event

theorem targetSpecies_error {e : Event} {err : Error} (h : e.targetSpecies = .error err) :
    err = .missingTargetParticle := by
  unfold targetSpecies at h
  split at h <;> cases h
  rfl

theorem bestEstimate_error {e : Event} {slot : Nat} {err : Error}
    (h : e.bestEstimate slot = .error err) : err.afterCount := by
  unfold bestEstimate at h
  split at h
  · cases h; rfl
  · split at h <;> cases h; rfl

end Event

namespace Accumulator

variable {α : Type} [Scalar α]

/-- The weight a call counts with: one for the counting strategy and without a central-value
index, else the event's weight at the index, if it has one. -/
def countedWeight (acc : Accumulator α) (e : Event) : Option α :=
  match acc.strategy, acc.cvWeightIndex with
  | .dummy, _ => some Scalar.one
  | _, none => some Scalar.one
  | _, some i => e.weights[i]?.map Scalar.ofFloat

/-- The species and the weight a call is counted with; none when the event's weight or its
target cannot be read. -/
def counted (acc : Accumulator α) (e : Event) : Option (Species × α) :=
  match e.targetSpecies, acc.countedWeight e with
  | .ok t, some w => some (t, w)
  | _, _ => none

@[simp] theorem record_estimator (acc : Accumulator α) (t : Species) (w : α) :
    (acc.record t w).estimator = acc.estimator := rfl

@[simp] theorem record_cvWeightIndex (acc : Accumulator α) (t : Species) (w : α) :
    (acc.record t w).cvWeightIndex = acc.cvWeightIndex := rfl

@[simp] theorem record_nativeUnits (acc : Accumulator α) (t : Species) (w : α) :
    (acc.record t w).nativeUnits = acc.nativeUnits := rfl

@[simp] theorem record_strategy (acc : Accumulator α) (t : Species) (w : α) :
    (acc.record t w).strategy = acc.strategy := rfl

theorem centralWeight_error {acc : Accumulator α} {e : Event} {err : Error}
    (h : acc.centralWeight e = .error err) : err.beforeCount := by
  unfold centralWeight at h
  split at h
  · cases h
  · split at h <;> cases h; rfl

omit [Scalar α] in
theorem strategy_eq_dummy {acc : Accumulator α} : acc.strategy = .dummy ↔ acc.estimator = .counting := by
  unfold strategy
  cases acc.estimator <;> simp [Estimator.strategy]

theorem countedWeight_eq_centralWeight {acc : Accumulator α} {e : Event}
    (hs : acc.strategy ≠ .dummy) : acc.countedWeight e = (acc.centralWeight e).toOption := by
  unfold centralWeight countedWeight
  cases hst : acc.strategy with
  | dummy => exact absurd hst hs
  | declared | bestEstimate | ratio =>
    cases hi : acc.cvWeightIndex with
    | none => rfl
    | some i => cases h : e.weights[i]? <;> simp [h, Except.toOption]

theorem counted_eq_some {acc : Accumulator α} {e : Event} {t : Species} {w : α}
    (h : acc.counted e = some (t, w)) : e.targetSpecies = .ok t ∧ acc.countedWeight e = some w := by
  unfold counted at h
  split at h
  · cases h; exact ⟨‹_›, ‹_›⟩
  · cases h

/-! ## One call -/

/-- A call whose weight or target cannot be read fails on that, and changes nothing. -/
theorem process_uncounted {acc : Accumulator α} {r : Run} {e : Event}
    (h : acc.counted e = none) :
    ∃ err, acc.process r e = (acc, .error err) ∧ err.beforeCount := by
  unfold process
  split
  · rename_i hest
    cases ht : e.targetSpecies with
    | ok t => simp [counted, countedWeight, strategy, hest, Estimator.strategy, ht] at h
    | error err => exact ⟨err, rfl, by rw [Event.targetSpecies_error ht]; rfl⟩
  · rename_i hest
    cases hw : acc.centralWeight e with
    | error err => exact ⟨err, rfl, centralWeight_error hw⟩
    | ok w =>
      cases ht : e.targetSpecies with
      | error err => exact ⟨err, rfl, by rw [Event.targetSpecies_error ht]; rfl⟩
      | ok t =>
        have hs : acc.strategy ≠ .dummy := fun hd => hest (strategy_eq_dummy.1 hd)
        simp [counted, ht, countedWeight_eq_centralWeight hs, hw, Except.toOption] at h

/-- The counting strategy counts every call with a target, with weight one. -/
theorem process_counting {acc : Accumulator α} {r : Run} {e : Event} {t : Species} {w : α}
    (hs : acc.strategy = .dummy) (h : acc.counted e = some (t, w)) :
    acc.process r e = (acc.record t w, .ok w) := by
  obtain ⟨ht, hw⟩ := counted_eq_some h
  have hest := strategy_eq_dummy.1 hs
  simp only [countedWeight, hs, Option.some.injEq] at hw
  subst hw
  simp [process, hest, ht]

/-- A counted call of the other strategies records its weight, then settles the units and does
the strategy's own bookkeeping; the first of these two that fails ends the call. -/
theorem process_counted {acc : Accumulator α} (r : Run) {e : Event} {t : Species} {w : α}
    (hs : acc.strategy ≠ .dummy) (h : acc.counted e = some (t, w)) :
    (∃ err, (acc.record t w).resolveUnits r = .error err ∧
        acc.process r e = (acc.record t w, .error err)) ∨
      ∃ a, (acc.record t w).resolveUnits r = .ok a ∧
        ((∃ err, a.bookkeep r e t w = .error err ∧ acc.process r e = (a, .error err)) ∨
          ∃ a', a.bookkeep r e t w = .ok a' ∧ acc.process r e = (a', .ok w)) := by
  obtain ⟨ht, hw⟩ := counted_eq_some h
  rw [countedWeight_eq_centralWeight hs] at hw
  have hcw : acc.centralWeight e = .ok w := by
    cases hc : acc.centralWeight e <;> simp_all [Except.toOption]
  unfold process
  split
  · exact absurd (strategy_eq_dummy.2 ‹_›) hs
  rw [hcw, ht]
  dsimp only
  cases hu : (acc.record t w).resolveUnits r with
  | error err => exact .inl ⟨err, rfl, rfl⟩
  | ok a =>
    refine .inr ⟨a, rfl, ?_⟩
    dsimp only
    cases hb : a.bookkeep r e t w with
    | error err => exact .inl ⟨err, rfl, rfl⟩
    | ok a' => exact .inr ⟨a', rfl, rfl⟩

/-! ## Settling the units and the strategy's bookkeeping -/

omit [Scalar α] in
/-- Settling the units changes nothing else, and changes them only while they are automatic, to
the run's units. -/
theorem resolveUnits_ok {acc a : Accumulator α} {r : Run} (h : acc.resolveUnits r = .ok a) :
    a = { acc with nativeUnits := a.nativeUnits } ∧
      (acc.nativeUnits.isAutomatic = false ∧ a.nativeUnits = acc.nativeUnits ∨
        acc.nativeUnits.isAutomatic = true ∧ r.nativeUnits = .ok a.nativeUnits) := by
  unfold resolveUnits at h
  split at h
  · rename_i hauto
    cases hu : r.nativeUnits with
    | error err => simp [hu, Functor.map, Except.map] at h
    | ok u =>
      simp only [hu, Functor.map, Except.map, Except.ok.injEq] at h
      subst h
      exact ⟨rfl, .inr ⟨hauto, rfl⟩⟩
  · rename_i hauto
    cases h
    exact ⟨rfl, .inl ⟨by simpa using hauto, rfl⟩⟩

omit [Scalar α] in
theorem resolveUnits_error {acc : Accumulator α} {r : Run} {err : Error}
    (h : acc.resolveUnits r = .error err) :
    acc.nativeUnits.isAutomatic = true ∧ r.nativeUnits = .error err := by
  unfold resolveUnits at h
  split at h
  · cases hu : r.nativeUnits <;> simp_all [Functor.map, Except.map]
  · cases h

/-- The bookkeeping changes the strategy's own state only, and keeps its strategy. -/
theorem bookkeep_ok {acc a : Accumulator α} {r : Run} {e : Event} {t : Species} {w : α}
    (h : acc.bookkeep r e t w = .ok a) :
    a = { acc with estimator := a.estimator } ∧ a.estimator.strategy = acc.estimator.strategy := by
  unfold bookkeep at h
  split at h
  · rename_i he
    cases hx : r.declaredFatx with
    | error err => simp [hx, Functor.map, Except.map] at h
    | ok x =>
      simp only [hx, Functor.map, Except.map, Except.ok.injEq] at h
      subst h; exact ⟨rfl, by simp [he, Estimator.strategy]⟩
  · cases h; exact ⟨rfl, rfl⟩
  · rename_i he
    cases hx : e.bestEstimate (acc.cvWeightIndex.getD 0) with
    | error err => simp [hx, Functor.map, Except.map] at h
    | ok x =>
      simp only [hx, Functor.map, Except.map, Except.ok.injEq] at h
      subst h; exact ⟨rfl, by simp [he, Estimator.strategy]⟩
  · cases hx : e.totalCrossSection with
    | error err => simp [hx, Functor.map, Except.map] at h
    | ok xs =>
      rename_i he
      simp only [hx, Functor.map, Except.map, Except.ok.injEq] at h
      subst h
      split
      · exact ⟨rfl, rfl⟩
      · exact ⟨rfl, by simp [he, Estimator.strategy]⟩
  · cases h; exact ⟨rfl, rfl⟩

theorem bookkeep_error {acc : Accumulator α} {r : Run} {e : Event} {t : Species} {w : α}
    {err : Error} (h : acc.bookkeep r e t w = .error err) : err.afterCount := by
  unfold bookkeep at h
  split at h
  · cases hx : r.declaredFatx with
    | error err' =>
      simp only [hx, Functor.map, Except.map, Except.error.injEq] at h
      subst h; exact Attributes.read_error hx
    | ok x => simp [hx, Functor.map, Except.map] at h
  · cases h
  · cases hx : e.bestEstimate (acc.cvWeightIndex.getD 0) with
    | error err' =>
      simp only [hx, Functor.map, Except.map, Except.error.injEq] at h
      subst h; exact Event.bestEstimate_error hx
    | ok x => simp [hx, Functor.map, Except.map] at h
  · cases hx : e.totalCrossSection with
    | error err' =>
      simp only [hx, Functor.map, Except.map, Except.error.injEq] at h
      subst h; exact Attributes.read_error hx
    | ok x => simp [hx, Functor.map, Except.map] at h
  · cases h

theorem map_eq_ok {β γ : Type} {f : β → γ} {x : Except Error β} {y : γ} (h : f <$> x = .ok y) :
    ∃ b, x = .ok b ∧ f b = y := by
  cases x with
  | error err => cases h
  | ok b => exact ⟨b, rfl, by simpa [Functor.map, Except.map] using h⟩

theorem bookkeep_declared_none {acc a : Accumulator α} {r : Run} {e : Event} {t : Species} {w : α}
    (he : acc.estimator = .declared none) (h : acc.bookkeep r e t w = .ok a) :
    ∃ y, r.declaredFatx = .ok y ∧ a.estimator = .declared (some (Scalar.ofFloat y)) := by
  simp only [bookkeep, he] at h
  obtain ⟨y, hy, rfl⟩ := map_eq_ok h
  exact ⟨y, hy, rfl⟩

theorem bookkeep_declared_some {acc : Accumulator α} {r : Run} {e : Event} {t : Species} {w x : α}
    (he : acc.estimator = .declared (some x)) : acc.bookkeep r e t w = .ok acc := by
  simp only [bookkeep, he]

theorem bookkeep_bestEstimate {acc a : Accumulator α} {r : Run} {e : Event} {t : Species} {w : α}
    {b : Option α} (he : acc.estimator = .bestEstimate b) (h : acc.bookkeep r e t w = .ok a) :
    ∃ y, e.bestEstimate (acc.cvWeightIndex.getD 0) = .ok y ∧
      a.estimator = .bestEstimate (some (Scalar.ofFloat y)) := by
  simp only [bookkeep, he] at h
  obtain ⟨y, hy, rfl⟩ := map_eq_ok h
  exact ⟨y, hy, rfl⟩

/-- The ratio strategy records the call unless its cross section is zero. -/
theorem bookkeep_ratio {acc a : Accumulator α} {r : Run} {e : Event} {t : Species} {w : α}
    {b : RatioBooks α} (he : acc.estimator = .ratio b) (h : acc.bookkeep r e t w = .ok a) :
    ∃ xs, e.totalCrossSection = .ok xs ∧
      a.estimator = .ratio (if Scalar.eq (Scalar.ofFloat xs : α) Scalar.zero then b
        else b.record t w (Scalar.ofFloat xs)) := by
  simp only [bookkeep, he] at h
  obtain ⟨xs, hxs, rfl⟩ := map_eq_ok h
  refine ⟨xs, hxs, ?_⟩
  split
  · exact he
  · rfl

/-! ## What one call does -/

/-- One call from any state: an uncounted call fails and changes nothing; a counted call records
its weight and changes at most the units and the strategy state, and not the latter when it fails. -/
theorem process_step (acc : Accumulator α) (r : Run) (e : Event) :
    match acc.counted e with
    | none => ∃ err, acc.process r e = (acc, .error err) ∧ err.beforeCount
    | some (t, w) =>
      ∃ u est, (acc.process r e).1 = { acc.record t w with nativeUnits := u, estimator := est } ∧
        est.strategy = acc.strategy ∧
        ∀ err, (acc.process r e).2 = .error err → est = acc.estimator ∧ err.afterCount := by
  cases hc : acc.counted e with
  | none => exact process_uncounted hc
  | some p =>
    obtain ⟨t, w⟩ := p
    by_cases hs : acc.strategy = .dummy
    · rw [process_counting hs hc]
      exact ⟨acc.nativeUnits, acc.estimator, rfl, rfl, fun err h => by cases h⟩
    rcases process_counted r hs hc with ⟨err, hu, he⟩ | ⟨a, hu, ⟨err, hb, he⟩ | ⟨a', hb, he⟩⟩
    · refine ⟨acc.nativeUnits, acc.estimator, by rw [he]; rfl, rfl, fun err' h => ⟨rfl, ?_⟩⟩
      rw [he] at h
      cases h
      exact Run.nativeUnits_error (resolveUnits_error hu).2
    · obtain ⟨ha, -⟩ := resolveUnits_ok hu
      refine ⟨a.nativeUnits, acc.estimator, by rw [he]; exact ha, rfl, fun err' h => ⟨rfl, ?_⟩⟩
      rw [he] at h
      cases h
      exact bookkeep_error hb
    · obtain ⟨ha, -⟩ := resolveUnits_ok hu
      obtain ⟨ha', hst⟩ := bookkeep_ok hb
      refine ⟨a.nativeUnits, a'.estimator, ?_, ?_, fun err' h => by rw [he] at h; cases h⟩
      · rw [he, ha', ha]
      · rw [hst, ha]; rfl

theorem process_keeps (acc : Accumulator α) (r : Run) (e : Event) :
    (acc.process r e).1.strategy = acc.strategy ∧
      (acc.process r e).1.cvWeightIndex = acc.cvWeightIndex := by
  have h := process_step acc r e
  cases hc : acc.counted e with
  | none =>
    simp only [hc] at h
    obtain ⟨err, he, -⟩ := h
    rw [he]; exact ⟨rfl, rfl⟩
  | some p =>
    obtain ⟨t, w⟩ := p
    simp only [hc] at h
    obtain ⟨u, est, he, hst, -⟩ := h
    rw [he]; exact ⟨hst, rfl⟩

theorem counted_process (acc : Accumulator α) (r : Run) (e : Event) :
    (acc.process r e).1.counted = acc.counted := by
  obtain ⟨hs, hi⟩ := process_keeps acc r e
  funext e'
  simp only [counted, countedWeight, hs, hi]

/-- The common books after a call are those of recording its weight, if it is counted. -/
theorem process_books (acc : Accumulator α) (r : Run) (e : Event) :
    let b := match acc.counted e with
      | none => acc
      | some (t, w) => acc.record t w
    (acc.process r e).1.events = b.events ∧ (acc.process r e).1.sumWeights = b.sumWeights ∧
      (acc.process r e).1.weights = b.weights := by
  have h := process_step acc r e
  cases hc : acc.counted e with
  | none =>
    simp only [hc] at h ⊢
    obtain ⟨err, he, -⟩ := h
    rw [he]; exact ⟨rfl, rfl, rfl⟩
  | some p =>
    obtain ⟨t, w⟩ := p
    simp only [hc] at h ⊢
    obtain ⟨u, est, he, -, -⟩ := h
    rw [he]; exact ⟨rfl, rfl, rfl⟩

theorem process_error {acc : Accumulator α} {r : Run} {e : Event} {err : Error}
    (h : (acc.process r e).2 = .error err) : (acc.process r e).1.estimator = acc.estimator := by
  have hstep := process_step acc r e
  cases hc : acc.counted e with
  | none =>
    simp only [hc] at hstep
    obtain ⟨err', he, -⟩ := hstep
    rw [he]
  | some p =>
    obtain ⟨t, w⟩ := p
    simp only [hc] at hstep
    obtain ⟨u, est, he, -, hfail⟩ := hstep
    rw [he]
    exact (hfail err h).1

/-- A call of the other strategies that returns a value was counted with that weight, and did
its bookkeeping from a state with the same strategy state, central-value index and settled units. -/
theorem process_ok {acc : Accumulator α} {r : Run} {e : Event} {v : α}
    (hs : acc.strategy ≠ .dummy) (h : (acc.process r e).2 = .ok v) :
    ∃ t, ∃ a : Accumulator α, acc.counted e = some (t, v) ∧ a.estimator = acc.estimator ∧
      a.cvWeightIndex = acc.cvWeightIndex ∧ a.nativeUnits.isAutomatic = false ∧
      a.bookkeep r e t v = .ok (acc.process r e).1 := by
  cases hc : acc.counted e with
  | none =>
    obtain ⟨err, he, -⟩ := process_uncounted hc
    rw [he] at h; cases h
  | some p =>
    obtain ⟨t, w⟩ := p
    rcases process_counted r hs hc with ⟨err, -, he⟩ | ⟨a, hu, ⟨err, -, he⟩ | ⟨a', hb, he⟩⟩ <;>
      rw [he] at h <;> cases h
    obtain ⟨ha, hunits⟩ := resolveUnits_ok hu
    refine ⟨t, a, rfl, by rw [ha]; rfl, by rw [ha]; rfl, ?_, by rw [he]; exact hb⟩
    rcases hunits with ⟨hauto, hsame⟩ | ⟨-, hrun⟩
    · rw [hsame]; exact hauto
    · exact UnitSystem.isAutomatic_eq_false (Run.nativeUnits_concrete hrun)

/-- The units after a call of the other strategies: the run's units when the call is counted,
the units were automatic and the run's units can be read; else the units as they were. -/
theorem process_nativeUnits {acc : Accumulator α} (r : Run) (e : Event)
    (hs : acc.strategy ≠ .dummy) :
    (acc.process r e).1.nativeUnits =
      match acc.counted e, acc.nativeUnits.isAutomatic, r.nativeUnits with
      | some _, true, .ok u => u
      | _, _, _ => acc.nativeUnits := by
  cases hc : acc.counted e with
  | none =>
    obtain ⟨err, he, -⟩ := process_uncounted hc
    rw [he]
  | some p =>
    obtain ⟨t, w⟩ := p
    have settled : ∀ a, (acc.record t w).resolveUnits r = .ok a →
        a.nativeUnits = match some (t, w), acc.nativeUnits.isAutomatic, r.nativeUnits with
          | some _, true, .ok u => u
          | _, _, _ => acc.nativeUnits := by
      intro a hu
      rcases (resolveUnits_ok hu).2 with ⟨hauto, hsame⟩ | ⟨hauto, hrun⟩
      · simp only [record_nativeUnits] at hauto hsame
        simp [hauto, hsame]
      · simp only [record_nativeUnits] at hauto
        simp [hauto, hrun]
    rcases process_counted r hs hc with ⟨err, hu, he⟩ | ⟨a, hu, ⟨err, -, he⟩ | ⟨a', hb, he⟩⟩
    · obtain ⟨hauto, hrun⟩ := resolveUnits_error hu
      simp only [record_nativeUnits] at hauto
      simp [he, hauto, hrun]
    · rw [he]; exact settled a hu
    · rw [he, (bookkeep_ok hb).1]; exact settled a hu

/-! ## Sequences of calls -/

/-- The accumulator after a sequence of calls, each with its run and its event. -/
def runAll (acc : Accumulator α) : List (Run × Event) → Accumulator α
  | [] => acc
  | (r, e) :: calls => (acc.process r e).1.runAll calls

/-- The calls of a sequence, each with its outcome. -/
def trace (acc : Accumulator α) : List (Run × Event) → List ((Run × Event) × Except Error α)
  | [] => []
  | (r, e) :: calls => ((r, e), (acc.process r e).2) :: (acc.process r e).1.trace calls

/-- The species and the weights of the counted calls of a sequence, in order. -/
def recorded (acc : Accumulator α) (calls : List (Run × Event)) : List (Species × α) :=
  calls.filterMap fun c => acc.counted c.2

@[simp] theorem runAll_nil (acc : Accumulator α) : acc.runAll [] = acc := rfl

@[simp] theorem runAll_cons (acc : Accumulator α) (r : Run) (e : Event)
    (calls : List (Run × Event)) : acc.runAll ((r, e) :: calls) = (acc.process r e).1.runAll calls :=
  rfl

theorem runAll_keeps (acc : Accumulator α) (calls : List (Run × Event)) :
    (acc.runAll calls).strategy = acc.strategy ∧
      (acc.runAll calls).cvWeightIndex = acc.cvWeightIndex := by
  induction calls generalizing acc with
  | nil => exact ⟨rfl, rfl⟩
  | cons c calls ih =>
    obtain ⟨r, e⟩ := c
    obtain ⟨hs, hi⟩ := ih (acc.process r e).1
    obtain ⟨hs', hi'⟩ := process_keeps acc r e
    exact ⟨hs.trans hs', hi.trans hi'⟩

theorem recorded_cons_none {acc : Accumulator α} {e : Event} (h : acc.counted e = none) (r : Run)
    (calls : List (Run × Event)) : acc.recorded ((r, e) :: calls) = acc.recorded calls := by
  simp [recorded, h]

theorem recorded_cons_some {acc : Accumulator α} {e : Event} {p : Species × α}
    (h : acc.counted e = some p) (r : Run) (calls : List (Run × Event)) :
    acc.recorded ((r, e) :: calls) = p :: acc.recorded calls := by
  simp [recorded, h]

theorem recorded_process (acc : Accumulator α) (r : Run) (e : Event) :
    (acc.process r e).1.recorded = acc.recorded := by
  funext calls
  simp only [recorded, counted_process]

/-- The summed weight and the ledger of a run go on with the counted calls' weights, in order. -/
theorem runAll_books (acc : Accumulator α) (calls : List (Run × Event)) :
    (acc.runAll calls).sumWeights = acc.sumWeights.addAll ((acc.recorded calls).map (·.2)) ∧
      (acc.runAll calls).weights = acc.weights.recordAll (acc.recorded calls) ∧
      (acc.events ≤ eventLimit →
        (acc.runAll calls).events = min (acc.events + (acc.recorded calls).length) eventLimit) := by
  induction calls generalizing acc with
  | nil => exact ⟨rfl, rfl, fun h => (Nat.min_eq_left h).symm⟩
  | cons c calls ih =>
    obtain ⟨r, e⟩ := c
    obtain ⟨hn, hs, hw⟩ := process_books acc r e
    obtain ⟨ih1, ih2, ih3⟩ := ih (acc.process r e).1
    rw [recorded_process] at ih1 ih2 ih3
    rw [runAll_cons]
    cases hc : acc.counted e with
    | none =>
      rw [recorded_cons_none hc]
      simp only [hc] at hn hs hw
      refine ⟨by rw [ih1, hs], by rw [ih2, hw], fun hle => ?_⟩
      rw [ih3 (hn ▸ hle), hn]
    | some p =>
      obtain ⟨t, w⟩ := p
      rw [recorded_cons_some hc]
      simp only [hc] at hn hs hw
      refine ⟨by rw [ih1, hs]; rfl, by rw [ih2, hw]; rfl, fun hle => ?_⟩
      have hle' : (acc.process r e).1.events ≤ eventLimit := by
        rw [hn]; exact Nat.min_le_right _ _
      rw [ih3 hle', hn]
      simp only [record, List.length_cons]
      omega

@[simp] theorem new_strategy (s : Strategy) (i : Option Nat) :
    (new s i : Accumulator α).strategy = s := by
  cases s <;> rfl

/-- A call fails before counting exactly when it is not counted, and then changes nothing; from a
fresh accumulator the count, the summed weight and the ledger hold exactly the counted calls. -/
theorem books_hold_the_counted_calls (s : Strategy) (i : Option Nat) (calls : List (Run × Event)) :
    (∀ (acc : Accumulator α) (r : Run) (e : Event),
      ((∃ err, (acc.process r e).2 = .error err ∧ err.beforeCount) ↔ acc.counted e = none) ∧
      (∀ err, (acc.process r e).2 = .error err → err.beforeCount → (acc.process r e).1 = acc) ∧
      ∀ t w err, acc.counted e = some (t, w) → (acc.process r e).2 = .error err →
        err.afterCount ∧ ∃ u, (acc.process r e).1 = { acc.record t w with nativeUnits := u }) ∧
    let acc : Accumulator α := (new s i).runAll calls
    let ps := (new s i : Accumulator α).recorded calls
    acc.events = min ps.length eventLimit ∧
      acc.sumWeights = KahanSum.ofList (ps.map (·.2)) ∧
      ∀ t, acc.weights.get? t = Ledger.tally ps t := by
  refine ⟨fun acc r e => ?_, ?_⟩
  · have h := process_step acc r e
    cases hc : acc.counted e with
    | none =>
      simp only [hc] at h
      obtain ⟨err, he, hb⟩ := h
      refine ⟨⟨fun _ => rfl, fun _ => ⟨err, by rw [he], hb⟩⟩, fun _ _ _ => by rw [he], ?_⟩
      intro t w err' hs
      cases hs
    | some p =>
      obtain ⟨t, w⟩ := p
      simp only [hc] at h
      obtain ⟨u, est, he, -, hfail⟩ := h
      refine ⟨⟨fun ⟨err, herr, hb⟩ => ?_, fun h => by cases h⟩, fun err herr hb => ?_, ?_⟩
      · rw [Error.beforeCount_eq_false (hfail err herr).2] at hb; cases hb
      · rw [Error.beforeCount_eq_false (hfail err herr).2] at hb; cases hb
      · intro t' w' err hp herr
        cases hp
        obtain ⟨hest, hafter⟩ := hfail err herr
        exact ⟨hafter, u, by rw [he, hest]; rfl⟩
  · obtain ⟨hs, hw, hn⟩ := runAll_books (new s i : Accumulator α) calls
    refine ⟨by rw [hn (Nat.zero_le _)]; simp [new], by rw [hs]; rfl, fun t => ?_⟩
    rw [hw]
    exact Ledger.get?_recordAll_empty _ t

end Accumulator

end FluxAverage
