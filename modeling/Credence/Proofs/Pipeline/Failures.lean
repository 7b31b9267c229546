/-
When the operations on a pipeline fail, and with which error.  The conditions only
speak of the records, the milestone and the sizes of the parts, since nothing that
comes after them can go wrong.
-/
import Credence.Proofs.Pipeline.History
import Credence.Proofs.Training

namespace Credence

/-- What later steps rely on: each text has a binary code, there is a model from
training on, and its parts agree. -/
structure Stage.Ready (s : Stage) : Prop where
  length_eq : s.texts.length = s.codes.length
  binary : ∀ code ∈ s.codes, code = 0 ∨ code = 1
  isSome_trained_iff : s.trained?.isSome ↔
    s.milestone = .fitted ∨ s.milestone = .evaluated
  sound : ∀ t, s.trained? = some t → t.Sound

namespace Pipeline

theorem Lifecycle.sound {kind : ModelKind} {settings : Settings}
    {w : Random.Words} {taken : Option (List Record)} {s : Stage}
    (hlife : Lifecycle kind settings w taken s)
    (hvalid : settings.problem? = none) {t : Trained}
    (htrained : s.trained? = some t) : t.Sound := by
  have hlength := hlife.length_eq
  have hbinary := hlife.codes_binary
  have hsound {texts : List String} {codes : List Nat} {t : Trained}
      (hlength : texts.length = codes.length)
      (hbinary : ∀ code ∈ codes, code = 0 ∨ code = 1)
      (hlearn : Trained.learn kind settings w texts codes = .ok t) :
      t.Sound :=
    Trained.sound_of_learn_eq_ok hvalid hlength kind w hbinary hlearn
  cases hlife with
  | idle => cases htrained
  | loaded hsome => cases htrained
  | fitted hsome hlearn =>
      cases htrained
      exact hsound hlength hbinary hlearn
  | evaluated hsome hlearn hreport =>
      cases htrained
      exact hsound hlength hbinary hlearn

theorem Lifecycle.ready {kind : ModelKind} {settings : Settings}
    {w : Random.Words} {taken : Option (List Record)} {s : Stage}
    (hlife : Lifecycle kind settings w taken s)
    (hvalid : settings.problem? = none) : s.Ready where
  length_eq := hlife.length_eq
  binary := hlife.codes_binary
  isSome_trained_iff := hlife.isSome_trained_iff
  sound := fun _ htrained => hlife.sound hvalid htrained

theorem load_error_iff (p : Pipeline) (records : List Record) (e : Error) :
    (p.act (load records)).1 = .error e ↔
      (∀ r ∈ records, ¬ r.Usable p.settings.labels) ∧
        e = .allDropped records.length := by
  rw [act_load, ← usable_eq_nil_iff]
  by_cases hnone : usable p.settings.labels records = []
  · rw [if_pos hnone]
    simp [hnone, eq_comm]
  · rw [if_neg hnone]
    simp [hnone]

section ready

variable {p : Pipeline} (hready : p.stage.Ready) (fallback : UInt64)
  {e : Error}

include hready

theorem learn_error_iff :
    p.learn fallback = .error e ↔
      p.settings.trainSize p.recordCount = 0 ∧ e = .emptyTrainingSet := by
  have hlearn := Trained.learn_eq_error_iff p.valid hready.length_eq p.kind
    (p.settings.words fallback) hready.binary (e := e)
  rwa [hready.length_eq] at hlearn

theorem fit_error_iff :
    (p.act (fit fallback)).1 = .error e ↔
      p.stage.milestone = .idle ∧ e = .noRecords ∨
        p.stage.milestone ≠ .idle ∧
          p.settings.trainSize p.recordCount = 0 ∧ e = .emptyTrainingSet := by
  rw [act_fit]
  by_cases hidle : p.stage.milestone = .idle
  · rw [if_pos hidle]
    simp [hidle, eq_comm]
  · rw [if_neg hidle, ← learn_error_iff hready fallback]
    cases p.learn fallback with
    | ok t => simp [hidle]
    | error e' => simp [hidle]

/-- A model is there to be scored as soon as it may be scored. -/
theorem exists_score_eq_ok
    (hlate : ¬ (p.stage.milestone = .idle ∨ p.stage.milestone = .loaded)) :
    ∃ r, p.score = .ok r := by
  have hfitted :
      p.stage.milestone = .fitted ∨ p.stage.milestone = .evaluated := by
    cases hmilestone : p.stage.milestone with
    | idle => exact absurd (Or.inl hmilestone) hlate
    | loaded => exact absurd (Or.inr hmilestone) hlate
    | fitted => exact Or.inl rfl
    | evaluated => exact Or.inr rfl
  obtain ⟨t, ht⟩ :=
    Option.isSome_iff_exists.mp (hready.isSome_trained_iff.mpr hfitted)
  obtain ⟨r, hr⟩ := (hready.sound t ht).exists_report_eq_ok
  refine ⟨r, ?_⟩
  rw [score, ht]
  exact hr

theorem evaluate_error_iff :
    (p.act evaluate).1 = .error e ↔
      (p.stage.milestone = .idle ∨ p.stage.milestone = .loaded) ∧
        e = .notFitted p.stage.name := by
  rw [act_evaluate]
  by_cases hearly : p.stage.milestone = .idle ∨ p.stage.milestone = .loaded
  · rw [if_pos hearly, Except.error.injEq]
    exact ⟨fun he => ⟨hearly, he.symm⟩, fun h => h.2.symm⟩
  · obtain ⟨r, hr⟩ := exists_score_eq_ok hready hearly
    rw [if_neg hearly, hr]
    simp [hearly]

theorem predict_error_iff {text : String} :
    p.predict text = .error e ↔
      p.stage.trained? = none ∧ e = .untrained p.kind.name ∨
        p.stage.trained?.isSome ∧ Text.trim text = "" ∧ e = .blankQuery := by
  rw [predict, ← Text.isBlankText_iff_trim]
  cases htrained : p.stage.trained? with
  | none =>
      rw [Except.error.injEq, eq_comm]
      simp
  | some t =>
      by_cases hblank : Text.isBlankText text = true
      · simp [hblank, eq_comm]
      · obtain ⟨v, hv⟩ := (hready.sound t htrained).exists_classify_eq_ok text
        simp [hblank, hv]

/-- With one model, all texts that are refused are refused with one error. -/
theorem predict_error_unique (text other : String) (e e' : Error)
    (h : p.predict text = .error e) (h' : p.predict other = .error e') :
    e = e' := by
  rw [predict_error_iff hready] at h h'
  rcases h with ⟨hnone, rfl⟩ | ⟨hsome, -, rfl⟩
  · rcases h' with ⟨-, rfl⟩ | ⟨hsome, -⟩
    · rfl
    · rw [hnone] at hsome
      cases hsome
  · rcases h' with ⟨hnone, -⟩ | ⟨-, -, rfl⟩
    · rw [hnone] at hsome
      cases hsome
    · rfl

theorem predictAll_error_iff {texts : List String} :
    p.predictAll texts = .error e ↔
      ∃ text ∈ texts, p.predict text = .error e :=
  mapM_eq_error_iff (predict_error_unique hready)

end ready

/-- A label is one of the two names in the settings, letter by letter. -/
theorem predict_eq_ok {p : Pipeline} {text label : String}
    (h : p.predict text = .ok label) :
    label = p.settings.labels.positive ∨
      label = p.settings.labels.negative := by
  rw [predict] at h
  split at h
  · cases h
  · split at h
    · cases h
    · next t _ _ =>
        cases hclass : t.classify text with
        | error e => rw [hclass] at h; cases h
        | ok v =>
            rw [hclass] at h
            cases h
            cases v with
            | positive => exact Or.inl rfl
            | negative => exact Or.inr rfl

section train

variable {p : Pipeline} (fallback : UInt64) {e : Error}

theorem ready_fit (hready : p.stage.Ready) {t : Trained}
    (hlearn : p.learn fallback = .ok t) : (p.stage.fit t).Ready where
  length_eq := hready.length_eq
  binary := hready.binary
  isSome_trained_iff := by simp [Stage.fit]
  sound := by
    intro t' ht'
    cases ht'
    exact Trained.sound_of_learn_eq_ok p.valid hready.length_eq p.kind _
      hready.binary hlearn

/-- Once records are loaded, only training can fail. -/
theorem fit_evaluate_error_iff (hready : p.stage.Ready)
    (hloaded : p.stage.milestone = .loaded) :
    (p.act (do let _ ← fit fallback; evaluate)).1 = .error e ↔
      p.settings.trainSize p.recordCount = 0 ∧ e = .emptyTrainingSet := by
  have hidle : p.stage.milestone ≠ .idle := by
    rw [hloaded]
    exact nofun
  rw [← learn_error_iff hready fallback, act_bind, act_fit, if_neg hidle]
  cases hlearn : p.learn fallback with
  | error e' => simp
  | ok t =>
      have hfitted : (p.withStage (p.stage.fit t)).stage.Ready :=
        ready_fit fallback hready hlearn
      change ((p.withStage (p.stage.fit t)).act evaluate).1 = .error e ↔ _
      rw [evaluate_error_iff hfitted]
      simp [Stage.fit]

variable (p) (records : List Record)

theorem cycle_error_iff :
    (p.act (cycle fallback records)).1 = .error e ↔
      (∀ r ∈ records, ¬ r.Usable p.settings.labels) ∧
          e = .allDropped records.length ∨
        (∃ r ∈ records, r.Usable p.settings.labels) ∧
          p.settings.trainSize (usable p.settings.labels records).length = 0 ∧
          e = .emptyTrainingSet := by
  rw [← usable_ne_nil_iff, ← usable_eq_nil_iff, cycle, act_bind, act_load]
  by_cases hnone : usable p.settings.labels records = []
  · rw [if_pos hnone]
    simp [hnone, eq_comm]
  · have hloaded : Lifecycle p.kind p.settings (p.settings.words fallback)
        (some records) (.ofRecords p.settings.labels records) := .loaded hnone
    have htrain := fit_evaluate_error_iff
      (p := p.withStage (.ofRecords p.settings.labels records))
      fallback (e := e) (hloaded.ready p.valid) rfl
    rw [if_neg hnone]
    simpa [hnone, recordCount, Stage.ofRecords] using htrain

theorem train_error_iff :
    (p.act (train fallback records)).1 = .error e ↔
      (∀ r ∈ records, ¬ r.Usable p.settings.labels) ∧
          e = .allDropped records.length ∨
        (∃ r ∈ records, r.Usable p.settings.labels) ∧
          p.settings.trainSize (usable p.settings.labels records).length = 0 ∧
          e = .emptyTrainingSet := by
  have hcycle := cycle_error_iff (p.withStage .start) fallback records (e := e)
  rw [act_train]
  rcases h : (p.withStage .start).act (cycle fallback records) with
    ⟨e' | r, next⟩
  · rw [h] at hcycle
    exact hcycle
  · rw [h] at hcycle
    exact hcycle

end train

/-- The kinds of failure that an operation knows. -/
def Operation.errorKinds : Operation → List ErrorKind
  | .load _ => [.noValidData]
  | .fit => [.invalidState, .insufficientData]
  | .evaluate => [.invalidState]
  | .train _ => [.noValidData, .insufficientData]
  | .predict _ | .predictAll _ => [.uninitialized, .parseFailure]

theorem Operation.errorKinds_regular (op : Operation) :
    ∀ kind ∈ op.errorKinds, kind ∉ [ErrorKind.shapeMismatch, .typeMismatch,
      .invalidConfig, .analysis] := by
  cases op <;> simp [errorKinds]

theorem predict_error_kind {p : Pipeline} (hready : p.stage.Ready)
    {text : String} {e : Error} (h : p.predict text = .error e) :
    e.kind ∈ [ErrorKind.uninitialized, .parseFailure] := by
  rcases (predict_error_iff hready).mp h with ⟨-, rfl⟩ | ⟨-, -, rfl⟩
  · exact List.mem_cons_self
  · exact List.mem_cons_of_mem _ List.mem_cons_self

/-- Each failure is of a kind that the operation knows. -/
theorem perform_error_kind {p : Pipeline} (hready : p.stage.Ready)
    {fallback : UInt64} {op : Operation} {e : Error}
    (h : (p.perform fallback op).1 = .error e) :
    e.kind ∈ op.errorKinds := by
  cases op with
  | load records =>
      have hload := (load_error_iff p records e).mp (act_map_eq_error h)
      rw [hload.2]
      exact List.mem_cons_self
  | fit =>
      have hfit := (fit_error_iff hready fallback).mp (act_map_eq_error h)
      rcases hfit with ⟨-, rfl⟩ | ⟨-, -, rfl⟩
      · exact List.mem_cons_self
      · exact List.mem_cons_of_mem _ List.mem_cons_self
  | evaluate =>
      have hevaluate := (evaluate_error_iff hready).mp (act_map_eq_error h)
      rw [hevaluate.2]
      exact List.mem_cons_self
  | train records =>
      have htrain :=
        (train_error_iff p fallback records).mp (act_map_eq_error h)
      rcases htrain with ⟨-, rfl⟩ | ⟨-, -, rfl⟩
      · exact List.mem_cons_self
      · exact List.mem_cons_of_mem _ List.mem_cons_self
  | predict text =>
      apply predict_error_kind hready
      exact eq_error_of_map_eq_error h
  | predictAll texts =>
      have hall := eq_error_of_map_eq_error h
      obtain ⟨text, -, htext⟩ := (predictAll_error_iff hready).mp hall
      exact predict_error_kind hready htext

/-- When each operation on a pipeline fails, and with which error. -/
structure Failures (settings : Settings) (p : Pipeline) : Prop where
  load_error_iff : ∀ records e,
    (p.act (load records)).1 = .error e ↔
      (∀ r ∈ records, ¬ r.Usable settings.labels) ∧
        e = .allDropped records.length
  fit_error_iff : ∀ fallback e,
    (p.act (fit fallback)).1 = .error e ↔
      p.stage.milestone = .idle ∧ e = .noRecords ∨
        p.stage.milestone ≠ .idle ∧ settings.trainSize p.recordCount = 0 ∧
          e = .emptyTrainingSet
  evaluate_error_iff : ∀ e,
    (p.act evaluate).1 = .error e ↔
      (p.stage.milestone = .idle ∨ p.stage.milestone = .loaded) ∧
        e = .notFitted p.stage.name
  train_error_iff : ∀ fallback records e,
    (p.act (train fallback records)).1 = .error e ↔
      (∀ r ∈ records, ¬ r.Usable settings.labels) ∧
          e = .allDropped records.length ∨
        (∃ r ∈ records, r.Usable settings.labels) ∧
          settings.trainSize (usable settings.labels records).length = 0 ∧
          e = .emptyTrainingSet
  predict_error_iff : ∀ text e,
    p.predict text = .error e ↔
      p.stage.trained? = none ∧ e = .untrained p.kind.name ∨
        p.stage.trained?.isSome ∧ Text.trim text = "" ∧ e = .blankQuery
  predict_eq_ok : ∀ text label, p.predict text = .ok label →
    label = settings.labels.positive ∨ label = settings.labels.negative
  predictAll_error_iff : ∀ texts e,
    p.predictAll texts = .error e ↔ ∃ text ∈ texts, p.predict text = .error e
  kind_mem : ∀ fallback op e, (p.perform fallback op).1 = .error e →
    e.kind ∈ op.errorKinds
  /-- The steps in between never fail, nor do the settings. -/
  regular : ∀ fallback op e, (p.perform fallback op).1 = .error e →
    e.kind ∉ [ErrorKind.shapeMismatch, .typeMismatch, .invalidConfig, .analysis]

/-- Whatever was done with a pipeline, its operations fail under these conditions
and under no others. -/
theorem run_failures {kind : ModelKind} {settings : Settings} {p : Pipeline}
    (hmake : make kind settings = .ok p) (fallback : UInt64)
    (ops : List Operation) : Failures settings (p.run fallback ops).2 := by
  have hlife := run_lifecycle_of_make hmake fallback ops
  obtain ⟨rfl, rfl, -⟩ := make_eq_ok_iff.mp hmake
  have hready := hlife.ready p.valid
  obtain ⟨s, hs⟩ := run_steady p fallback ops
  rw [hs] at hready ⊢
  exact {
    load_error_iff := load_error_iff (p.withStage s)
    fit_error_iff := fun other _ => fit_error_iff hready other
    evaluate_error_iff := fun _ => evaluate_error_iff hready
    train_error_iff := fun other records _ =>
      train_error_iff (p.withStage s) other records
    predict_error_iff := fun _ _ => predict_error_iff hready
    predict_eq_ok := fun _ _ => predict_eq_ok
    predictAll_error_iff := fun _ _ => predictAll_error_iff hready
    kind_mem := fun _ _ _ => perform_error_kind hready
    regular := fun _ op _ h =>
      op.errorKinds_regular _ (perform_error_kind hready h) }

theorem run_failures_seeded :
    make .forest (seeded .forest 7).settings = .ok (seeded .forest 7) ∧
      Failures (seeded .forest 7).settings
        ((seeded .forest 7).run 0 [.evaluate, .load [⟨"the market rose", "real"⟩,
          ⟨" ", "fake"⟩], .fit]).2 :=
  ⟨make_seeded .forest 7, run_failures (make_seeded .forest 7) 0 _⟩

end Pipeline

end Credence
