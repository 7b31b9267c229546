/-
A pipeline does not remember how it came to its milestone.  Whatever was done with
it, and whether that failed or not, it holds what a new pipeline holds that takes
the same records and goes straight to that milestone.
-/
import Credence.Proofs.Pipeline.Rollback

namespace Credence

namespace Pipeline

/-- What the stage of a pipeline can be, once it has taken the given records. -/
inductive Lifecycle (kind : ModelKind) (settings : Settings)
    (w : Random.Words) : Option (List Record) → Stage → Prop
  | idle : Lifecycle kind settings w none .start
  | loaded {records : List Record} (hsome : usable settings.labels records ≠ []) :
      Lifecycle kind settings w (some records)
        (.ofRecords settings.labels records)
  | fitted {records : List Record} {t : Trained}
      (hsome : usable settings.labels records ≠ [])
      (hlearn : Trained.learn kind settings w
        (Stage.ofRecords settings.labels records).texts
        (Stage.ofRecords settings.labels records).codes = .ok t) :
      Lifecycle kind settings w (some records)
        ((Stage.ofRecords settings.labels records).fit t)
  | evaluated {records : List Record} {t : Trained} {r : TrainingReport}
      (hsome : usable settings.labels records ≠ [])
      (hlearn : Trained.learn kind settings w
        (Stage.ofRecords settings.labels records).texts
        (Stage.ofRecords settings.labels records).codes = .ok t)
      (hreport : t.report = .ok r) :
      Lifecycle kind settings w (some records)
        (((Stage.ofRecords settings.labels records).fit t).evaluate r)

section inversion

variable {p q : Pipeline} {fallback : UInt64}

theorem act_load_eq_ok {records : List Record} {s : LoadSummary}
    (h : p.act (load records) = (.ok s, q)) :
    usable p.settings.labels records ≠ [] ∧
      q = p.withStage (.ofRecords p.settings.labels records) := by
  rw [act_load] at h
  split at h
  · cases h
  · next hsome =>
      cases h
      exact ⟨hsome, rfl⟩

theorem act_fit_eq_ok {s : TrainingSummary}
    (h : p.act (fit fallback) = (.ok s, q)) :
    ∃ t, p.stage.milestone ≠ .idle ∧ p.learn fallback = .ok t ∧
      s = t.summary ∧ q = p.withStage (p.stage.fit t) := by
  rw [act_fit] at h
  split at h
  · cases h
  · next hidle =>
      cases hlearn : p.learn fallback with
      | ok t =>
          rw [hlearn] at h
          cases h
          exact ⟨t, hidle, rfl, rfl, rfl⟩
      | error e => rw [hlearn] at h; cases h

theorem act_evaluate_eq_ok {r : TrainingReport}
    (h : p.act evaluate = (.ok r, q)) :
    ¬ (p.stage.milestone = .idle ∨ p.stage.milestone = .loaded) ∧
      p.score = .ok r ∧ q = p.withStage (p.stage.evaluate r) := by
  rw [act_evaluate] at h
  split at h
  · cases h
  · next hearly =>
      cases hscore : p.score with
      | ok r =>
          rw [hscore] at h
          cases h
          exact ⟨hearly, rfl, rfl⟩
      | error e => rw [hscore] at h; cases h

end inversion

variable {p : Pipeline} {fallback : UInt64} {taken : Option (List Record)}

theorem Lifecycle.of_load
    {records : List Record} {s : LoadSummary} {q : Pipeline}
    (h : p.act (load records) = (.ok s, q)) (w : Random.Words) :
    Lifecycle p.kind p.settings w (some records) q.stage := by
  obtain ⟨hsome, rfl⟩ := act_load_eq_ok h
  exact .loaded hsome

theorem Lifecycle.of_fit {s : TrainingSummary} {q : Pipeline}
    (hlife : Lifecycle p.kind p.settings (p.settings.words fallback) taken
      p.stage)
    (h : p.act (fit fallback) = (.ok s, q)) :
    Lifecycle p.kind p.settings (p.settings.words fallback) taken q.stage := by
  obtain ⟨t, hidle, hlearn, -, rfl⟩ := act_fit_eq_ok h
  rw [learn] at hlearn
  generalize p.stage = stage at hlife hidle hlearn ⊢
  -- a second training replaces the model and the report of the first one
  cases hlife with
  | idle => exact absurd rfl hidle
  | loaded hsome => exact .fitted hsome hlearn
  | fitted hsome _ => exact .fitted hsome hlearn
  | evaluated hsome _ _ => exact .fitted hsome hlearn

theorem Lifecycle.of_evaluate {r : TrainingReport} {q : Pipeline}
    {w : Random.Words} (hlife : Lifecycle p.kind p.settings w taken p.stage)
    (h : p.act evaluate = (.ok r, q)) :
    Lifecycle p.kind p.settings w taken q.stage := by
  obtain ⟨hearly, hscore, rfl⟩ := act_evaluate_eq_ok h
  rw [score] at hscore
  generalize p.stage = stage at hlife hearly hscore ⊢
  cases hlife with
  | idle => exact absurd (Or.inl rfl) hearly
  | loaded hsome => exact absurd (Or.inr rfl) hearly
  | fitted hsome hlearn => exact .evaluated hsome hlearn hscore
  | evaluated hsome hlearn _ => exact .evaluated hsome hlearn hscore

theorem Lifecycle.of_train {records : List Record} {r : TrainingReport}
    {q : Pipeline} (h : p.act (train fallback records) = (.ok r, q)) :
    Lifecycle p.kind p.settings (p.settings.words fallback) (some records)
      q.stage := by
  rw [act_train] at h
  rcases hcycle : (p.withStage .start).act (cycle fallback records) with
    ⟨e | r, next⟩
  · rw [hcycle] at h
    cases h
  rw [hcycle] at h
  cases h
  obtain ⟨s, loaded, hload, hrest⟩ := act_bind_eq_ok hcycle
  obtain ⟨t, fitted, hfit, hevaluate⟩ := act_bind_eq_ok hrest
  have hloaded := Lifecycle.of_load hload (p.settings.words fallback)
  obtain ⟨-, rfl⟩ := act_load_eq_ok hload
  have hfitted := Lifecycle.of_fit hloaded hfit
  obtain ⟨_, -, -, -, rfl⟩ := act_fit_eq_ok hfit
  have hevaluated := Lifecycle.of_evaluate hfitted hevaluate
  exact hevaluated

/-- The records that an operation has put in use, if it was answered so. -/
def Operation.taken? : Operation → Except Error Answer → Option (List Record)
  | .load records, .ok _ => some records
  | .train records, .ok _ => some records
  | _, _ => none

/-- Each operation keeps to the lifecycle, and only those that succeed in taking
records change which ones are in use. -/
theorem perform_lifecycle (op : Operation)
    (hlife : Lifecycle p.kind p.settings (p.settings.words fallback) taken
      p.stage) :
    Lifecycle p.kind p.settings (p.settings.words fallback)
      ((op.taken? (p.perform fallback op).1).or taken)
      (p.perform fallback op).2.stage := by
  cases hanswer : (p.perform fallback op).1 with
  | error e =>
      rw [perform_of_error hanswer]
      cases op <;> exact hlife
  | ok answer =>
      cases op with
      | load records =>
          obtain ⟨s, hact⟩ := act_map_eq_ok hanswer
          exact Lifecycle.of_load hact _
      | fit =>
          obtain ⟨s, hact⟩ := act_map_eq_ok hanswer
          exact Lifecycle.of_fit hlife hact
      | evaluate =>
          obtain ⟨r, hact⟩ := act_map_eq_ok hanswer
          exact Lifecycle.of_evaluate hlife hact
      | train records =>
          obtain ⟨r, hact⟩ := act_map_eq_ok hanswer
          exact Lifecycle.of_train hact
      | predict text => exact hlife
      | predictAll texts => exact hlife

/-- The records of the last loading or training of a run that succeeded. -/
def lastTaken? (ops : List Operation) (answers : List (Except Error Answer)) :
    Option (List Record) :=
  ((ops.zip answers).filterMap fun x => x.1.taken? x.2).getLast?

theorem lastTaken?_cons (op : Operation) (ops : List Operation)
    (answer : Except Error Answer) (answers : List (Except Error Answer)) :
    lastTaken? (op :: ops) (answer :: answers) =
      (lastTaken? ops answers).or (op.taken? answer) := by
  rw [lastTaken?, List.zip_cons_cons, List.filterMap_cons]
  cases op.taken? answer with
  | none => simp [lastTaken?]
  | some records =>
      rw [List.getLast?_cons, lastTaken?]
      cases ((ops.zip answers).filterMap fun x => x.1.taken? x.2).getLast? with
      | none => rfl
      | some _ => rfl

theorem run_lifecycle (ops : List Operation)
    (hlife : Lifecycle p.kind p.settings (p.settings.words fallback) taken
      p.stage) :
    Lifecycle p.kind p.settings (p.settings.words fallback)
      ((lastTaken? ops (p.run fallback ops).1).or taken)
      (p.run fallback ops).2.stage := by
  induction ops generalizing p taken with
  | nil => exact hlife
  | cons op ops ih =>
      have hstep := perform_lifecycle op hlife
      obtain ⟨s, hs⟩ := perform_steady p fallback op
      rw [run_cons, lastTaken?_cons, Option.or_assoc]
      rw [hs] at hstep ⊢
      exact ih (p := p.withStage s) hstep

/-- A run of a new pipeline keeps to the lifecycle. -/
theorem run_lifecycle_of_make {kind : ModelKind} {settings : Settings}
    (hmake : make kind settings = .ok p) (fallback : UInt64)
    (ops : List Operation) :
    Lifecycle kind settings (settings.words fallback)
      (lastTaken? ops (p.run fallback ops).1) (p.run fallback ops).2.stage := by
  obtain ⟨rfl, rfl, hstart⟩ := make_eq_ok_iff.mp hmake
  have hidle : Lifecycle p.kind p.settings (p.settings.words fallback) none
      p.stage := hstart ▸ .idle
  have hrun := run_lifecycle ops hidle
  rwa [Option.or_none] at hrun

/-- The straight way to a milestone with some records. -/
def script (records : List Record) : Milestone → List Operation
  | .idle => []
  | .loaded => [.load records]
  | .fitted => [.load records, .fit]
  | .evaluated => [.load records, .fit, .evaluate]

section replay

variable (p : Pipeline) (fallback : UInt64)

theorem perform_load_snd {records : List Record}
    (hsome : usable p.settings.labels records ≠ []) :
    (p.perform fallback (.load records)).2 =
      p.withStage (.ofRecords p.settings.labels records) := by
  rw [perform, act_map, act_load, if_neg hsome]

theorem perform_fit_snd {t : Trained} (hidle : p.stage.milestone ≠ .idle)
    (hlearn : p.learn fallback = .ok t) :
    (p.perform fallback .fit).2 = p.withStage (p.stage.fit t) := by
  rw [perform, act_map, act_fit, if_neg hidle, hlearn]

theorem perform_evaluate_snd {r : TrainingReport}
    (hfitted : p.stage.milestone = .fitted) (hscore : p.score = .ok r) :
    (p.perform fallback .evaluate).2 = p.withStage (p.stage.evaluate r) := by
  rw [perform, act_map, act_evaluate, hfitted, if_neg (by simp), hscore]

end replay

theorem ofRecords_usable (labels : LabelPair) (records : List Record) :
    Stage.ofRecords labels (usable labels records) =
      Stage.ofRecords labels records := by
  simp only [Stage.ofRecords, usable_usable]

/-- The straight way with nothing but the records that can be used leads to the
same stage. -/
theorem Lifecycle.replay {s : Stage}
    (hlife : Lifecycle p.kind p.settings (p.settings.words fallback) taken s)
    (hstart : p.stage = .start) :
    (p.run fallback
        (script (usable p.settings.labels (taken.getD [])) s.milestone)).2 =
      p.withStage s := by
  have hload {records : List Record}
      (hsome : usable p.settings.labels records ≠ []) :
      (p.perform fallback (.load (usable p.settings.labels records))).2 =
        p.withStage (.ofRecords p.settings.labels records) := by
    rw [perform_load_snd, ofRecords_usable]
    rwa [usable_usable]
  have hfit {records : List Record} {t : Trained}
      (hsome : usable p.settings.labels records ≠ [])
      (hlearn : Trained.learn p.kind p.settings (p.settings.words fallback)
        (Stage.ofRecords p.settings.labels records).texts
        (Stage.ofRecords p.settings.labels records).codes = .ok t) :
      ((p.perform fallback
          (.load (usable p.settings.labels records))).2.perform fallback .fit).2 =
        p.withStage ((Stage.ofRecords p.settings.labels records).fit t) := by
    rw [hload hsome]
    exact perform_fit_snd (p.withStage (.ofRecords p.settings.labels records))
      fallback (by simp [Stage.ofRecords]) hlearn
  cases hlife with
  | idle =>
      cases p
      exact congrArg _ hstart
  | loaded hsome => exact hload hsome
  | fitted hsome hlearn => exact hfit hsome hlearn
  | evaluated hsome hlearn hreport =>
      change (p.run fallback (script _ .evaluated)).2 = _
      rw [script, run_cons, run_cons, run_cons, Option.getD_some,
        hfit hsome hlearn]
      exact perform_evaluate_snd _ fallback rfl hreport

/-- The parts of a pipeline fit together, and all of them follow from the records
that it took last. -/
structure Coherent (kind : ModelKind) (settings : Settings)
    (taken : Option (List Record)) (q : Pipeline) : Prop where
  kind_eq : q.kind = kind
  settings_eq : q.settings = settings
  length_eq : q.stage.texts.length = q.stage.codes.length
  codes_binary : ∀ code ∈ q.stage.codes, code = 0 ∨ code = 1
  texts_eq : q.stage.texts =
    (usable settings.labels (taken.getD [])).map (·.text)
  codes_eq : q.stage.codes =
    (usable settings.labels (taken.getD [])).map (·.code settings.labels)
  texts_eq_nil_iff : q.stage.texts = [] ↔ q.stage.milestone = .idle
  taken_eq_none_iff : taken = none ↔ q.stage.milestone = .idle
  isSome_trained_iff : q.stage.trained?.isSome ↔
    q.stage.milestone = .fitted ∨ q.stage.milestone = .evaluated
  /-- The model is the one that a new pipeline learns from the same records. -/
  trained_eq : ∀ fresh t, make kind settings = .ok fresh →
    q.stage.trained? = some t → ∀ other,
      (fresh.run other (script (usable settings.labels (taken.getD []))
        .fitted)).2.stage.trained? = some t
  isSome_report_iff : q.stage.report?.isSome ↔ q.stage.milestone = .evaluated
  /-- The report is about the model in use. -/
  report_eq : ∀ r, q.stage.report? = some r →
    ∃ t, q.stage.trained? = some t ∧ t.report = .ok r
  /-- Nothing but the records and the milestone is remembered. -/
  replay : ∀ fresh, make kind settings = .ok fresh → ∀ other,
    (fresh.run other (script (usable settings.labels (taken.getD []))
      q.stage.milestone)).2 = q

theorem Record.code_binary (labels : LabelPair) (r : Record) :
    r.code labels = 0 ∨ r.code labels = 1 :=
  (r.verdict labels).code_binary

section coherent

variable {kind : ModelKind} {settings : Settings} {w : Random.Words}
  {s : Stage}

theorem Lifecycle.texts_eq (hlife : Lifecycle kind settings w taken s) :
    s.texts = (usable settings.labels (taken.getD [])).map (·.text) := by
  cases hlife <;> rfl

theorem Lifecycle.codes_eq (hlife : Lifecycle kind settings w taken s) :
    s.codes = (usable settings.labels (taken.getD [])).map
      (·.code settings.labels) := by
  cases hlife <;> rfl

theorem Lifecycle.length_eq (hlife : Lifecycle kind settings w taken s) :
    s.texts.length = s.codes.length := by
  rw [hlife.texts_eq, hlife.codes_eq, List.length_map, List.length_map]

theorem Lifecycle.codes_binary (hlife : Lifecycle kind settings w taken s) :
    ∀ code ∈ s.codes, code = 0 ∨ code = 1 := by
  intro code hcode
  rw [hlife.codes_eq] at hcode
  obtain ⟨r, -, rfl⟩ := List.mem_map.mp hcode
  exact Record.code_binary settings.labels r

theorem Lifecycle.texts_eq_nil_iff
    (hlife : Lifecycle kind settings w taken s) :
    s.texts = [] ↔ s.milestone = .idle := by
  cases hlife <;> simp_all [Stage.start, Stage.ofRecords, Stage.fit,
    Stage.evaluate]

theorem Lifecycle.isSome_trained_iff
    (hlife : Lifecycle kind settings w taken s) :
    s.trained?.isSome ↔ s.milestone = .fitted ∨ s.milestone = .evaluated := by
  cases hlife <;> simp [Stage.start, Stage.ofRecords, Stage.fit,
    Stage.evaluate]

theorem Lifecycle.isSome_report_iff
    (hlife : Lifecycle kind settings w taken s) :
    s.report?.isSome ↔ s.milestone = .evaluated := by
  cases hlife <;> simp [Stage.start, Stage.ofRecords, Stage.fit,
    Stage.evaluate]

theorem Lifecycle.taken_eq_none_iff
    (hlife : Lifecycle kind settings w taken s) :
    taken = none ↔ s.milestone = .idle := by
  cases hlife <;> simp [Stage.start, Stage.ofRecords, Stage.fit,
    Stage.evaluate]

/-- The stage from which the model in use was scored, if it was. -/
theorem Lifecycle.fitted_of_trained {t : Trained}
    (hlife : Lifecycle kind settings w taken s)
    (htrained : s.trained? = some t) :
    ∃ fitted : Stage, Lifecycle kind settings w taken fitted ∧
      fitted.milestone = .fitted ∧ fitted.trained? = some t := by
  cases hlife with
  | idle => cases htrained
  | loaded hsome => cases htrained
  | fitted hsome hlearn => exact ⟨_, .fitted hsome hlearn, rfl, htrained⟩
  | evaluated hsome hlearn hreport =>
      exact ⟨_, .fitted hsome hlearn, rfl, htrained⟩

theorem Lifecycle.report_eq {r : TrainingReport}
    (hlife : Lifecycle kind settings w taken s)
    (hreport : s.report? = some r) :
    ∃ t, s.trained? = some t ∧ t.report = .ok r := by
  cases hlife with
  | idle => cases hreport
  | loaded hsome => cases hreport
  | fitted hsome hlearn => cases hreport
  | evaluated hsome hlearn hscored =>
      cases hreport
      exact ⟨_, rfl, hscored⟩

end coherent

/-- Whatever is done with a pipeline, its parts fit together, and they are those
of a new pipeline that goes straight to the same milestone. -/
theorem run_coherent {kind : ModelKind} {settings : Settings} {p : Pipeline}
    (hmake : make kind settings = .ok p) (hseed : settings.seed.isSome)
    (fallback : UInt64) (ops : List Operation) :
    Coherent kind settings (lastTaken? ops (p.run fallback ops).1)
      (p.run fallback ops).2 := by
  have hlife := run_lifecycle_of_make hmake fallback ops
  obtain ⟨rfl, rfl, hstart⟩ := make_eq_ok_iff.mp hmake
  obtain ⟨s, hs⟩ := run_steady p fallback ops
  rw [hs, withStage_stage] at hlife
  have hreplay {t : Stage} (ht : Lifecycle p.kind p.settings
      (p.settings.words fallback) (lastTaken? ops (p.run fallback ops).1) t)
      (fresh : Pipeline) (hfresh : make p.kind p.settings = .ok fresh)
      (other : UInt64) :
      (fresh.run other (script (usable p.settings.labels
        ((lastTaken? ops (p.run fallback ops).1).getD [])) t.milestone)).2 =
        p.withStage t := by
    rw [Settings.words_seeded hseed fallback other] at ht
    obtain rfl : fresh = p := Except.ok.inj (hfresh.symm.trans hmake)
    exact ht.replay hstart
  rw [hs]
  exact {
    kind_eq := rfl
    settings_eq := rfl
    length_eq := hlife.length_eq
    codes_binary := hlife.codes_binary
    texts_eq := hlife.texts_eq
    codes_eq := hlife.codes_eq
    texts_eq_nil_iff := hlife.texts_eq_nil_iff
    taken_eq_none_iff := hlife.taken_eq_none_iff
    isSome_trained_iff := hlife.isSome_trained_iff
    trained_eq := by
      intro fresh t hfresh htrained other
      obtain ⟨fitted, hfitted, hmilestone, ht⟩ :=
        hlife.fitted_of_trained htrained
      rw [← hmilestone, hreplay hfitted fresh hfresh other]
      exact ht
    isSome_report_iff := hlife.isSome_report_iff
    report_eq := fun r hr => hlife.report_eq hr
    replay := hreplay hlife }

theorem run_coherent_seeded :
    make .nearest (seeded .nearest 7).settings = .ok (seeded .nearest 7) ∧
      (seeded .nearest 7).settings.seed.isSome ∧
      Coherent .nearest (seeded .nearest 7).settings
        (lastTaken? [.load [⟨"the market rose", "real"⟩,
            ⟨"aliens landed here", "fake"⟩], .fit]
          ((seeded .nearest 7).run 0 [.load [⟨"the market rose", "real"⟩,
            ⟨"aliens landed here", "fake"⟩], .fit]).1)
        ((seeded .nearest 7).run 0 [.load [⟨"the market rose", "real"⟩,
            ⟨"aliens landed here", "fake"⟩], .fit]).2 :=
  ⟨make_seeded .nearest 7, rfl, run_coherent (make_seeded .nearest 7) rfl 0 _⟩

end Pipeline

end Credence
