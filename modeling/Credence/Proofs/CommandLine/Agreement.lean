/-
Both commands of the program agree.  One scores its model before it classifies texts
and the other one does not, but scoring neither fails nor touches the model; and what
both make of the files and of the command line is what a pipeline makes of the same
records that is trained and asked directly.
-/
import Credence.CommandLine.Execute
import Credence.Proofs.Pipeline.Failures

namespace Credence

/-- What takes records and learns from them can be scored, and is what comes out of a
cycle of its own.  Scoring does not change what it says about texts. -/
theorem Pipeline.exists_train_eq_ok {fresh p q : Pipeline} {records : List Record}
    {loaded : LoadSummary} {summary : TrainingSummary} {fallback : UInt64}
    (hstart : fresh.stage = .start) (hload : fresh.act (load records) = (.ok loaded, p))
    (hfit : p.act (fit fallback) = (.ok summary, q)) :
    ∃ report r, q.act evaluate = (.ok report, r) ∧ r.predict = q.predict ∧
      q.kind = fresh.kind ∧ fresh.act (train fallback records) = (.ok report, r) := by
  obtain ⟨-, hp⟩ := act_load_eq_ok hload
  have hloaded : Lifecycle p.kind p.settings (p.settings.words fallback)
      (some records) p.stage := by
    have hloaded := Lifecycle.of_load hload (fresh.settings.words fallback)
    rw [hp] at hloaded ⊢
    exact hloaded
  have hlife := Lifecycle.of_fit hloaded hfit
  obtain ⟨t, -, -, -, hq⟩ := act_fit_eq_ok hfit
  have hlate : ¬ (q.stage.milestone = .idle ∨ q.stage.milestone = .loaded) := by
    simp [hq, Stage.fit]
  obtain ⟨report, hscore⟩ := exists_score_eq_ok (hlife.ready p.valid) hlate
  have hevaluate : q.act evaluate =
      (.ok report, q.withStage (q.stage.evaluate report)) := by
    rw [act_evaluate, if_neg hlate, hscore]
  refine ⟨report, q.withStage (q.stage.evaluate report), hevaluate, rfl, ?_, ?_⟩
  · rw [hq, hp]
    rfl
  · have hsame : fresh.withStage .start = fresh := by
      rw [← hstart]
      rfl
    simp only [act_train, hsame, cycle, act_bind, hload, hfit, hevaluate]

namespace CommandLine

section steps

variable {α : Type}

theorem within_eq_ok_iff {context : String} {x : Except Error α} {y : α} :
    within context x = .ok y ↔ x = .ok y := by
  cases x with
  | ok x => simp [within]
  | error e => simp [within]

theorem plainly_eq_ok_iff {x : Except Error α} {y : α} :
    plainly x = .ok y ↔ x = .ok y := by
  cases x with
  | ok x => simp [plainly]
  | error e => simp [plainly]

theorem attempt_eq_ok_iff {p q : Pipeline} {a : Pipeline.Action α} {x : α} :
    p.attempt a = .ok (x, q) ↔ p.act a = (.ok x, q) := by
  rw [Pipeline.attempt]
  rcases p.act a with ⟨e | y, next⟩
  · simp
  · simp

theorem contents_eq_ok_iff {files : Files} {path text : String} :
    contents files path = .ok text ↔ files path = some text := by
  rw [contents]
  cases files path with
  | none => simp
  | some other => simp

end steps

/-- The settings that a command trains with: those of the file, or the standard ones
without a file, where nothing but the seed and the limit give way to the command
line. -/
def Effective (files : Files) (o : TrainingOptions) (s : Settings) : Prop :=
  ∃ base : Settings,
    (match o.settings with
      | none => base = .standard
      | some path => ∃ text, files path = some text ∧ Settings.read text = .ok base) ∧
    s = { base with
      seed := o.seed <|> base.seed
      maxSamples := o.maxSamples <|> base.maxSamples }

/-- A pipeline that takes the records of the data file, is trained on them and comes
out with a report. -/
structure Direct (files : Files) (o : TrainingOptions) (loaded : LoadSummary)
    (report : TrainingReport) (q : Pipeline) : Prop where
  exists_train_eq_ok : ∃ settings text records p,
    Effective files o settings ∧ files o.data = some text ∧
      Record.readAll text = .ok records ∧ Pipeline.make o.kind settings = .ok p ∧
      (p.act (Pipeline.load records)).1 = .ok loaded ∧
      ∀ fallback, p.act (Pipeline.train fallback records) = (.ok report, q)

/-- What the commands say about some texts, compared with each other and with a
pipeline that is asked directly. -/
structure Agree (files : Files) (o : TrainingOptions) (texts : List String)
    (predicted trained : Except Failure Outcome) : Prop where
  error_iff : ∀ failure, predicted = .error failure ↔ trained = .error failure
  exists_of_ok : ∀ outcome, predicted = .ok outcome →
    ∃ loaded report predictions q,
      outcome = .predicted ⟨loaded, o.kind.name, predictions⟩ ∧
      trained = .ok (.trained ⟨loaded, report, predictions⟩) ∧
      predictions.map (·.text) = texts ∧
      Direct files o loaded report q ∧
      q.predictAll texts = .ok (predictions.map (·.label))

section prepare

variable {files : Files} {o : TrainingOptions}

theorem loadSettings_eq_ok {settings : Settings}
    (h : loadSettings files o = .ok settings) : Effective files o settings := by
  rw [loadSettings] at h
  cases hpath : o.settings with
  | none =>
      rw [hpath] at h
      have hchecked := plainly_eq_ok_iff.mp h
      refine ⟨.standard, ?_, (eq_of_checked_eq_ok hchecked).symm⟩
      rw [hpath]
  | some path =>
      rw [hpath] at h
      obtain ⟨base, hbase, h⟩ := bind_eq_ok_iff.mp h
      obtain ⟨text, htext, hread⟩ := bind_eq_ok_iff.mp (within_eq_ok_iff.mp hbase)
      have hchecked := plainly_eq_ok_iff.mp h
      refine ⟨base, ?_, (eq_of_checked_eq_ok hchecked).symm⟩
      rw [hpath]
      exact ⟨text, contents_eq_ok_iff.mp htext, hread⟩

/-- What is known of a pipeline that is ready to be trained. -/
theorem prepare_eq_ok {loaded : LoadSummary} {p : Pipeline}
    (h : prepare files o = .ok (loaded, p)) :
    ∃ settings text records fresh, Effective files o settings ∧
      files o.data = some text ∧ Record.readAll text = .ok records ∧
      Pipeline.make o.kind settings = .ok fresh ∧
      fresh.act (Pipeline.load records) = (.ok loaded, p) := by
  rw [prepare] at h
  obtain ⟨settings, hsettings, h⟩ := bind_eq_ok_iff.mp h
  obtain ⟨records, hrecords, h⟩ := bind_eq_ok_iff.mp h
  obtain ⟨fresh, hfresh, h⟩ := bind_eq_ok_iff.mp h
  obtain ⟨text, htext, hread⟩ := bind_eq_ok_iff.mp (within_eq_ok_iff.mp hrecords)
  exact ⟨settings, text, records, fresh, loadSettings_eq_ok hsettings,
    contents_eq_ok_iff.mp htext, hread, plainly_eq_ok_iff.mp hfresh,
    attempt_eq_ok_iff.mp (plainly_eq_ok_iff.mp h)⟩

/-- What both commands do before they differ. -/
def fitted (files : Files) (fallback : UInt64) (o : TrainingOptions) :
    Except Failure (LoadSummary × Pipeline) := do
  let (loaded, p) ← prepare files o
  let (_, p) ← within "training failed" (p.attempt (Pipeline.fit fallback))
  return (loaded, p)

/-- A trained pipeline, with all that led to it. -/
theorem fitted_eq_ok {fallback : UInt64} {loaded : LoadSummary} {q : Pipeline}
    (h : fitted files fallback o = .ok (loaded, q)) :
    ∃ p summary, prepare files o = .ok (loaded, p) ∧
      p.act (Pipeline.fit fallback) = (.ok summary, q) := by
  rw [fitted] at h
  obtain ⟨⟨loaded', p⟩, hprepare, h⟩ := bind_eq_ok_iff.mp h
  obtain ⟨⟨summary, q'⟩, hfit, h⟩ := bind_eq_ok_iff.mp h
  cases h
  exact ⟨p, summary, hprepare, attempt_eq_ok_iff.mp (within_eq_ok_iff.mp hfit)⟩

theorem seed_of_prepare {loaded : LoadSummary} {p : Pipeline}
    (hseed : ∀ settings, Effective files o settings → settings.seed.isSome)
    (h : prepare files o = .ok (loaded, p)) : p.settings.seed.isSome := by
  obtain ⟨settings, -, records, fresh, heffective, -, -, hmake, hload⟩ :=
    prepare_eq_ok h
  obtain ⟨-, rfl⟩ := Pipeline.act_load_eq_ok hload
  rw [Pipeline.withStage_settings, (Pipeline.make_eq_ok_iff.mp hmake).2.1]
  exact hseed settings heffective

/-- With a seed, both commands train the same pipeline. -/
theorem fitted_seeded
    (hseed : ∀ settings, Effective files o settings → settings.seed.isSome)
    (fallback other : UInt64) : fitted files fallback o = fitted files other o := by
  rw [fitted, fitted]
  cases hprepare : prepare files o with
  | error failure =>
      change Except.error failure = Except.error failure
      rfl
  | ok x =>
      have hfit : x.2.attempt (Pipeline.fit fallback) =
          x.2.attempt (Pipeline.fit other) := by
        rw [Pipeline.attempt, Pipeline.attempt,
          Pipeline.fit_seeded (seed_of_prepare hseed hprepare) fallback other]
      change (within _ (x.2.attempt _) >>= _) = (within _ (x.2.attempt _) >>= _)
      rw [hfit]

end prepare

section execute

variable (files : Files) (o : TrainingOptions) (texts : List String)
  (d : DisplayOptions) (fallback : UInt64)

theorem execute_predict :
    execute files fallback ⟨.predict, o, texts, d⟩ = (do
      let (loaded, p) ← fitted files fallback o
      let predictions ← texts.mapM (classify p)
      return .predicted ⟨loaded, p.kind.name, predictions⟩) := by
  simp only [execute, fitted, bind_assoc, pure_bind]

theorem execute_train :
    execute files fallback ⟨.train, o, texts, d⟩ = (do
      let (loaded, p) ← fitted files fallback o
      let (report, p) ← within "evaluation failed" (p.attempt Pipeline.evaluate)
      let predictions ← texts.mapM (classify p)
      return .trained ⟨loaded, report, predictions⟩) := by
  simp only [execute, fitted, bind_assoc, pure_bind]

end execute

section agree

variable {files : Files} {o : TrainingOptions} {fallback : UInt64}
  {loaded : LoadSummary} {p : Pipeline}

/-- Scoring a trained pipeline does not fail, and all texts are classified as before.
It is the last step of the cycle that a pipeline goes through on its own. -/
theorem exists_evaluate_eq_ok
    (hseed : ∀ settings, Effective files o settings → settings.seed.isSome)
    (h : fitted files fallback o = .ok (loaded, p)) :
    ∃ report q, p.act Pipeline.evaluate = (.ok report, q) ∧ q.predict = p.predict ∧
      p.kind = o.kind ∧ Direct files o loaded report q := by
  obtain ⟨start, summary, hprepare, hfit⟩ := fitted_eq_ok h
  have hseeded := seed_of_prepare hseed hprepare
  obtain ⟨settings, text, records, fresh, heffective, htext, hread, hmake, hload⟩ :=
    prepare_eq_ok hprepare
  obtain ⟨hkind, -, hstage⟩ := Pipeline.make_eq_ok_iff.mp hmake
  obtain ⟨report, q, hevaluate, hpredict, hsame, htrain⟩ :=
    Pipeline.exists_train_eq_ok hstage hload hfit
  refine ⟨report, q, hevaluate, hpredict, hsame.trans hkind, ?_⟩
  refine ⟨settings, text, records, fresh, heffective, htext, hread, hmake,
    congrArg Prod.fst hload, ?_⟩
  intro other
  rw [Pipeline.fit_seeded hseeded fallback other] at hfit
  obtain ⟨report', q', hevaluate', -, -, htrain'⟩ :=
    Pipeline.exists_train_eq_ok hstage hload hfit
  rw [hevaluate] at hevaluate'
  cases hevaluate'
  exact htrain'

/-- What is said about texts is what a pipeline says about all of them. -/
theorem mapM_classify_eq_ok {texts : List String} {predictions : List Prediction}
    (h : texts.mapM (classify p) = .ok predictions) :
    predictions.map (·.text) = texts ∧
      p.predictAll texts = .ok (predictions.map (·.label)) := by
  induction texts generalizing predictions with
  | nil =>
      cases h
      exact ⟨rfl, rfl⟩
  | cons text texts ih =>
      rw [List.mapM_cons] at h
      obtain ⟨prediction, hclassify, h⟩ := bind_eq_ok_iff.mp h
      obtain ⟨others, hothers, h⟩ := bind_eq_ok_iff.mp h
      obtain ⟨label, hlabel, hprediction⟩ := bind_eq_ok_iff.mp hclassify
      cases h
      cases hprediction
      obtain ⟨htexts, hlabels⟩ := ih hothers
      refine ⟨congrArg (text :: ·) htexts, ?_⟩
      rw [Pipeline.predictAll, List.mapM_cons, within_eq_ok_iff.mp hlabel]
      rw [Pipeline.predictAll] at hlabels
      rw [hlabels]
      rfl

/-- Both commands fail alike; otherwise they say the same about the records and about
all texts, and a pipeline that is asked directly says so, too. -/
theorem execute_agree
    (hseed : ∀ settings, Effective files o settings → settings.seed.isSome)
    (texts : List String) (fallback other : UInt64) (d d' : DisplayOptions) :
    Agree files o texts (execute files fallback ⟨.predict, o, texts, d⟩)
      (execute files other ⟨.train, o, texts, d'⟩) := by
  rw [execute_predict, execute_train, fitted_seeded hseed other fallback]
  cases hfitted : fitted files fallback o with
  | error failure =>
      change Agree files o texts (.error failure) (.error failure)
      exact ⟨fun _ => Iff.rfl, nofun⟩
  | ok x =>
      obtain ⟨loaded, p⟩ := x
      obtain ⟨report, q, hevaluate, hpredict, hkind, hdirect⟩ :=
        exists_evaluate_eq_ok hseed hfitted
      have hclassify : classify q = classify p := by
        funext text
        rw [classify, classify, hpredict]
      have hattempt : within "evaluation failed" (p.attempt Pipeline.evaluate) =
          .ok (report, q) :=
        within_eq_ok_iff.mpr (attempt_eq_ok_iff.mpr hevaluate)
      change Agree files o texts
        (texts.mapM (classify p) >>= fun predictions =>
          .ok (.predicted ⟨loaded, p.kind.name, predictions⟩))
        (within "evaluation failed" (p.attempt Pipeline.evaluate) >>= fun (report, p) =>
          texts.mapM (classify p) >>= fun predictions =>
            .ok (.trained ⟨loaded, report, predictions⟩))
      rw [hattempt]
      change Agree files o texts _ (texts.mapM (classify q) >>= fun predictions =>
        .ok (.trained ⟨loaded, report, predictions⟩))
      rw [hclassify]
      cases hall : texts.mapM (classify p) with
      | error failure =>
          change Agree files o texts (.error failure) (.error failure)
          exact ⟨fun _ => Iff.rfl, nofun⟩
      | ok predictions =>
          rw [← hclassify] at hall
          obtain ⟨htexts, hlabels⟩ := mapM_classify_eq_ok hall
          constructor
          · intro failure
            exact iff_of_false nofun nofun
          · rintro outcome ⟨⟩
            refine ⟨loaded, report, predictions, q, ?_, rfl, htexts, hdirect, hlabels⟩
            rw [hkind]

end agree

/-- A seed on the command line is the one that counts. -/
theorem isSome_seed_of_option {files : Files} {o : TrainingOptions}
    (hseed : o.seed.isSome) :
    ∀ settings, Effective files o settings → settings.seed.isSome := by
  rintro _ ⟨base, -, rfl⟩
  obtain ⟨seed, hseed⟩ := Option.isSome_iff_exists.mp hseed
  simp [hseed]

/-- Two records in a file. -/
def twoRecords : Files := fun path =>
  if path = "news.json" then
    some "[[\"the market rose\", \"real\"], [\"aliens landed here\", \"fake\"]]"
  else none

theorem execute_agree_twoRecords :
    (∀ settings, Effective twoRecords ⟨"news.json", .nearest, none, some 9, none⟩
      settings → settings.seed.isSome) ∧
    Agree twoRecords ⟨"news.json", .nearest, none, some 9, none⟩ ["the market fell"]
      (execute twoRecords 3 ⟨.predict, ⟨"news.json", .nearest, none, some 9, none⟩,
        ["the market fell"], ⟨0, false, .json, false⟩⟩)
      (execute twoRecords 4 ⟨.train, ⟨"news.json", .nearest, none, some 9, none⟩,
        ["the market fell"], ⟨2, false, .human, true⟩⟩) :=
  ⟨isSome_seed_of_option rfl,
    execute_agree (isSome_seed_of_option rfl) ["the market fell"] 3 4
      ⟨0, false, .json, false⟩ ⟨2, false, .human, true⟩⟩

end CommandLine

end Credence
