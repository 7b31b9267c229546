/-
A model depends on nothing but the records that it has learnt from.  Which ones
these are is settled by their number, the seed, the shares and the limit; all other
records are only there to be scored.
-/
import Credence.Proofs.Pipeline.Failures

namespace Credence

namespace Pipeline

/-- The records in use are split, and those at exactly these places come first. -/
def LearnsFrom (p : Pipeline) (w : Random.Words) (places : List Nat) : Prop :=
  ∃ split, Split.make p.settings.ratios p.settings.maxSamples w p.stage.texts
      p.stage.codes = .ok split ∧
    split.train.indices = places

theorem learnsFrom_trainPlaces (p : Pipeline) (w : Random.Words)
    (hlength : p.stage.texts.length = p.stage.codes.length) :
    p.LearnsFrom w (p.settings.trainPlaces w p.recordCount) := by
  have hratios := Settings.ratios_problem?_eq_none p.valid
  refine ⟨_, Split.make_eq_ok _ w hratios hlength, ?_⟩
  rw [Split.indices_train hlength, hlength]
  rfl

/-- What two pipelines have in common that have learnt from the same texts. -/
structure SameModel (analyzer : Analysis.Analyzer) (texts : List String)
    (p q : Pipeline) (t u : Trained) : Prop where
  trained_eq : p.stage.trained? = some t
  trained_eq' : q.stage.trained? = some u
  /-- Terms, weights and the number of documents. -/
  vectorizer_eq : t.vectorizer = u.vectorizer
  classifier_eq : t.classifier = u.classifier
  summary_eq : t.summary = u.summary
  predict_eq : ∀ text, p.predict text = q.predict text
  nodup_terms : t.vectorizer.table.vocabulary.terms.toList.Nodup
  mem_terms_iff : ∀ term, term ∈ t.vectorizer.table.vocabulary.terms ↔
    ∃ text ∈ texts, term ∈ analyzer.terms text
  /-- Both can be scored, and only the metrics may differ. -/
  evaluate_eq : ∃ r r', (p.act evaluate).1 = .ok r ∧
    (q.act evaluate).1 = .ok r' ∧ r.message = r'.message ∧
    r.summary = r'.summary ∧ r.validation.isSome = r'.validation.isSome

theorem exists_evaluate_fit {p : Pipeline} (hready : p.stage.Ready)
    {fallback : UInt64} {t : Trained} (hlearn : p.learn fallback = .ok t) :
    ∃ r, t.report = .ok r ∧
      ((p.withStage (p.stage.fit t)).act evaluate).1 = .ok r := by
  have hsound : t.Sound := (ready_fit fallback hready hlearn).sound t rfl
  obtain ⟨r, hr⟩ := hsound.exists_report_eq_ok
  have hscore : (p.withStage (p.stage.fit t)).score = .ok r := hr
  refine ⟨r, hr, ?_⟩
  rw [act_evaluate, if_neg (by simp [Stage.fit]), hscore]

section agree

variable {p q : Pipeline} (hkind : p.kind = q.kind)
  (hsettings : p.settings = q.settings) (hp : p.stage.Ready)
  (hq : q.stage.Ready) {fallback other : UInt64}
  (hwords : p.settings.words fallback = p.settings.words other)
  (hcount : p.recordCount = q.recordCount)
  (hagree : ∀ i ∈ p.settings.trainPlaces (p.settings.words fallback)
      p.recordCount,
    p.stage.texts[i]? = q.stage.texts[i]? ∧
      p.stage.codes[i]? = q.stage.codes[i]?)

include hkind hsettings hp hq hwords hcount hagree

theorem map_model_learn_eq :
    (p.learn fallback).map Trained.model = (q.learn other).map Trained.model := by
  rw [learn, learn, ← hkind, ← hsettings, ← hwords]
  apply Trained.map_model_learn_eq_of_agree p.valid hp.length_eq hq.length_eq
  · rw [hp.length_eq, hq.length_eq]
    exact hcount
  · rw [hp.length_eq]
    exact hagree

theorem fit_answer_eq
    (hidle : p.stage.milestone = .idle ↔ q.stage.milestone = .idle) :
    (p.act (fit fallback)).1 = (q.act (fit other)).1 := by
  have hmodel :=
    map_model_learn_eq hkind hsettings hp hq hwords hcount hagree
  rw [act_fit, act_fit]
  by_cases hearly : p.stage.milestone = .idle
  · rw [if_pos hearly, if_pos (hidle.mp hearly)]
  · rw [if_neg hearly, if_neg (mt hidle.mpr hearly)]
    cases ht : p.learn fallback with
    | error e =>
        cases hu : q.learn other with
        | error e' =>
            rw [ht, hu] at hmodel
            cases hmodel
            rfl
        | ok u => rw [ht, hu] at hmodel; cases hmodel
    | ok t =>
        cases hu : q.learn other with
        | error e => rw [ht, hu] at hmodel; cases hmodel
        | ok u =>
            rw [ht, hu] at hmodel
            have hsame : t.model = u.model := Except.ok.inj hmodel
            exact congrArg (fun m => Except.ok m.2.2) hsame

theorem exists_sameModel_of_fit {s : TrainingSummary} {p' : Pipeline}
    (hidle : p.stage.milestone = .idle ↔ q.stage.milestone = .idle)
    (hfit : p.act (fit fallback) = (.ok s, p')) :
    ∃ q' t u, q.act (fit other) = (.ok s, q') ∧
      SameModel p.settings.vectorizer.analyzer
        ((p.settings.trainPlaces (p.settings.words fallback)
          p.recordCount).filterMap (p.stage.texts[·]?)) p' q' t u := by
  have hanswer : (q.act (fit other)).1 = .ok s := by
    rw [← fit_answer_eq hkind hsettings hp hq hwords hcount hagree hidle, hfit]
  have hfit' : q.act (fit other) = (.ok s, (q.act (fit other)).2) := by
    rw [← hanswer]
  obtain ⟨t, -, ht, -, hp'⟩ := act_fit_eq_ok hfit
  obtain ⟨u, -, hu, -, hq'⟩ := act_fit_eq_ok hfit'
  rw [hq'] at hfit'
  have hmodel :=
    map_model_learn_eq hkind hsettings hp hq hwords hcount hagree
  rw [ht, hu] at hmodel
  have hsame : t.model = u.model := Except.ok.inj hmodel
  have hvectorizer : t.vectorizer = u.vectorizer := congrArg (·.1) hsame
  have hclassifier : t.classifier = u.classifier := congrArg (·.2.1) hsame
  have hsummary : t.summary = u.summary := congrArg (·.2.2) hsame
  have hclassify : t.classify = u.classify := by
    funext text
    rw [Trained.classify, Trained.classify, hvectorizer, hclassifier]
  refine ⟨_, t, u, hfit', ?_⟩
  rw [hp']
  exact {
    trained_eq := rfl
    trained_eq' := rfl
    vectorizer_eq := hvectorizer
    classifier_eq := hclassifier
    summary_eq := hsummary
    predict_eq := by
      intro text
      simp only [predict, withStage, Stage.fit, hclassify, hsettings]
    nodup_terms := Trained.nodup_terms_of_learn_eq_ok p.valid hp.length_eq ht
    mem_terms_iff := by
      intro term
      rw [Trained.mem_terms_of_learn_eq_ok p.valid hp.length_eq ht,
        hp.length_eq]
      simp only [List.mem_filterMap]
      constructor
      · rintro ⟨i, hi, text, htext, hterm⟩
        exact ⟨text, ⟨i, hi, htext⟩, hterm⟩
      · rintro ⟨text, ⟨i, hi, htext⟩, hterm⟩
        exact ⟨i, hi, text, htext, hterm⟩
    evaluate_eq := by
      obtain ⟨r, hr, hevaluate⟩ := exists_evaluate_fit hp ht
      obtain ⟨r', hr', hevaluate'⟩ := exists_evaluate_fit hq hu
      obtain ⟨hmessage, hnumbers, hpresent⟩ := Trained.report_frame hr
      obtain ⟨hmessage', hnumbers', hpresent'⟩ := Trained.report_frame hr'
      have hsize : t.validation.codes.length = u.validation.codes.length := by
        rw [Trained.length_validation_of_learn_eq_ok p.valid hp.length_eq ht,
          Trained.length_validation_of_learn_eq_ok q.valid hq.length_eq hu,
          hsummary]
      refine ⟨r, r', hevaluate, hevaluate', ?_, ?_, ?_⟩
      · rw [hmessage, hmessage', hsummary]
      · rw [hnumbers, hnumbers', hsummary]
      · rw [hpresent, hpresent', Bool.eq_iff_iff]
        simp [← List.length_eq_zero_iff, hsize] }

end agree

/-- Training comes to the same in two pipelines that may differ in the records at
other places. -/
structure SameTraining (settings : Settings) (w : Random.Words)
    (places : List Nat) (fallback other : UInt64) (p q : Pipeline) : Prop where
  learnsFrom : p.LearnsFrom w places
  learnsFrom' : q.LearnsFrom w places
  /-- Both succeed, or both fail with the same error. -/
  answer_eq : (p.act (fit fallback)).1 = (q.act (fit other)).1
  model_eq : ∀ s p', p.act (fit fallback) = (.ok s, p') →
    ∃ q' t u, q.act (fit other) = (.ok s, q') ∧
      SameModel settings.vectorizer.analyzer
        (places.filterMap (p.stage.texts[·]?)) p' q' t u

/-- Two histories of a pipeline that have led to as many records, with the same text
and code at each place that is learnt from, end in the same training. -/
theorem fit_eq_of_agree {kind : ModelKind} {settings : Settings} {p : Pipeline}
    {seed : UInt64} (hmake : make kind settings = .ok p)
    (hseed : settings.seed = some seed) (fallback other : UInt64)
    (ops ops' : List Operation) {q q' : Pipeline}
    (hq : (p.run fallback ops).2 = q) (hq' : (p.run other ops').2 = q')
    (hcount : q.recordCount = q'.recordCount) {places : List Nat}
    (hplaces : settings.trainPlaces (Random.seeded seed) q.recordCount = places)
    (hagree : ∀ i ∈ places, q.stage.texts[i]? = q'.stage.texts[i]? ∧
      q.stage.codes[i]? = q'.stage.codes[i]?) :
    SameTraining settings (Random.seeded seed) places fallback other q q' := by
  have hlife := run_lifecycle_of_make hmake fallback ops
  have hlife' := run_lifecycle_of_make hmake other ops'
  obtain ⟨rfl, rfl, -⟩ := make_eq_ok_iff.mp hmake
  obtain ⟨s, hs⟩ := run_steady p fallback ops
  obtain ⟨s', hs'⟩ := run_steady p other ops'
  have hwords (f : UInt64) : p.settings.words f = Random.seeded seed := by
    rw [Settings.words, hseed]
    rfl
  rw [← hq, hs] at hcount hplaces hagree ⊢
  rw [← hq', hs'] at hcount hagree ⊢
  rw [hs, withStage_stage] at hlife
  rw [hs', withStage_stage] at hlife'
  subst hplaces
  have hready : (p.withStage s).stage.Ready := hlife.ready p.valid
  have hready' : (p.withStage s').stage.Ready := hlife'.ready p.valid
  have hidle : s.milestone = .idle ↔ s'.milestone = .idle := by
    rw [← hlife.texts_eq_nil_iff, ← hlife'.texts_eq_nil_iff,
      ← List.length_eq_zero_iff, ← List.length_eq_zero_iff, hlife.length_eq,
      hlife'.length_eq]
    exact Eq.congr_left hcount
  have hkind : (p.withStage s).kind = (p.withStage s').kind := rfl
  have hsettings : (p.withStage s).settings = (p.withStage s').settings := rfl
  have hsame : p.settings.words fallback = p.settings.words other :=
    (hwords fallback).trans (hwords other).symm
  have hfrom := learnsFrom_trainPlaces (p.withStage s) (Random.seeded seed)
    hready.length_eq
  have hfrom' := learnsFrom_trainPlaces (p.withStage s') (Random.seeded seed)
    hready'.length_eq
  rw [← hcount] at hfrom'
  rw [← hwords fallback] at hagree hfrom hfrom' ⊢
  exact {
    learnsFrom := hfrom
    learnsFrom' := hfrom'
    answer_eq := fit_answer_eq hkind hsettings hready hready' hsame hcount
      hagree hidle
    model_eq := fun _ _ hfit => exists_sameModel_of_fit hkind hsettings hready
      hready' hsame hcount hagree hidle hfit }

/-- Of two records, the second one is learnt from with seed 7.  The first one may be
any other. -/
theorem fit_eq_of_agree_second_record :
    SameTraining (seeded .logistic 7).settings (Random.seeded 7) [1] 0 0
      ((seeded .logistic 7).run 0 [.load [⟨"aliens landed here", "fake"⟩,
        ⟨"the market rose", "real"⟩]]).2
      ((seeded .logistic 7).run 0 [.load [⟨"the senate voted", "real"⟩,
        ⟨"the market rose", "real"⟩]]).2 :=
  fit_eq_of_agree (make_seeded .logistic 7) rfl 0 0 _ _ rfl rfl
    (by decide +kernel) (by decide +kernel) (by decide +kernel)

end Pipeline

end Credence
