/-
What is scored is what is served.  The metrics of a report compare the codes of the
records that were kept for scoring with the codes of the labels that the pipeline
gives to their texts.
-/
import Credence.Proofs.Pipeline.Failures

namespace Credence

theorem Trained.mem_texts_of_mem_items {texts : List String} {codes : List Nat}
    {p : Partition String Nat} (hp : ∀ e ∈ p, e ∈ Entry.number texts codes) :
    ∀ text ∈ p.items, text ∈ texts := by
  intro text htext
  obtain ⟨e, he, rfl⟩ := List.mem_map.mp htext
  exact List.mem_of_getElem? (Entry.mem_number.mp (hp e he)).1

namespace Pipeline

/-- The metrics compare the codes of a part with those of the labels that are served
for its texts. -/
def Scores (p : Pipeline) (labels : LabelPair) (part : Partition String Nat)
    (m : Metrics Float) : Prop :=
  ∃ (served : List String) (verdicts : List Verdict),
    part.items.map p.predict = served.map .ok ∧
    served.map labels.encode? = verdicts.map some ∧
    Credence.evaluate part.labels (verdicts.map (·.code)) = .ok m

section scores

variable {p : Pipeline} {t : Trained}
  (htrained : p.stage.trained? = some t)

include htrained

/-- The label of a text that is not blank is the name of its class. -/
theorem predict_eq_map {text : String} (htext : Text.trim text ≠ "") :
    p.predict text = (t.classify text).map p.settings.labels.decode := by
  have hblank := mt (Text.isBlankText_iff_trim text).mp htext
  simp only [predict, htrained, if_neg hblank]
  cases t.classify text with
  | ok v => rfl
  | error e => rfl

/-- The rows that were made of a part when the model was trained are given the same
classes as its texts are later on. -/
theorem scores_of_sound (hsound : t.Sound) {part : Partition String Nat}
    (htexts : ∀ text ∈ part.items, Text.trim text ≠ "") {m : Metrics Float}
    (hscore : (HeldOut.ofPart t.vectorizer part).score t.classifier = .ok m) :
    p.Scores p.settings.labels part m := by
  have hlabels := Settings.labels_problem?_eq_none p.valid
  obtain ⟨verdicts, hclassify, hevaluate⟩ := hsound.exists_classify_items part
  refine ⟨verdicts.map p.settings.labels.decode, verdicts, ?_, ?_, ?_⟩
  · calc part.items.map p.predict
      _ = (part.items.map t.classify).map
            (Except.map p.settings.labels.decode) := by
          rw [List.map_map]
          exact List.map_congr_left fun text htext =>
            predict_eq_map htrained (htexts text htext)
      _ = (verdicts.map p.settings.labels.decode).map .ok := by
          rw [hclassify, List.map_map, List.map_map]
          rfl
  · rw [List.map_map]
    refine List.map_congr_left ?_
    intro v _
    rw [Function.comp_apply, LabelPair.encode?_decode hlabels]
  · rw [← hevaluate, hscore]

end scores

/-- No text in use is blank. -/
theorem Lifecycle.trim_ne_empty {kind : ModelKind} {settings : Settings}
    {w : Random.Words} {taken : Option (List Record)} {s : Stage}
    (hlife : Lifecycle kind settings w taken s) :
    ∀ text ∈ s.texts, Text.trim text ≠ "" := by
  intro text htext
  rw [hlife.texts_eq] at htext
  obtain ⟨r, hr, rfl⟩ := List.mem_map.mp htext
  exact (of_decide_eq_true (List.mem_filter.mp hr).2).1

/-- A report on a pipeline agrees with what the pipeline serves and with the split of
its records. -/
structure ScoredAsServed (settings : Settings) (q : Pipeline)
    (split : Split String Nat) (report : TrainingReport) : Prop where
  report?_eq : q.stage.report? = some report
  /-- Scoring once more comes to the same. -/
  evaluate_eq : (q.act evaluate).1 = .ok report
  /-- The parts hold records in use, each with the code of its own. -/
  held_out : ∀ e ∈ split.validation ++ split.test,
    q.stage.texts[e.index]? = some e.item ∧
      q.stage.codes[e.index]? = some e.label
  test : q.Scores settings.labels split.test report.metrics
  isSome_validation_iff : report.validation.isSome ↔ split.validation ≠ []
  validation : ∀ m, report.validation = some m →
    q.Scores settings.labels split.validation m
  train_eq : report.summary.train = split.train.length
  validation_eq : report.summary.validation = split.validation.length
  test_eq : report.summary.test = split.test.length
  /-- Every record in use is in one of the parts, unless there are too many. -/
  sum_eq : report.summary.train + report.summary.validation +
    report.summary.test = Split.capped settings.maxSamples q.recordCount
  total_test : report.metrics.confusion.total = report.summary.test
  total_validation : ∀ m, report.validation = some m →
    m.confusion.total = report.summary.validation

theorem total_of_scores {p : Pipeline} {labels : LabelPair}
    {part : Partition String Nat} {m : Metrics Float}
    (h : p.Scores labels part m) : m.confusion.total = part.length := by
  obtain ⟨_, _, -, -, hevaluate⟩ := h
  rw [total_of_evaluate_eq_ok hevaluate, Partition.labels, List.length_map]

section evaluated

variable {q : Pipeline} {w : Random.Words} {taken : Option (List Record)}
  (hlife : Lifecycle q.kind q.settings w taken q.stage)
  (hevaluated : q.stage.milestone = .evaluated)

include hlife hevaluated

/-- What a pipeline holds once it is evaluated. -/
theorem Lifecycle.exists_report :
    ∃ t r, q.stage.trained? = some t ∧ q.stage.report? = some r ∧
      Trained.learn q.kind q.settings w q.stage.texts q.stage.codes = .ok t ∧
      t.report = .ok r := by
  generalize q.stage = s at hlife hevaluated ⊢
  cases hlife with
  | idle => cases hevaluated
  | loaded hsome => cases hevaluated
  | fitted hsome hlearn => cases hevaluated
  | evaluated hsome hlearn hreport =>
      exact ⟨_, _, rfl, rfl, hlearn, hreport⟩

theorem Lifecycle.exists_scoredAsServed :
    ∃ report, ScoredAsServed q.settings q
      (q.settings.split w q.stage.texts q.stage.codes) report := by
  obtain ⟨t, r, htrained, hr, hlearn, hreport⟩ :=
    hlife.exists_report hevaluated
  have hlength := hlife.length_eq
  have hsound := hlife.sound q.valid htrained
  obtain ⟨c, ht⟩ :=
    Trained.exists_ofSplit_of_learn_eq_ok q.valid hlength hlearn
  obtain ⟨htest, hpresent, hvalidation, -, hsummary⟩ :=
    Trained.scores_of_report_eq_ok hreport
  have hscores {part : Partition String Nat} {m : Metrics Float}
      (hpart : ∀ e ∈ part, e ∈ Entry.number q.stage.texts q.stage.codes)
      (hscore : (HeldOut.ofPart t.vectorizer part).score t.classifier = .ok m) :
      q.Scores q.settings.labels part m := by
    refine scores_of_sound htrained hsound ?_ hscore
    intro text htext
    exact hlife.trim_ne_empty text
      (Trained.mem_texts_of_mem_items hpart text htext)
  have htest : q.Scores q.settings.labels
      (q.settings.split w q.stage.texts q.stage.codes).test r.metrics := by
    refine hscores (fun e he => Split.mem_number_of_mem_test he) ?_
    rw [← htest, ht]
    rfl
  have hvalidation (m : Metrics Float) (hm : r.validation = some m) :
      q.Scores q.settings.labels
        (q.settings.split w q.stage.texts q.stage.codes).validation m := by
    refine hscores (fun e he => Split.mem_number_of_mem_validation he) ?_
    rw [← hvalidation m hm, ht]
    rfl
  have hscore : q.score = .ok r := by
    rw [score, htrained]
    exact hreport
  obtain ⟨htrainSize, hvalidationSize, htestSize⟩ :=
    Trained.sizes_of_learn_eq_ok q.valid hlength hlearn
  rw [← hsummary] at htrainSize hvalidationSize htestSize
  exact ⟨r, {
    report?_eq := hr
    evaluate_eq := by
      rw [act_evaluate, if_neg (by simp [hevaluated]), hscore]
    held_out := by
      intro e he
      rcases List.mem_append.mp he with he | he
      · exact Entry.mem_number.mp (Split.mem_number_of_mem_validation he)
      · exact Entry.mem_number.mp (Split.mem_number_of_mem_test he)
    test := htest
    isSome_validation_iff := by
      rw [hpresent, ht]
      simp [Trained.ofSplit, HeldOut.ofPart, Partition.labels]
    validation := hvalidation
    train_eq := htrainSize
    validation_eq := hvalidationSize
    test_eq := htestSize
    sum_eq := by
      rw [htrainSize, hvalidationSize, htestSize, recordCount, ← hlength]
      exact Split.size_drawn hlength
    total_test := by rw [total_of_scores htest, htestSize]
    total_validation := by
      intro m hm
      rw [total_of_scores (hvalidation m hm), hvalidationSize] }⟩

end evaluated

/-- Training that has records to learn from ends with a report. -/
theorem milestone_run_train (p : Pipeline) (fallback : UInt64)
    {records : List Record}
    (hsize :
      p.settings.trainSize (usable p.settings.labels records).length ≠ 0)
    (hsome : usable p.settings.labels records ≠ []) :
    (p.run fallback [.train records]).2.stage.milestone = .evaluated := by
  cases hanswer : (p.act (train fallback records)).1 with
  | error e =>
      have hreason := (train_error_iff p fallback records).mp hanswer
      rw [← usable_eq_nil_iff] at hreason
      rcases hreason with ⟨hnone, -⟩ | ⟨-, hzero, -⟩
      · exact absurd hnone hsome
      · exact absurd hzero hsize
  | ok r =>
      rw [act_train] at hanswer
      change (p.perform fallback (.train records)).2.stage.milestone = _
      rw [perform, act_map, act_train]
      rcases hcycle : (p.withStage .start).act (cycle fallback records) with
        ⟨e | r', next⟩
      · rw [hcycle] at hanswer
        cases hanswer
      · obtain ⟨_, loaded, -, hrest⟩ := act_bind_eq_ok hcycle
        obtain ⟨_, fitted, -, hevaluate⟩ := act_bind_eq_ok hrest
        obtain ⟨-, -, rfl⟩ := act_evaluate_eq_ok hevaluate
        rfl

/-- Whatever was done with a pipeline that is evaluated now, its report is what
comes of comparing the labels that it serves with those of the records that its
split has kept for scoring. -/
theorem run_scoredAsServed {kind : ModelKind} {settings : Settings}
    {p : Pipeline} {seed : UInt64} (hmake : make kind settings = .ok p)
    (hseed : settings.seed = some seed) (fallback : UInt64)
    (ops : List Operation) {q : Pipeline} (hq : (p.run fallback ops).2 = q)
    (hevaluated : q.stage.milestone = .evaluated) :
    ∃ split report,
      Split.make settings.ratios settings.maxSamples (Random.seeded seed)
        q.stage.texts q.stage.codes = .ok split ∧
      ScoredAsServed settings q split report := by
  have hlife := run_lifecycle_of_make hmake fallback ops
  obtain ⟨rfl, rfl, -⟩ := make_eq_ok_iff.mp hmake
  obtain ⟨s, hs⟩ := run_steady p fallback ops
  have hwords : p.settings.words fallback = Random.seeded seed := by
    rw [Settings.words, hseed]
    rfl
  rw [← hq, hs] at hevaluated ⊢
  rw [hs, hwords] at hlife
  obtain ⟨report, hreport⟩ := hlife.exists_scoredAsServed hevaluated
  exact ⟨_, report, Split.make_eq_ok _ _
    (Settings.ratios_problem?_eq_none p.valid) hlife.length_eq, hreport⟩

/-- Of ten records, seven are learnt from, one is for validation and two are for the
test. -/
theorem run_scoredAsServed_ten_records :
    ∃ split report,
      Split.make (seeded .tree 7).settings.ratios none (Random.seeded 7)
        ((seeded .tree 7).run 0 [.train (List.replicate 10
          ⟨"the market rose", "real"⟩)]).2.stage.texts
        ((seeded .tree 7).run 0 [.train (List.replicate 10
          ⟨"the market rose", "real"⟩)]).2.stage.codes = .ok split ∧
      ScoredAsServed (seeded .tree 7).settings
        ((seeded .tree 7).run 0 [.train (List.replicate 10
          ⟨"the market rose", "real"⟩)]).2 split report :=
  run_scoredAsServed (make_seeded .tree 7) rfl 0 _ rfl
    (milestone_run_train _ 0 (by decide +kernel) (by decide +kernel))

end Pipeline

end Credence
