/-
One training run.  It fails for one reason only, an empty first part, and what it
leaves behind always fits together: the classifier expects rows as wide as those
that the vectorizer makes, also of the parts that were kept for scoring.
-/
import Credence.Pipeline.Training
import Credence.Proofs.Classifier
import Credence.Proofs.Metrics
import Credence.Proofs.Split
import Credence.Proofs.Vectorizer

namespace Credence

namespace Settings

theorem ratios_problem?_eq_none {s : Settings} (h : s.problem? = none) :
    s.ratios.problem? = none := by
  simp only [problem?, Option.orElse_eq_none] at h
  exact h.1

theorem labels_problem?_eq_none {s : Settings} (h : s.problem? = none) :
    s.labels.problem? = none := by
  simp only [problem?, Option.orElse_eq_none] at h
  exact h.2.1

theorem vectorizer_problem?_eq_none {s : Settings} (h : s.problem? = none) :
    s.vectorizer.problem? = none := by
  simp only [problem?, Option.orElse_eq_none] at h
  exact h.2.2.1

theorem classifier_problem?_eq_none {s : Settings} (h : s.problem? = none) :
    s.classifier.problem? = none := by
  simp only [problem?, Option.orElse_eq_none] at h
  exact h.2.2.2.1

/-- How many of `n` records are learnt from. -/
def trainSize (s : Settings) (n : Nat) : Nat :=
  (s.ratios.sizes (Split.capped s.maxSamples n)).train

/-- The places of the records that are learnt from, among `n` records. -/
def trainPlaces (s : Settings) (w : Random.Words) (n : Nat) : List Nat :=
  Split.trainPlaces s.ratios s.maxSamples w n

def split (s : Settings) (w : Random.Words) (texts : List String)
    (codes : List Nat) : Split String Nat :=
  Split.drawn s.ratios s.maxSamples w texts codes

/-- The vectorizer that learns from the first part of a split. -/
def vectorizerOf (s : Settings) (p : Split String Nat) : Vectorizer :=
  (Vectorizer.fresh s.vectorizer).fit p.train.items

end Settings

namespace HeldOut

def ofPart (v : Vectorizer) (p : Partition String Nat) : HeldOut :=
  ⟨p.items.map v.row, p.labels⟩

/-- A part whose rows have some width, each with a binary code. -/
structure Fits (h : HeldOut) (width : Nat) : Prop where
  size_eq : ∀ row ∈ h.rows, row.size = width
  length_eq : h.rows.length = h.codes.length
  binary : ∀ code ∈ h.codes, code = 0 ∨ code = 1

theorem make_eq_ok {v : Vectorizer} (hv : v.table?.isSome)
    (p : Partition String Nat) : make v p = .ok (ofPart v p) := by
  rw [make, Vectorizer.transformAll_eq_ok hv]
  rfl

theorem ofPart_fits (v : Vectorizer) {p : Partition String Nat}
    (hbinary : ∀ code ∈ p.labels, code = 0 ∨ code = 1) :
    (ofPart v p).Fits v.table.vocabulary.size where
  size_eq := by
    intro row hrow
    obtain ⟨text, -, rfl⟩ := List.mem_map.mp hrow
    exact v.size_row text
  length_eq := by simp [ofPart, Partition.items, Partition.labels]
  binary := hbinary

/-- A part that fits can be scored. -/
theorem Fits.exists_score_eq_ok {h : HeldOut} {c : Classifier} {width : Nat}
    (hfits : h.Fits width) (hc : c.Expects width) :
    ∃ m, h.score c = .ok m := by
  obtain ⟨guesses, hguesses, hlength⟩ :=
    hc.exists_predictAll_eq_ok hfits.size_eq
  obtain ⟨truth, htruth⟩ := Verdict.exists_map_code_eq hfits.binary
  have hsame : truth.length = guesses.length := by
    rw [hlength, hfits.length_eq, ← htruth, List.length_map]
  refine ⟨Metrics.ofPairs (truth.zip guesses), ?_⟩
  rw [score, hguesses, ← htruth]
  exact evaluate_eq_ok hsame

end HeldOut

namespace Trained

/-- All parts of a training run agree on the width of rows. -/
structure Sound (t : Trained) : Prop where
  learnt : t.vectorizer.table?.isSome
  expects : t.classifier.Expects t.vectorizer.table.vocabulary.size
  validation : t.validation.Fits t.vectorizer.table.vocabulary.size
  test : t.test.Fits t.vectorizer.table.vocabulary.size

theorem Sound.exists_report_eq_ok {t : Trained} (h : t.Sound) :
    ∃ r, t.report = .ok r := by
  obtain ⟨m, hm⟩ := h.test.exists_score_eq_ok h.expects
  obtain ⟨m', hm'⟩ := h.validation.exists_score_eq_ok h.expects
  by_cases hempty : t.validation.codes.isEmpty
  · refine ⟨⟨announce t.summary, m, none, t.summary⟩, ?_⟩
    simp only [report, hm, hempty, if_true]
    rfl
  · refine ⟨⟨announce t.summary, m, some m', t.summary⟩, ?_⟩
    simp only [report, hm, hempty, hm']
    rfl

theorem Sound.exists_classify_eq_ok {t : Trained} (h : t.Sound)
    (text : String) : ∃ v, t.classify text = .ok v := by
  rw [classify, Vectorizer.transform_eq_ok h.learnt]
  exact h.expects.exists_predict_eq_ok _ (t.vectorizer.size_row text)

/-- What a split and a classifier that has learnt from it leave behind. -/
def ofSplit (kind : ModelKind) (s : Settings) (p : Split String Nat)
    (c : Classifier) : Trained where
  vectorizer := s.vectorizerOf p
  classifier := c
  validation := .ofPart (s.vectorizerOf p) p.validation
  test := .ofPart (s.vectorizerOf p) p.test
  summary := {
    kind
    train := p.train.length
    validation := p.validation.labels.length
    test := p.test.labels.length
    vocabulary := (s.vectorizerOf p).table.vocabulary.size }

/-- What is left of a training run without the parts that were kept for scoring. -/
def model (t : Trained) : Vectorizer × Classifier × TrainingSummary :=
  (t.vectorizer, t.classifier, t.summary)

/-- The codes of all parts are codes of the records. -/
theorem mem_codes_of_mem_labels {texts : List String} {codes : List Nat}
    {p : Partition String Nat} (hp : ∀ e ∈ p, e ∈ Entry.number texts codes) :
    ∀ code ∈ p.labels, code ∈ codes := by
  intro code hcode
  obtain ⟨e, he, rfl⟩ := List.mem_map.mp hcode
  exact List.mem_of_getElem? (Entry.mem_number.mp (hp e he)).2

/-- The classifier learns from any first part that is not empty, and what comes
out fits together. -/
theorem exists_fit_eq_ok (kind : ModelKind) {s : Settings}
    (hvalid : s.problem? = none) {p : Split String Nat} (hne : p.train ≠ [])
    (htrain : ∀ code ∈ p.train.labels, code = 0 ∨ code = 1)
    (hvalidation : ∀ code ∈ p.validation.labels, code = 0 ∨ code = 1)
    (htest : ∀ code ∈ p.test.labels, code = 0 ∨ code = 1) :
    ∃ c, (Classifier.fresh kind s.classifier).fit
        (p.train.items.map (s.vectorizerOf p).row) p.train.labels = .ok c ∧
      (ofSplit kind s p c).Sound := by
  have hwidth : ∀ row ∈ p.train.items.map (s.vectorizerOf p).row,
      row.size = (s.vectorizerOf p).table.vocabulary.size := by
    intro row hrow
    obtain ⟨text, -, rfl⟩ := List.mem_map.mp hrow
    exact (s.vectorizerOf p).size_row text
  have hclassifier : (Classifier.fresh kind s.classifier).problem? = none := by
    rw [Classifier.problem?_fresh]
    exact ClassifierSettings.problemOf?_eq_none
      (Settings.classifier_problem?_eq_none hvalid) kind
  have hlearnable : Learnable (p.train.items.map (s.vectorizerOf p).row)
      p.train.labels := {
    length_eq := by simp [Partition.items, Partition.labels]
    rows_ne_nil := by simpa [Partition.items] using hne
    size_eq := fun row hrow other hother =>
      (hwidth row hrow).trans (hwidth other hother).symm
    binary := htrain }
  obtain ⟨c, hfit, hc⟩ :=
    Classifier.exists_fit_eq_ok hclassifier hlearnable hwidth
  refine ⟨c, hfit, ?_⟩
  exact {
    learnt := Vectorizer.isSome_table?_fit _ _
    expects := hc
    validation := HeldOut.ofPart_fits _ hvalidation
    test := HeldOut.ofPart_fits _ htest }

section learn

variable {s : Settings} (hvalid : s.problem? = none) {texts : List String}
  {codes : List Nat} (hlength : texts.length = codes.length)
  (kind : ModelKind) (w : Random.Words)

include hvalid hlength

/-- With settings that hold, only the classifier can refuse to learn. -/
theorem learn_eq :
    learn kind s w texts codes =
      ((Classifier.fresh kind s.classifier).fit
        ((s.split w texts codes).train.items.map
          (s.vectorizerOf (s.split w texts codes)).row)
        (s.split w texts codes).train.labels).map
        (ofSplit kind s (s.split w texts codes)) := by
  have hv := Vectorizer.isSome_table?_fit (.fresh s.vectorizer)
    (s.split w texts codes).train.items
  have hsplit := Split.make_eq_ok s.maxSamples w
    (Settings.ratios_problem?_eq_none hvalid) hlength
  have hmake := Vectorizer.make_eq_ok
    (Settings.vectorizer_problem?_eq_none hvalid)
  have hclassifier := Classifier.make_eq_ok
    (Settings.classifier_problem?_eq_none hvalid) kind
  have hrows := Vectorizer.transformAll_eq_ok hv
    (s.split w texts codes).train.items
  change _ = Except.ok (s.split w texts codes) at hsplit
  rw [learn, hsplit, hmake, hclassifier]
  change (Vectorizer.transformAll (.fit (.fresh s.vectorizer) _) _ >>= _) = _
  rw [hrows]
  change (Classifier.fit _ _ _ >>= _) = _
  cases hfit : (Classifier.fresh kind s.classifier).fit
      ((s.split w texts codes).train.items.map
        (s.vectorizerOf (s.split w texts codes)).row)
      (s.split w texts codes).train.labels with
  | error e => rw [Settings.vectorizerOf] at hfit; rw [hfit]; rfl
  | ok c =>
      rw [Settings.vectorizerOf] at hfit
      rw [hfit]
      change (HeldOut.make _ _ >>= _) = _
      rw [HeldOut.make_eq_ok hv]
      change (HeldOut.make _ _ >>= _) = _
      rw [HeldOut.make_eq_ok hv]
      rfl

/-- With no record to learn from, nothing is learnt. -/
theorem learn_eq_error (hempty : s.trainSize texts.length = 0) :
    learn kind s w texts codes = .error .emptyTrainingSet := by
  have htrain : (s.split w texts codes).train = [] := by
    rw [← List.length_eq_zero_iff, Settings.split, Split.length_train hlength]
    exact hempty
  rw [learn_eq hvalid hlength, htrain]
  change Except.map _ (Classifier.fit _ [] []) = _
  rw [Classifier.fit_nil]
  rfl

variable (hbinary : ∀ code ∈ codes, code = 0 ∨ code = 1)

include hbinary

/-- With a record to learn from, everything goes well. -/
theorem exists_learn_eq_ok (hsome : s.trainSize texts.length ≠ 0) :
    ∃ t, learn kind s w texts codes = .ok t ∧ t.Sound := by
  have hne : (s.split w texts codes).train ≠ [] := by
    rw [← List.length_pos_iff, Settings.split, Split.length_train hlength]
    exact Nat.pos_of_ne_zero hsome
  have hlabels {p : Partition String Nat}
      (hp : ∀ e ∈ p, e ∈ Entry.number texts codes) :
      ∀ code ∈ p.labels, code = 0 ∨ code = 1 := fun code hcode =>
    hbinary code (mem_codes_of_mem_labels hp code hcode)
  obtain ⟨c, hfit, hsound⟩ := exists_fit_eq_ok kind hvalid hne
    (hlabels fun e he => Split.mem_number_of_mem_train he)
    (hlabels fun e he => Split.mem_number_of_mem_validation he)
    (hlabels fun e he => Split.mem_number_of_mem_test he)
  refine ⟨ofSplit kind s (s.split w texts codes) c, ?_, hsound⟩
  rw [learn_eq hvalid hlength, hfit]
  rfl

/-- Training fails exactly where no record is left to learn from. -/
theorem learn_eq_error_iff {e : Error} :
    learn kind s w texts codes = .error e ↔
      s.trainSize texts.length = 0 ∧ e = .emptyTrainingSet := by
  by_cases hempty : s.trainSize texts.length = 0
  · rw [learn_eq_error hvalid hlength kind w hempty]
    simp [hempty, eq_comm]
  · obtain ⟨t, ht, -⟩ :=
      exists_learn_eq_ok hvalid hlength kind w hbinary hempty
    simp [ht, hempty]

theorem sound_of_learn_eq_ok {t : Trained}
    (h : learn kind s w texts codes = .ok t) : t.Sound := by
  have hsome : s.trainSize texts.length ≠ 0 := by
    intro hempty
    rw [learn_eq_error hvalid hlength kind w hempty] at h
    cases h
  obtain ⟨t', ht', hsound⟩ :=
    exists_learn_eq_ok hvalid hlength kind w hbinary hsome
  rw [ht'] at h
  cases h
  exact hsound

end learn

section agree

variable {s : Settings} (hvalid : s.problem? = none) {texts texts' : List String}
  {codes codes' : List Nat} (hlength : texts.length = codes.length)
  (hlength' : texts'.length = codes'.length)
  (hcount : texts.length = texts'.length) (kind : ModelKind) {w : Random.Words}
  (hagree : ∀ i ∈ s.trainPlaces w texts.length,
    texts[i]? = texts'[i]? ∧ codes[i]? = codes'[i]?)

include hlength hlength' hcount hagree

/-- The other parts count by their sizes only. -/
theorem model_ofSplit_eq_of_agree (c : Classifier) :
    (ofSplit kind s (s.split w texts codes) c).model =
      (ofSplit kind s (s.split w texts' codes') c).model := by
  have htrain : (s.split w texts codes).train =
      (s.split w texts' codes').train :=
    Split.train_eq_of_agree hlength hlength' hcount hagree
  have hvalidation : (s.split w texts codes).validation.length =
      (s.split w texts' codes').validation.length := by
    rw [Settings.split, Settings.split, Split.length_validation hlength,
      Split.length_validation hlength', hcount]
  have htest : (s.split w texts codes).test.length =
      (s.split w texts' codes').test.length := by
    rw [Settings.split, Settings.split, Split.length_test hlength,
      Split.length_test hlength', hcount]
  simp only [model, ofSplit, Settings.vectorizerOf, Partition.labels,
    List.length_map, htrain, hvalidation, htest]

include hvalid

/-- Records that agree at the places that are learnt from give the same model, or
the same error. -/
theorem map_model_learn_eq_of_agree :
    (learn kind s w texts codes).map model =
      (learn kind s w texts' codes').map model := by
  have htrain : (s.split w texts codes).train =
      (s.split w texts' codes').train :=
    Split.train_eq_of_agree hlength hlength' hcount hagree
  have hvectorizer : s.vectorizerOf (s.split w texts codes) =
      s.vectorizerOf (s.split w texts' codes') := by
    rw [Settings.vectorizerOf, Settings.vectorizerOf, htrain]
  rw [learn_eq hvalid hlength, learn_eq hvalid hlength', hvectorizer, htrain]
  cases (Classifier.fresh kind s.classifier).fit
      ((s.split w texts' codes').train.items.map
        (s.vectorizerOf (s.split w texts' codes')).row)
      (s.split w texts' codes').train.labels with
  | error e => simp only [Except.map]
  | ok c =>
      simp only [Except.map]
      rw [model_ofSplit_eq_of_agree hlength hlength' hcount kind hagree c]

end agree

section result

variable {kind : ModelKind} {s : Settings} (hvalid : s.problem? = none)
  {w : Random.Words} {texts : List String} {codes : List Nat}
  (hlength : texts.length = codes.length) {t : Trained}
  (hlearn : learn kind s w texts codes = .ok t)

include hvalid hlength hlearn

theorem exists_ofSplit_of_learn_eq_ok :
    ∃ c, t = ofSplit kind s (s.split w texts codes) c := by
  rw [learn_eq hvalid hlength] at hlearn
  cases hfit : (Classifier.fresh kind s.classifier).fit
      ((s.split w texts codes).train.items.map
        (s.vectorizerOf (s.split w texts codes)).row)
      (s.split w texts codes).train.labels with
  | error e => rw [hfit] at hlearn; cases hlearn
  | ok c =>
      rw [hfit] at hlearn
      cases hlearn
      exact ⟨c, rfl⟩

theorem length_validation_of_learn_eq_ok :
    t.validation.codes.length = t.summary.validation := by
  obtain ⟨c, rfl⟩ := exists_ofSplit_of_learn_eq_ok hvalid hlength hlearn
  rfl

/-- The sizes that are reported are those of the parts. -/
theorem sizes_of_learn_eq_ok :
    t.summary.train = (s.split w texts codes).train.length ∧
      t.summary.validation = (s.split w texts codes).validation.length ∧
      t.summary.test = (s.split w texts codes).test.length := by
  obtain ⟨c, rfl⟩ := exists_ofSplit_of_learn_eq_ok hvalid hlength hlearn
  exact ⟨rfl, List.length_map _, List.length_map _⟩

theorem nodup_terms_of_learn_eq_ok :
    t.vectorizer.table.vocabulary.terms.toList.Nodup := by
  obtain ⟨c, rfl⟩ := exists_ofSplit_of_learn_eq_ok hvalid hlength hlearn
  exact (Census.ofDocuments_covers _).indexed.nodup

/-- The terms of a model are those of the texts it has learnt from. -/
theorem mem_terms_of_learn_eq_ok {term : String} :
    term ∈ t.vectorizer.table.vocabulary.terms ↔
      ∃ i ∈ s.trainPlaces w texts.length, ∃ text,
        texts[i]? = some text ∧ term ∈ s.vectorizer.analyzer.terms text := by
  obtain ⟨c, rfl⟩ := exists_ofSplit_of_learn_eq_ok hvalid hlength hlearn
  change term ∈ ((Vectorizer.fresh s.vectorizer).fit _).table.vocabulary.terms ↔ _
  rw [Vectorizer.table_fit, Vectorizer.mem_terms_tableOf]
  simp only [Settings.split, Split.mem_items_train hlength]
  constructor
  · rintro ⟨text, ⟨i, hi, htext⟩, hterm⟩
    exact ⟨i, hi, text, htext, hterm⟩
  · rintro ⟨i, hi, text, htext, hterm⟩
    exact ⟨text, ⟨i, hi, htext⟩, hterm⟩

end result

/-- What the numbers of a report are: the metrics of the third part, and of the
second one unless it is empty. -/
theorem scores_of_report_eq_ok {t : Trained} {r : TrainingReport}
    (h : t.report = .ok r) :
    t.test.score t.classifier = .ok r.metrics ∧
      (r.validation.isSome ↔ t.validation.codes ≠ []) ∧
      (∀ m, r.validation = some m → t.validation.score t.classifier = .ok m) ∧
      r.message = announce t.summary ∧ r.summary = t.summary := by
  rw [report] at h
  obtain ⟨metrics, htest, h⟩ := bind_eq_ok_iff.mp h
  by_cases hempty : t.validation.codes = []
  · rw [hempty] at h
    cases h
    exact ⟨htest, by simp [hempty], nofun, rfl, rfl⟩
  · have hsome : t.validation.codes.isEmpty = false :=
      List.isEmpty_eq_false_iff.mpr hempty
    rw [hsome] at h
    obtain ⟨m, hvalidation, h⟩ := bind_eq_ok_iff.mp h
    cases h
    cases hscore : t.validation.score t.classifier with
    | error e => rw [hscore] at hvalidation; cases hvalidation
    | ok m' =>
        rw [hscore] at hvalidation
        cases hvalidation
        refine ⟨htest, by simp [hempty], ?_, rfl, rfl⟩
        rintro _ ⟨⟩
        rfl

/-- Of all that is reported, only the metrics depend on the parts that were kept for
scoring, and whether there are any for the second part on its size. -/
theorem report_frame {t : Trained} {r : TrainingReport}
    (h : t.report = .ok r) :
    r.message = announce t.summary ∧ r.summary = t.summary ∧
      r.validation.isSome = !t.validation.codes.isEmpty := by
  obtain ⟨-, hpresent, -, hmessage, hsummary⟩ := scores_of_report_eq_ok h
  refine ⟨hmessage, hsummary, ?_⟩
  rw [Bool.eq_iff_iff, hpresent]
  simp

/-- Scoring a part comes to asking for the class of each of its texts. -/
theorem Sound.exists_classify_items {t : Trained} (h : t.Sound)
    (p : Partition String Nat) :
    ∃ verdicts : List Verdict, p.items.map t.classify = verdicts.map .ok ∧
      (HeldOut.ofPart t.vectorizer p).score t.classifier =
        evaluate p.labels (verdicts.map (·.code)) := by
  have hwidth : ∀ row ∈ p.items.map t.vectorizer.row,
      row.size = t.vectorizer.table.vocabulary.size := by
    intro row hrow
    obtain ⟨text, -, rfl⟩ := List.mem_map.mp hrow
    exact t.vectorizer.size_row text
  obtain ⟨verdicts, hall, -⟩ := h.expects.exists_predictAll_eq_ok hwidth
  have hclassify : t.classify = t.classifier.predict ∘ t.vectorizer.row := by
    funext text
    rw [classify, Vectorizer.transform_eq_ok h.learnt]
    rfl
  refine ⟨verdicts, ?_, ?_⟩
  · rw [hclassify, ← List.map_map]
    exact mapM_eq_ok_iff.mp hall
  · rw [HeldOut.score, HeldOut.ofPart, hall]
    rfl

end Trained

end Credence
