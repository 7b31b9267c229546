/-
One training run: split the records, learn terms and a classifier from one part,
and keep the other two for scoring.
-/
import Credence.Metrics
import Credence.Random.ChaCha
import Credence.Record
import Credence.Settings

namespace Credence

/-- How many records were taken and how many were not. -/
structure LoadSummary where
  accepted : Nat
  dropped : Nat
deriving DecidableEq, Repr

/-- Texts with the classes that their labels name. -/
abbrev Kept := List (String × Verdict)

/-- Go through some records: keep what is accepted of them, and count how many are
dropped. -/
def keep (labels : LabelPair) : List Record → Kept × Nat
  | [] => ([], 0)
  | r :: rest =>
      let (kept, dropped) := keep labels rest
      match r.accept labels with
      | .ok item => (item :: kept, dropped)
      | .error _ => (kept, dropped + 1)

/-- What a training run was like in numbers. -/
structure TrainingSummary where
  kind : ModelKind
  train : Nat
  validation : Nat
  test : Nat
  vocabulary : Nat
deriving DecidableEq, Repr

/-- How well a trained model does. -/
structure TrainingReport where
  message : String
  /-- The metrics of the third part. -/
  metrics : Metrics Float
  /-- The metrics of the second part, unless it is empty. -/
  validation : Option (Metrics Float)
  summary : TrainingSummary
deriving DecidableEq

/-- A part that was not learnt from: its rows of features and the codes of their
classes. -/
structure HeldOut where
  rows : List Features
  codes : List Nat

namespace HeldOut

/-- Turn the texts of a part into rows of features. -/
def make (v : Vectorizer) (p : Partition String Nat) :
    Except Error HeldOut := do
  return ⟨← v.transformAll p.items, p.labels⟩

/-- Compare the classes of a part with what a classifier says. -/
def score (h : HeldOut) (c : Classifier) : Except Error (Metrics Float) := do
  let predicted ← c.predictAll h.rows
  evaluate h.codes (predicted.map (·.code))

end HeldOut

/-- Everything that one training run leaves behind. -/
structure Trained where
  vectorizer : Vectorizer
  classifier : Classifier
  validation : HeldOut
  test : HeldOut
  summary : TrainingSummary

namespace Trained

/-- Split at random, learn from the first part and keep the others. -/
def learn (kind : ModelKind) (s : Settings) (w : Random.Words)
    (texts : List String) (codes : List Nat) : Except Error Trained := do
  let split ← Split.make s.ratios s.maxSamples w texts codes
  let (rows, vectorizer) :=
    (← Vectorizer.make s.vectorizer).fitTransform split.train.items
  let rows ← rows
  let classifier ← (← Classifier.make kind s.classifier).fit rows
    split.train.labels
  let validation ← HeldOut.make vectorizer split.validation
  let test ← HeldOut.make vectorizer split.test
  return {
    vectorizer, classifier, validation, test
    summary := {
      kind
      train := split.train.length
      validation := validation.codes.length
      test := test.codes.length
      vocabulary := vectorizer.table.vocabulary.size } }

/-- The sentence that announces a model. -/
def announce (s : TrainingSummary) : String :=
  "Model " ++ s.kind.name ++ " trained successfully on " ++ toString s.train
    ++ " samples!"

/-- Score a model on the parts it has not learnt from. -/
def report (t : Trained) : Except Error TrainingReport := do
  let metrics ← t.test.score t.classifier
  let validation ←
    if t.validation.codes.isEmpty then pure none
    else some <$> t.validation.score t.classifier
  return ⟨announce t.summary, metrics, validation, t.summary⟩

/-- The class of a text. -/
def classify (t : Trained) (text : String) : Except Error Verdict := do
  t.classifier.predict (← t.vectorizer.transform text)

end Trained

end Credence
