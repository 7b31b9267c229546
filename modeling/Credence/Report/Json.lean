/-
Outcomes in JSON, written and read.
-/
import Credence.Json.Fields
import Credence.Report.Output

namespace Credence

def Confusion.toJson (c : Confusion) : Json :=
  .obj [("true_positives", .ofNat c.truePositives),
    ("true_negatives", .ofNat c.trueNegatives),
    ("false_positives", .ofNat c.falsePositives),
    ("false_negatives", .ofNat c.falseNegatives)]

def Confusion.ofJson? (j : Json) : Option Confusion := do
  let f ← j.fields? [["true_positives"], ["true_negatives"],
    ["false_positives"], ["false_negatives"]]
  return {
    truePositives := ← f.required 0 Json.toCount?
    trueNegatives := ← f.required 1 Json.toCount?
    falsePositives := ← f.required 2 Json.toCount?
    falseNegatives := ← f.required 3 Json.toCount? }

def ClassMetrics.toJson (m : ClassMetrics Float) : Json :=
  .obj [("precision", .ofFloat m.precision), ("recall", .ofFloat m.sensitivity),
    ("f1_score", .ofFloat m.f1), ("support", .ofNat m.support)]

def ClassMetrics.ofJson? (j : Json) : Option (ClassMetrics Float) := do
  let f ← j.fields? [["precision"], ["recall"], ["f1_score"], ["support"]]
  return {
    precision := ← f.required 0 Json.toFloat?
    sensitivity := ← f.required 1 Json.toFloat?
    f1 := ← f.required 2 Json.toFloat?
    support := ← f.required 3 Json.toCount? }

namespace Metrics

def toJson (m : Metrics Float) : Json :=
  .obj [("accuracy", .ofFloat m.accuracy), ("precision", .ofFloat m.precision),
    ("recall", .ofFloat m.sensitivity), ("f1_score", .ofFloat m.f1),
    ("confusion", m.confusion.toJson),
    ("class_report", .obj [("positive", m.positive.toJson),
      ("negative", m.negative.toJson)]),
    ("macro_average", m.macroAverage.toJson)]

def classesOfJson? (j : Json) :
    Option (ClassMetrics Float × ClassMetrics Float) := do
  let f ← j.fields? [["positive"], ["negative"]]
  return (← f.required 0 ClassMetrics.ofJson?,
    ← f.required 1 ClassMetrics.ofJson?)

def ofJson? (j : Json) : Option (Metrics Float) := do
  let f ← j.fields? [["accuracy"], ["precision"], ["recall"], ["f1_score"],
    ["confusion"], ["class_report"], ["macro_average"]]
  let (positive, negative) ← f.required 5 classesOfJson?
  return {
    accuracy := ← f.required 0 Json.toFloat?
    precision := ← f.required 1 Json.toFloat?
    sensitivity := ← f.required 2 Json.toFloat?
    f1 := ← f.required 3 Json.toFloat?
    confusion := ← f.required 4 Confusion.ofJson?
    positive
    negative
    macroAverage := ← f.required 6 ClassMetrics.ofJson? }

end Metrics

def LoadSummary.toJson (s : LoadSummary) : Json :=
  .obj [("accepted", .ofNat s.accepted), ("dropped", .ofNat s.dropped)]

def LoadSummary.ofJson? (j : Json) : Option LoadSummary := do
  let f ← j.fields? [["accepted"], ["dropped"]]
  return {
    accepted := ← f.required 0 Json.toCount?
    dropped := ← f.required 1 Json.toCount? }

def Timestamp.ofJson? (j : Json) : Option Timestamp :=
  j.toText?.bind Timestamp.read?

def ModelKind.ofJson? (j : Json) : Option ModelKind :=
  j.toName? ModelKind.ofName?

def TrainingSummary.toJson (s : TrainingSummary) (t : Timing) : Json :=
  .obj [("model_type", .str s.kind.name), ("train_size", .ofNat s.train),
    ("validation_size", .ofNat s.validation), ("test_size", .ofNat s.test),
    ("vocabulary_size", .ofNat s.vocabulary),
    ("duration_ms", .ofNat t.milliseconds),
    ("trained_at", .str t.finished.text)]

def TrainingSummary.ofJson? (j : Json) : Option (TrainingSummary × Timing) := do
  let f ← j.fields? [["model_type"], ["train_size"], ["validation_size"],
    ["test_size"], ["vocabulary_size"], ["duration_ms"], ["trained_at"]]
  let summary : TrainingSummary := {
    kind := ← f.required 0 ModelKind.ofJson?
    train := ← f.required 1 Json.toCount?
    validation := ← f.required 2 Json.toCount?
    test := ← f.required 3 Json.toCount?
    vocabulary := ← f.required 4 Json.toCount? }
  let timing : Timing := {
    milliseconds := ← f.required 5 Json.toCount?
    finished := ← f.required 6 Timestamp.ofJson? }
  return (summary, timing)

def TrainingReport.toJson (r : TrainingReport) (t : Timing) : Json :=
  .obj [("train_result_message", .str r.message),
    ("metrics", r.metrics.toJson),
    ("validation_metrics", .ofOption Metrics.toJson r.validation),
    ("summary", r.summary.toJson t)]

def TrainingReport.ofJson? (j : Json) : Option (TrainingReport × Timing) := do
  let f ← j.fields? [["train_result_message"], ["metrics"],
    ["validation_metrics"], ["summary"]]
  let (summary, timing) ← f.required 3 TrainingSummary.ofJson?
  let report : TrainingReport := {
    message := ← f.required 0 Json.toText?
    metrics := ← f.required 1 Metrics.ofJson?
    validation := ← f.optional 2 Metrics.ofJson?
    summary }
  return (report, timing)

def Prediction.toJson (p : Prediction) : Json :=
  .obj [("text", .str p.text), ("label", .str p.label)]

def Prediction.ofJson? (j : Json) : Option Prediction := do
  let f ← j.fields? [["text"], ["label"]]
  return {
    text := ← f.required 0 Json.toText?
    label := ← f.required 1 Json.toText? }

namespace TrainingOutput

/-- The outcome of training as a value.  Without predictions it does not mention
them. -/
def toJson (o : TrainingOutput) (t : Timing) : Json :=
  .obj ([("data", o.loaded.toJson), ("report", o.report.toJson t)]
    ++ if o.predictions.isEmpty then []
      else [("predictions", .ofList Prediction.toJson o.predictions)])

def ofJson? (j : Json) : Option (TrainingOutput × Timing) := do
  let f ← j.fields? [["data"], ["report"], ["predictions"]]
  let (report, timing) ← f.required 1 TrainingReport.ofJson?
  let output : TrainingOutput := {
    loaded := ← f.required 0 LoadSummary.ofJson?
    report
    predictions := ← f.withDefault 2 (Json.toList? Prediction.ofJson?) [] }
  return (output, timing)

end TrainingOutput

namespace PredictionOutput

def toJson (o : PredictionOutput) : Json :=
  .obj [("data", o.loaded.toJson), ("model_type", .str o.model),
    ("predictions", .ofList Prediction.toJson o.predictions)]

def ofJson? (j : Json) : Option PredictionOutput := do
  let f ← j.fields? [["data"], ["model_type"], ["predictions"]]
  return {
    loaded := ← f.required 0 LoadSummary.ofJson?
    model := ← f.required 1 Json.toText?
    predictions := ← f.required 2 (Json.toList? Prediction.ofJson?) }

end PredictionOutput

end Credence
