/-
Outcomes as text for people.
-/
import Credence.Report.Output

namespace Credence

def ClassMetrics.describe (name : String) (m : ClassMetrics Float) : String :=
  let padding := List.replicate (8 - name.length) ' '
  String.ofList padding ++ name ++ ": precision " ++ Number.percent m.precision
    ++ ", recall " ++ Number.percent m.sensitivity ++ ", f1 "
    ++ Number.percent m.f1 ++ ", support " ++ toString m.support ++ "\n"

def Confusion.describe (c : Confusion) : String :=
  "confusion: tp=" ++ toString c.truePositives ++ " tn="
    ++ toString c.trueNegatives ++ " fp=" ++ toString c.falsePositives
    ++ " fn=" ++ toString c.falseNegatives ++ "\n"

namespace Metrics

def summary (m : Metrics Float) : String :=
  "accuracy " ++ Number.percent m.accuracy ++ ", precision "
    ++ Number.percent m.precision ++ ", recall " ++ Number.percent m.sensitivity
    ++ ", f1 " ++ Number.percent m.f1 ++ ", macro f1 "
    ++ Number.percent m.macroAverage.f1

/-- The metrics with the counts and with both classes. -/
def describe (m : Metrics Float) : String :=
  m.summary ++ "\n" ++ m.confusion.describe
    ++ m.positive.describe "positive" ++ m.negative.describe "negative"
    ++ m.macroAverage.describe "macro"

/-- The metrics, in full for those who want to know more. -/
def render (verbosity : Nat) (m : Metrics Float) : String :=
  if 1 < verbosity then m.describe else m.summary ++ "\n"

end Metrics

/-- One line for a prediction, with room for a label of six characters. -/
def Prediction.line (p : Prediction) : String :=
  let padding := List.replicate (6 - p.label.length) ' '
  p.label ++ String.ofList padding ++ " " ++ p.text ++ "\n"

def Prediction.lines (ps : List Prediction) : String :=
  String.join (ps.map line)

/-- How many records were used, and for what. -/
def TrainingOutput.renderSizes (o : TrainingOutput) (milliseconds : Nat) :
    String :=
  let s := o.report.summary
  "records: " ++ toString o.loaded.accepted ++ " accepted, "
    ++ toString o.loaded.dropped ++ " dropped\n"
    ++ "split: " ++ toString s.train ++ " train / " ++ toString s.validation
    ++ " validation / " ++ toString s.test ++ " test, vocabulary "
    ++ toString s.vocabulary ++ " terms, " ++ toString milliseconds ++ " ms\n"

def TrainingOutput.render (o : TrainingOutput) (milliseconds : Nat)
    (verbosity : Nat) : String :=
  o.report.message ++ "\n"
    ++ (if 0 < verbosity then o.renderSizes milliseconds else "")
    ++ "\nTest metrics\n" ++ o.report.metrics.render verbosity
    ++ (match o.report.validation with
        | some m => "\nValidation metrics\n" ++ m.render verbosity
        | none => "")
    ++ (if o.predictions.isEmpty then ""
        else "\nPredictions\n" ++ Prediction.lines o.predictions)

def PredictionOutput.render (o : PredictionOutput) (verbosity : Nat) :
    String :=
  (if 1 < verbosity then
      o.model ++ " model trained on " ++ toString o.loaded.accepted
        ++ " records (" ++ toString o.loaded.dropped ++ " dropped)\n"
    else "")
    ++ Prediction.lines o.predictions

end Credence
