/-
Runs of a pipeline: one operation after the other, each with its answer.
-/
import Credence.Pipeline

namespace Credence

namespace Pipeline

/-- Something to do with a pipeline. -/
inductive Operation where
  | load (records : List Record)
  | fit
  | evaluate
  | train (records : List Record)
  | predict (text : String)
  | predictAll (texts : List String)

/-- What an operation says when it succeeds. -/
inductive Answer where
  | loaded (summary : LoadSummary)
  | fitted (summary : TrainingSummary)
  | scored (report : TrainingReport)
  | label (label : String)
  | labels (labels : List String)

def perform (p : Pipeline) (fallback : UInt64) :
    Operation → Except Error Answer × Pipeline
  | .load records => p.act (.loaded <$> load records)
  | .fit => p.act (.fitted <$> fit fallback)
  | .evaluate => p.act (.scored <$> evaluate)
  | .train records => p.act (.scored <$> train fallback records)
  | .predict text => ((p.predict text).map .label, p)
  | .predictAll texts => ((p.predictAll texts).map .labels, p)

/-- Do one thing after the other. -/
def run (p : Pipeline) (fallback : UInt64) :
    List Operation → List (Except Error Answer) × Pipeline
  | [] => ([], p)
  | op :: ops =>
      let (answer, p) := p.perform fallback op
      let (answers, p) := p.run fallback ops
      (answer :: answers, p)

end Pipeline

end Credence
