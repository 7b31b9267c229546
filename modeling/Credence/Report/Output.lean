/-
What a command has to say once it is done.
-/
import Credence.Pipeline.Training
import Credence.Report.Timestamp

namespace Credence

/-- A text with the label that a model gave it. -/
structure Prediction where
  text : String
  label : String
deriving DecidableEq, Repr

/-- When a model was trained, and how long that took. -/
structure Timing where
  milliseconds : Nat
  finished : Timestamp
deriving DecidableEq, Repr

/-- The outcome of training a model. -/
structure TrainingOutput where
  loaded : LoadSummary
  report : TrainingReport
  predictions : List Prediction
deriving DecidableEq

/-- The outcome of classifying texts. -/
structure PredictionOutput where
  loaded : LoadSummary
  model : String
  predictions : List Prediction
deriving DecidableEq, Repr

end Credence
