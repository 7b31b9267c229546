/-
Why an operation gives no answer.  Every cause is a constructor of its own; its
kind and its wording are functions of the cause, so all texts stand in this file.
-/
import Credence.Number.Notation

namespace Credence

/-- The kinds of failure. -/
inductive ErrorKind where
  /-- One record or one text cannot be used. -/
  | parseFailure
  /-- No usable record is left. -/
  | noValidData
  /-- Something is used before it was fitted. -/
  | uninitialized
  /-- Two lists that belong together differ in length. -/
  | shapeMismatch
  /-- There is nothing to learn from. -/
  | insufficientData
  /-- Rows or class codes are malformed. -/
  | typeMismatch
  /-- An operation comes too early in the life of a pipeline. -/
  | invalidState
  /-- A setting is out of range. -/
  | invalidConfig
  /-- No such session. -/
  | notFound
  /-- A search pattern cannot be read. -/
  | analysis
  /-- A file cannot be read. -/
  | io
  /-- A text is not the JSON that was asked for. -/
  | json
  /-- Anything reported from outside. -/
  | other
deriving DecidableEq, Repr

def ErrorKind.heading : ErrorKind → String
  | parseFailure => "Parse failure"
  | noValidData => "No valid data"
  | uninitialized => "Uninitialized"
  | shapeMismatch => "Shape mismatch"
  | insufficientData => "Insufficient data"
  | typeMismatch => "Type mismatch"
  | invalidState => "Invalid state"
  | invalidConfig => "Invalid configuration"
  | notFound => "Not found"
  | analysis => "Analysis error"
  | io => "I/O error"
  | json => "JSON error"
  | other => "Anyhow error"

/-- Settings that are out of range. -/
inductive InvalidSetting where
  | blankLabel
  | equalLabels (normalized : String)
  | tokenLength
  | ratio (name : String) (value : Float)
  | ratioSum (sum : Float)
  | unknownModel (name : String) (known : List String)
  | neighbours
  | learningRate (value : Float)
  | iterations
  | tolerance
  | splitSize
  | estimators
  | featureShare (value : Float)
  | maxSamples
deriving DecidableEq

def InvalidSetting.detail : InvalidSetting → String
  | blankLabel => "class labels must not be blank"
  | equalLabels normalized =>
      "class labels must differ, both are '" ++ normalized ++ "'"
  | tokenLength => "min_token_length must be at least 1"
  | ratio name value =>
      name ++ " ratio must be within [0, 1], got " ++ Number.plain value
  | ratioSum sum =>
      "train + validation ratios must not exceed 1, got " ++ Number.plain sum
  | unknownModel name known =>
      "unknown model type '" ++ name ++ "', expected one of "
        ++ String.intercalate ", " known
  | neighbours => "knn.k must be at least 1"
  | learningRate value =>
      "logistic_regression.learning_rate must be positive, got "
        ++ Number.plain value
  | iterations => "logistic_regression.max_iterations must be at least 1"
  | tolerance => "logistic_regression.tolerance must not be negative"
  | splitSize => "decision_tree.min_samples_split must be at least 2"
  | estimators => "random_forest.n_estimators must be at least 1"
  | featureShare value =>
      "random_forest.max_features must be within (0, 1], got "
        ++ Number.plain value
  | maxSamples => "max_samples must be at least 1 when set"

/-- Why an operation gives no answer. -/
inductive Error where
  /-- The text of a record is blank. -/
  | blankText
  /-- The label of a record names neither class. -/
  | unknownLabel (label : String)
  /-- The text to classify is blank. -/
  | blankQuery
  /-- A text is no session id. -/
  | malformedSessionId (text : String)
  /-- None of the records can be used. -/
  | allDropped (count : Nat)
  | unfittedVectorizer
  | unfittedClassifier
  /-- A classifier of this kind knows a width and nothing else. -/
  | missingPart (classifier : String)
  /-- A pipeline for this kind of model was never fitted. -/
  | untrained (model : String)
  /-- A pipeline that was fitted holds no model. -/
  | missingModel
  /-- Two lists that belong together have these lengths. -/
  | lengthMismatch (expected actual : Nat)
  | emptyTrainingSet
  /-- A row of a training set is not as wide as the first one. -/
  | raggedRow (row width expected : Nat)
  /-- A class code is neither 0 nor 1. -/
  | badCode (code : Nat)
  /-- A row is not as wide as the model expects. -/
  | wrongWidth (width expected : Nat)
  /-- Fitting comes before loading. -/
  | noRecords
  /-- Evaluation comes before fitting. -/
  | notFitted (stage : String)
  | badSetting (problem : InvalidSetting)
  | unknownSession (id : String)
  /-- A text denotes no search pattern. -/
  | badPattern
  /-- A file is missing or is not text. -/
  | unreadable
  /-- A text is not JSON of the wanted shape. -/
  | malformedJson
  /-- A failure reported in someone else's words. -/
  | reported (kind : ErrorKind) (detail : String)
deriving DecidableEq

namespace Error

def kind : Error → ErrorKind
  | blankText | unknownLabel _ | blankQuery | malformedSessionId _ =>
      .parseFailure
  | allDropped _ => .noValidData
  | unfittedVectorizer | unfittedClassifier | missingPart _ | untrained _
  | missingModel => .uninitialized
  | lengthMismatch _ _ => .shapeMismatch
  | emptyTrainingSet => .insufficientData
  | raggedRow _ _ _ | badCode _ | wrongWidth _ _ => .typeMismatch
  | noRecords | notFitted _ => .invalidState
  | badSetting _ => .invalidConfig
  | unknownSession _ => .notFound
  | badPattern => .analysis
  | unreadable => .io
  | malformedJson => .json
  | reported kind _ => kind

/-- What a message says beyond its kind, if anything. -/
def detail? : Error → Option String
  | blankText => some "text is blank"
  | unknownLabel label => some ("unknown label '" ++ label ++ "'")
  | blankQuery => some "cannot classify blank text"
  | malformedSessionId text => some ("invalid session id '" ++ text ++ "'")
  | allDropped count =>
      some ("all " ++ toString count ++ " records were dropped")
  | unfittedVectorizer =>
      some "TF-IDF vectorizer must be fitted before transform"
  | unfittedClassifier => some "classifier must be fitted before predict"
  | missingPart classifier =>
      some (classifier ++ " must be fitted before predict")
  | untrained model =>
      some (model ++ " pipeline has no trained model, call fit first")
  | missingModel => some "no trained model"
  | lengthMismatch expected actual =>
      some ("expected " ++ toString expected ++ ", got " ++ toString actual)
  | emptyTrainingSet => some "classifier needs at least one training sample"
  | raggedRow row width expected =>
      some ("ragged training data: row " ++ toString row ++ " has "
        ++ toString width ++ " features, expected " ++ toString expected)
  | badCode code => some ("class code must be 0 or 1, got " ++ toString code)
  | wrongWidth width expected =>
      some ("feature vector has " ++ toString width
        ++ " dimensions, model expects " ++ toString expected)
  | noRecords => some "fit requires loaded data, call load_data first"
  | notFitted stage =>
      some ("evaluate requires a fitted model, pipeline is " ++ stage)
  | badSetting problem => some problem.detail
  | unknownSession id => some ("session " ++ id)
  | badPattern | unreadable | malformedJson => none
  | reported _ detail => some detail

def message (e : Error) : String :=
  match e.detail? with
  | some detail => e.kind.heading ++ ": " ++ detail
  | none => e.kind.heading

/-- Whether the caller can go on with the next record. -/
def isRecoverable (e : Error) : Bool :=
  e.kind == .parseFailure

end Error

end Credence
