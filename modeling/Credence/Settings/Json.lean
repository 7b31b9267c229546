/-
Settings in JSON.  Whatever is missing keeps its standard value, section by
section and field by field.
-/
import Credence.Json.Fields
import Credence.Json.Reader
import Credence.Settings

namespace Credence

namespace Json

/-- A whole number that fits into a word. -/
def toWord? (j : Json) : Option UInt64 := j.toCount?.map UInt64.ofNat

def ofWord (w : UInt64) : Json := ofNat w.toNat

end Json

def Ratios.ofJson? (j : Json) : Option Ratios := do
  let f ← j.fields? [["train"], ["validation"]]
  let standard := Ratios.standard
  return {
    train := ← f.withDefault 0 Json.toFloat? standard.train
    validation := ← f.withDefault 1 Json.toFloat? standard.validation }

def Ratios.toJson (r : Ratios) : Json :=
  .obj [("train", .ofFloat r.train), ("validation", .ofFloat r.validation)]

def LabelPair.ofJson? (j : Json) : Option LabelPair := do
  let f ← j.fields? [["positive"], ["negative"]]
  let standard := LabelPair.standard
  return {
    positive := ← f.withDefault 0 Json.toText? standard.positive
    negative := ← f.withDefault 1 Json.toText? standard.negative }

def LabelPair.toJson (p : LabelPair) : Json :=
  .obj [("positive", .str p.positive), ("negative", .str p.negative)]

def Weighting.ofJson? (j : Json) : Option Weighting :=
  j.toName? Weighting.ofName?

/-- Settings of a vectorizer over the standard ones. -/
def VectorizerSettings.ofJson? (j : Json) : Option VectorizerSettings := do
  let f ← j.fields? [["idf"], ["min_token_length"], ["normalize_tweets"]]
  let standard := VectorizerSettings.standard
  return {
    weighting := ← f.withDefault 0 Weighting.ofJson? standard.weighting
    minLength := ← f.withDefault 1 Json.toCount? standard.minLength
    normalizeTweets := ← f.withDefault 2 Json.toBool? standard.normalizeTweets }

def VectorizerSettings.toJson (s : VectorizerSettings) : Json :=
  .obj [("idf", .str s.weighting.name),
    ("min_token_length", .ofNat s.minLength),
    ("normalize_tweets", .bool s.normalizeTweets)]

def NearestSettings.ofJson? (j : Json) : Option NearestSettings := do
  let f ← j.fields? [["k"]]
  return { neighbours := ← f.withDefault 0 Json.toCount? standard.neighbours }

def NearestSettings.toJson (s : NearestSettings) : Json :=
  .obj [("k", .ofNat s.neighbours)]

def LogisticSettings.ofJson? (j : Json) : Option LogisticSettings := do
  let f ← j.fields? [["learning_rate"], ["max_iterations"], ["tolerance"]]
  let standard := LogisticSettings.standard
  return {
    learningRate := ← f.withDefault 0 Json.toFloat? standard.learningRate
    maxIterations := ← f.withDefault 1 Json.toCount? standard.maxIterations
    tolerance := ← f.withDefault 2 Json.toFloat? standard.tolerance }

def LogisticSettings.toJson (s : LogisticSettings) : Json :=
  .obj [("learning_rate", .ofFloat s.learningRate),
    ("max_iterations", .ofNat s.maxIterations),
    ("tolerance", .ofFloat s.tolerance)]

def GrowthSettings.ofJson? (j : Json) : Option GrowthSettings := do
  let f ← j.fields? [["max_depth"], ["min_samples_split"]]
  let standard := GrowthSettings.standard
  return {
    maxDepth := ← f.withDefault 0 Json.toCount? standard.maxDepth
    minSplit := ← f.withDefault 1 Json.toCount? standard.minSplit }

def GrowthSettings.toJson (s : GrowthSettings) : Json :=
  .obj [("max_depth", .ofNat s.maxDepth),
    ("min_samples_split", .ofNat s.minSplit)]

def ForestSettings.ofJson? (j : Json) : Option ForestSettings := do
  let f ← j.fields? [["n_estimators"], ["max_features"], ["max_depth"],
    ["min_samples_split"], ["bootstrap"], ["seed"]]
  let standard := ForestSettings.standard
  return {
    trees := ← f.withDefault 0 Json.toCount? standard.trees
    featureShare := ← f.withDefault 1 Json.toFloat? standard.featureShare
    maxDepth := ← f.withDefault 2 Json.toCount? standard.maxDepth
    minSplit := ← f.withDefault 3 Json.toCount? standard.minSplit
    bootstrap := ← f.withDefault 4 Json.toBool? standard.bootstrap
    seed := ← f.withDefault 5 Json.toWord? standard.seed }

def ForestSettings.toJson (s : ForestSettings) : Json :=
  .obj [("n_estimators", .ofNat s.trees),
    ("max_features", .ofFloat s.featureShare), ("max_depth", .ofNat s.maxDepth),
    ("min_samples_split", .ofNat s.minSplit), ("bootstrap", .bool s.bootstrap),
    ("seed", .ofWord s.seed)]

def ClassifierSettings.ofJson? (j : Json) : Option ClassifierSettings := do
  let f ← j.fields? [["knn"], ["logistic_regression"], ["decision_tree"],
    ["random_forest"]]
  let standard := ClassifierSettings.standard
  return {
    nearest := ← f.withDefault 0 NearestSettings.ofJson? standard.nearest
    logistic := ← f.withDefault 1 LogisticSettings.ofJson? standard.logistic
    tree := ← f.withDefault 2 GrowthSettings.ofJson? standard.tree
    forest := ← f.withDefault 3 ForestSettings.ofJson? standard.forest }

def ClassifierSettings.toJson (s : ClassifierSettings) : Json :=
  .obj [("knn", s.nearest.toJson), ("logistic_regression", s.logistic.toJson),
    ("decision_tree", s.tree.toJson), ("random_forest", s.forest.toJson)]

namespace Settings

def ofJson? (j : Json) : Option Settings := do
  let f ← j.fields? [["split"], ["seed"], ["max_samples"], ["labels"],
    ["vectorizer"], ["classifier"]]
  let standard := Settings.standard
  return {
    ratios := ← f.withDefault 0 Ratios.ofJson? standard.ratios
    seed := ← f.withDefault 1 (Json.toOption? Json.toWord?) standard.seed
    maxSamples :=
      ← f.withDefault 2 (Json.toOption? Json.toCount?) standard.maxSamples
    labels := ← f.withDefault 3 LabelPair.ofJson? standard.labels
    vectorizer :=
      ← f.withDefault 4 VectorizerSettings.ofJson? standard.vectorizer
    classifier :=
      ← f.withDefault 5 ClassifierSettings.ofJson? standard.classifier }

def toJson (s : Settings) : Json :=
  .obj [("split", s.ratios.toJson), ("seed", .ofOption .ofWord s.seed),
    ("max_samples", .ofOption .ofNat s.maxSamples),
    ("labels", s.labels.toJson), ("vectorizer", s.vectorizer.toJson),
    ("classifier", s.classifier.toJson)]

/-- The settings that a value stands for, if they hold. -/
def decode (j : Json) : Except Error Settings :=
  match ofJson? j with
  | some s => checked s.problem? s
  | none => .error .malformedJson

/-- The settings that a text stands for, if they hold. -/
def read (text : String) : Except Error Settings :=
  match Json.read? text with
  | some j => decode j
  | none => .error .malformedJson

end Settings

end Credence
