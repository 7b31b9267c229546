/-
The settings of a whole training run.
-/
import Credence.Classifier
import Credence.Split
import Credence.Vectorizer

namespace Credence

/-- How records are split, named, turned into features and learnt from. -/
structure Settings where
  ratios : Ratios
  /-- The seed of the split; without one every split is a new one. -/
  seed : Option UInt64
  /-- The number of records to use at most. -/
  maxSamples : Option Nat
  labels : LabelPair
  vectorizer : VectorizerSettings
  classifier : ClassifierSettings
deriving DecidableEq

namespace Settings

/-- The settings that hold unless others are chosen. -/
def standard : Settings :=
  ⟨.standard, none, none, .standard, .standard, .standard⟩

/-- What is wrong with the settings, if anything. -/
def problem? (s : Settings) : Option InvalidSetting :=
  s.ratios.problem? <|> s.labels.problem? <|> s.vectorizer.problem?
    <|> s.classifier.problem?
    <|> if s.maxSamples = some 0 then some .maxSamples else none

/-- The stream of random words for a split.  Without a seed the other one
counts. -/
def words (s : Settings) (fallback : UInt64) : Random.Words :=
  Random.seeded (s.seed.getD fallback)

/-- Replace the seed and the largest number of records where others are given. -/
def override (s : Settings) (seed : Option UInt64) (maxSamples : Option Nat) :
    Settings :=
  { s with
    seed := seed <|> s.seed
    maxSamples := maxSamples <|> s.maxSamples }

end Settings

end Credence
