/-
Forests: many trees, each one grown on some of the samples and some of the
features, vote on every row.
-/
import Credence.Classifier.Growth
import Credence.Random.ChaCha

namespace Credence

/-- How many trees are grown, and on what. -/
structure ForestSettings where
  trees : Nat
  /-- The share of the features that a tree may ask for. -/
  featureShare : Float
  maxDepth : Nat
  minSplit : Nat
  /-- Whether every tree draws its samples, with replacement. -/
  bootstrap : Bool
  seed : UInt64
deriving DecidableEq

namespace ForestSettings

def standard : ForestSettings := ⟨10, 0.5, 10, 3, true, 3⟩

/-- When every single tree stops growing. -/
def growth (s : ForestSettings) : GrowthSettings := ⟨s.maxDepth, s.minSplit⟩

def problem? (s : ForestSettings) : Option InvalidSetting :=
  if s.trees = 0 then some .estimators
  else if !(0.0 < s.featureShare && s.featureShare ≤ 1.0) then
    some (.featureShare s.featureShare)
  else s.growth.problem?

/-- How many of `width` features a tree may ask for. -/
def featuresPerTree (s : ForestSettings) (width : Nat) : Nat :=
  if width = 0 then 0
  else
    let share := Number.ceilCount (s.featureShare * Float.ofNat width)
    min (max share 1) width

end ForestSettings

namespace Forest

/-- The places of the samples that a tree is grown on, and where the stream of
random words goes on. -/
def drawRows (s : ForestSettings) (w : Random.Words) (count : Nat) :
    List Nat × Nat :=
  if s.bootstrap then Random.belowTimes w count count 0
  else (List.range count, 0)

/-- The features that a tree may ask for, in ascending order. -/
def drawColumns (s : ForestSettings) (w : Random.Words) (width : Nat)
    (position : Nat) : List Nat :=
  ((Random.shuffle w (List.range width) position).1.take
    (s.featuresPerTree width)).mergeSort

/-- The tree with a given number.  Each one has a stream of random words of its
own. -/
def growTree (s : ForestSettings) (t : TrainingSet) (number : Nat) :
    Tree Verdict :=
  let w := Random.seeded (s.seed + UInt64.ofNat number)
  let (rows, position) := drawRows s w t.size
  let columns := drawColumns s w t.width position
  let samples := t.samples.toArray
  Growth.grow s.growth columns (rows.filterMap (samples[·]?))

def grow (s : ForestSettings) (t : TrainingSet) : List (Tree Verdict) :=
  (List.range s.trees).map (growTree s t)

/-- The class that most trees give to a row. -/
def classify (trees : List (Tree Verdict)) (row : Features) : Verdict :=
  (Tally.ofVerdicts (trees.map (Tree.classify row))).majority

end Forest

/-- A classifier that lets trees vote, as soon as there are any. -/
structure ForestClassifier where
  settings : ForestSettings
  trees : List (Tree Verdict)
  width? : Option Nat

namespace ForestClassifier

def fresh (settings : ForestSettings) : ForestClassifier :=
  ⟨settings, [], none⟩

/-- Grow trees on a training set and forget all others. -/
def store (t : TrainingSet) (c : ForestClassifier) : ForestClassifier :=
  { c with trees := Forest.grow c.settings t, width? := some t.width }

def predict (c : ForestClassifier) (row : Features) : Except Error Verdict := do
  checkWidth c.width? row
  if c.trees.isEmpty then throw (.missingPart "random forest")
  return Forest.classify c.trees row

def isFitted (c : ForestClassifier) : Bool := !c.trees.isEmpty

end ForestClassifier

end Credence
