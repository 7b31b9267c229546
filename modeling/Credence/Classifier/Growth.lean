/-
Growing a tree: the samples of a node are parted where that lowers the impurity of
the classes most, until a part is pure, small or deep enough.
-/
import Credence.Classifier.Tree

namespace Credence

/-- When to stop parting. -/
structure GrowthSettings where
  maxDepth : Nat
  minSplit : Nat
deriving DecidableEq, Repr

namespace GrowthSettings

def standard : GrowthSettings := ⟨10, 3⟩

def problem? (s : GrowthSettings) : Option InvalidSetting :=
  if s.minSplit < 2 then some .splitSize else none

end GrowthSettings

/-- How many samples there are, and how many of them are positive. -/
structure Tally where
  positive : Nat
  total : Nat
deriving DecidableEq, Repr

namespace Tally

def empty : Tally := ⟨0, 0⟩

def add (t : Tally) (v : Verdict) : Tally :=
  ⟨t.positive + if v = .positive then 1 else 0, t.total + 1⟩

def ofVerdicts (vs : List Verdict) : Tally := ⟨vs.count .positive, vs.length⟩

/-- The number of negative samples. -/
def negative (t : Tally) : Nat := t.total - t.positive

/-- What is left of some counts without others. -/
def without (t s : Tally) : Tally :=
  ⟨t.positive - s.positive, t.total - s.total⟩

/-- The class of most samples; the positive one if there is no majority. -/
def majority (t : Tally) : Verdict :=
  if t.negative ≤ t.positive then .positive else .negative

/-- The chance that two samples drawn with replacement differ in class. -/
def impurity (t : Tally) : Float :=
  if t.total = 0 then 0.0
  else
    let p := Float.ofNat t.positive / Float.ofNat t.total
    1.0 - p * p - (1.0 - p) * (1.0 - p)

def weightedImpurity (t : Tally) : Float := Float.ofNat t.total * t.impurity

end Tally

namespace Growth

/-- The counts of the classes of some samples. -/
def tally (samples : List Sample) : Tally :=
  .ofVerdicts (samples.map (·.verdict))

/-- A way to part samples in two, with the counts of both parts. -/
structure Candidate where
  feature : Nat
  threshold : Float
  left : Tally
  right : Tally
deriving DecidableEq

/-- The mean impurity of both parts. -/
def Candidate.impurity (c : Candidate) : Float :=
  (c.left.weightedImpurity + c.right.weightedImpurity)
    / Float.ofNat (c.left.total + c.right.total)

/-- One feature of all samples with their classes, in ascending order. -/
def sortedColumn (samples : List Sample) (feature : Nat) :
    List (Float × Verdict) :=
  (samples.map fun s => (s.features.column feature, s.verdict)).mergeSort
    fun a b => Number.totalLe a.1 b.1

/-- The ways to part a sorted column: halfway between two values that differ.
The counts `left` belong to what stands in front. -/
def candidatesFrom (feature : Nat) (whole : Tally) :
    Tally → List (Float × Verdict) → List Candidate
  | left, (value, verdict) :: (next, other) :: rest =>
      let left := left.add verdict
      let further := candidatesFrom feature whole left ((next, other) :: rest)
      if value == next then further
      else ⟨feature, (value + next) / 2.0, left, whole.without left⟩ :: further
  | _, _ => []

def candidates (samples : List Sample) (feature : Nat) : List Candidate :=
  candidatesFrom feature (tally samples) .empty (sortedColumn samples feature)

/-- The better of two ways; the earlier one if they are equally good. -/
def better (best : Option Candidate) (c : Candidate) : Option Candidate :=
  match best with
  | none => some c
  | some b => if c.impurity < b.impurity then some c else some b

/-- The best way to part samples by one of some features. -/
def bestSplit? (samples : List Sample) (columns : List Nat) :
    Option Candidate :=
  (columns.flatMap (candidates samples)).foldl better none

/-- The way to part the samples of a node, if they are to be parted at all. -/
def split? (s : GrowthSettings) (columns : List Nat) (samples : List Sample) :
    Option Candidate :=
  let t := tally samples
  if t.total < s.minSplit || t.positive = 0 || t.negative = 0 then none
  else
    match bestSplit? samples columns with
    | some c => if c.impurity ≥ t.impurity then none else some c
    | none => none

/-- Part samples by the question that a way to part asks. -/
def part (c : Candidate) (samples : List Sample) :
    List Sample × List Sample :=
  samples.partition fun s => Tree.goesLeft c.feature c.threshold s.features

/-- A tree whose leaves hold the samples that reach them.  The first argument
bounds the depth. -/
def parts (s : GrowthSettings) (columns : List Nat) :
    Nat → List Sample → Tree (List Sample)
  | 0, samples => .leaf samples
  | depth + 1, samples =>
      match split? s columns samples with
      | none => .leaf samples
      | some c =>
          .split c.feature c.threshold
            (parts s columns depth (part c samples).1)
            (parts s columns depth (part c samples).2)

/-- The class that a leaf gives to the samples that reach it. -/
def vote (samples : List Sample) : Verdict := (tally samples).majority

/-- Grow a tree on some samples by some of their features. -/
def grow (s : GrowthSettings) (columns : List Nat) (samples : List Sample) :
    Tree Verdict :=
  (parts s columns s.maxDepth samples).map vote

end Growth

/-- A classifier that asks the questions of a tree, as soon as one is grown. -/
structure TreeClassifier where
  settings : GrowthSettings
  root? : Option (Tree Verdict)
  width? : Option Nat

namespace TreeClassifier

def fresh (settings : GrowthSettings) : TreeClassifier :=
  ⟨settings, none, none⟩

/-- Grow a tree on a training set and forget all others. -/
def store (t : TrainingSet) (c : TreeClassifier) : TreeClassifier :=
  { c with
    root? := some (Growth.grow c.settings (List.range t.width) t.samples)
    width? := some t.width }

def predict (c : TreeClassifier) (row : Features) : Except Error Verdict := do
  checkWidth c.width? row
  match c.root? with
  | none => throw (.missingPart "decision tree")
  | some root => return root.classify row

def isFitted (c : TreeClassifier) : Bool := c.root?.isSome

end TreeClassifier

end Credence
