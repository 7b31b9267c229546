/-
Growing and asking trees with an eye on every index and every count.  Samples are
known by their places in a table here, rows on one side and class codes on the other.
Reaching out of a list ends in a fault, and so does taking more off a count than there
is.
-/
import Credence.Classifier.Forest

namespace Credence

/-- What can be wrong with an index or with a count. -/
inductive Fault where
  /-- No row has this number. -/
  | row (i : Nat)
  /-- No class code has this number. -/
  | code (i : Nat)
  /-- A row has no feature with this number. -/
  | feature (j : Nat)
  /-- A sorted column has no entry with this number. -/
  | entry (i : Nat)
  /-- A count is smaller than what is to be taken off it. -/
  | deficit (whole part : Nat)
deriving DecidableEq, Repr

/-- What a step gives that may run into a fault. -/
abbrev Guarded (α : Type) := Except Fault α

namespace Guarded

/-- The entry of an array with some number, which has to be there. -/
def entry (fault : Nat → Fault) (xs : Array α) (i : Nat) : Guarded α :=
  match xs[i]? with
  | some x => .ok x
  | none => .error (fault i)

/-- What is left of a count, which has to be large enough. -/
def minus (whole part : Nat) : Guarded Nat :=
  if part ≤ whole then .ok (whole - part) else .error (.deficit whole part)

/-- The class codes of the counted verdicts. -/
def isPositive (code : Nat) : Bool := code == Verdict.positive.code

/-- How far the scan of a sorted column has come: the positive entries that were
passed, and the best way to part so far. -/
structure Scan where
  positive : Nat
  best : Option Growth.Candidate

/-- Pass the entry of a sorted column with some number. -/
def scanStep (feature : Nat) (whole : Tally) (column : Array (Float × Nat))
    (s : Scan) (i : Nat) : Guarded Scan := do
  let (value, code) ← entry .entry column i
  let positive := s.positive + if isPositive code then 1 else 0
  let (next, _) ← entry .entry column (i + 1)
  if value == next then return ⟨positive, s.best⟩
  let behind ← minus whole.total (i + 1)
  let positiveBehind ← minus whole.positive positive
  return ⟨positive, Growth.better s.best
    ⟨feature, (value + next) / 2.0, ⟨positive, i + 1⟩, ⟨positiveBehind, behind⟩⟩⟩

/-- The best way to part, of those found before and those in a sorted column.  The last
entry has no neighbour behind it. -/
def scan (feature : Nat) (whole : Tally) (column : List (Float × Nat))
    (best : Option Growth.Candidate) : Guarded (Option Growth.Candidate) := do
  let steps ← minus whole.total 1
  let s ← (List.range steps).foldlM (scanStep feature whole column.toArray) ⟨0, best⟩
  return s.best

def classify (row : Features) : Tree Nat → Guarded Nat
  | .leaf code => return code
  | .split feature threshold left right => do
      let value ← entry .feature row feature
      if value ≤ threshold then classify row left else classify row right

/-- The class code that most trees give to a row. -/
def vote (trees : List (Tree Nat)) (row : Features) : Guarded Nat := do
  let codes ← trees.mapM (classify row)
  let positive := codes.countP isPositive
  let _negative ← minus trees.length positive
  return (Tally.majority ⟨positive, trees.length⟩).code

end Guarded

/-- Rows of features with class codes beside them. -/
structure Table where
  rows : Array Features
  codes : Array Nat

namespace Table

open Guarded Growth

variable (x : Table)

def code (place : Nat) : Guarded Nat := entry .code x.codes place

def feature (place j : Nat) : Guarded Float := do
  let row ← entry .row x.rows place
  entry .feature row j

def tally (places : List Nat) : Guarded Tally := do
  let codes ← places.mapM x.code
  let positive := codes.countP isPositive
  let _negative ← minus places.length positive
  return ⟨positive, places.length⟩

def sortedColumn (places : List Nat) (j : Nat) : Guarded (List (Float × Nat)) := do
  let entries ← places.mapM fun place => do
    let value ← x.feature place j
    let code ← x.code place
    return (value, code)
  return entries.mergeSort fun a b => Number.totalLe a.1 b.1

def bestSplit? (places columns : List Nat) : Guarded (Option Candidate) := do
  let whole ← x.tally places
  columns.foldlM (fun best j => do
    let column ← x.sortedColumn places j
    scan j whole column best) none

/-- The way to part the samples of a node with some counts, if they are to be parted at
all. -/
def split? (s : GrowthSettings) (columns places : List Nat) (t : Tally) :
    Guarded (Option Candidate) := do
  if t.total < s.minSplit || t.positive = 0 || t.negative = 0 then return none
  match ← x.bestSplit? places columns with
  | some c => return if c.impurity ≥ t.impurity then none else some c
  | none => return none

def part (c : Candidate) (places : List Nat) : Guarded (List Nat × List Nat) := do
  let turns ← places.mapM fun place => do
    let value ← x.feature place c.feature
    return (place, decide (value ≤ c.threshold))
  let (left, right) := turns.partition (·.2)
  return (left.map (·.1), right.map (·.1))

/-- Grow a tree on the samples at some places, no deeper than the number given. -/
def grow (s : GrowthSettings) (columns : List Nat) :
    Nat → List Nat → Guarded (Tree Nat)
  | 0, places => do
      let t ← x.tally places
      return .leaf t.majority.code
  | depth + 1, places => do
      let t ← x.tally places
      match ← x.split? s columns places t with
      | none => return .leaf t.majority.code
      | some c =>
          let (left, right) ← x.part c places
          let left ← grow s columns depth left
          let right ← grow s columns depth right
          return .split c.feature c.threshold left right

/-- The tree of a forest with a given number. -/
def growTree (s : ForestSettings) (width number : Nat) : Guarded (Tree Nat) :=
  let w := Random.seeded (s.seed + UInt64.ofNat number)
  let (places, position) := Forest.drawRows s w x.rows.size
  x.grow s.growth (Forest.drawColumns s w width position) s.maxDepth places

def growForest (s : ForestSettings) (width : Nat) : Guarded (List (Tree Nat)) :=
  (List.range s.trees).mapM (x.growTree s width)

end Table

end Credence
