/-
Random partitions of labelled items into three parts: one to learn from, one to
choose by, and one to test with.
-/
import Credence.Labels
import Credence.Random.Words

namespace Credence

/-- The shares of the first two parts; the third one gets what is left. -/
structure Ratios where
  train : Float
  validation : Float
deriving DecidableEq

/-- The sizes of the three parts. -/
structure Sizes where
  train : Nat
  validation : Nat
  test : Nat
deriving DecidableEq, Repr

def Sizes.total (s : Sizes) : Nat := s.train + s.validation + s.test

namespace Ratios

def standard : Ratios := ⟨0.7, 0.1⟩

/-- The distance between one and the next double. -/
def ulpOfOne : Float := 1.0 / 4503599627370496.0

/-- What is wrong with one share, if anything. -/
def shareProblem? (name : String) (value : Float) : Option InvalidSetting :=
  if 0.0 ≤ value ∧ value ≤ 1.0 then none else some (.ratio name value)

/-- What is wrong with the shares, if anything: each one lies between zero and
one, and together they do not exceed one by more than rounding can explain. -/
def problem? (r : Ratios) : Option InvalidSetting :=
  let sum := r.train + r.validation
  shareProblem? "train" r.train
    <|> shareProblem? "validation" r.validation
    <|> if sum > 1.0 + ulpOfOne then some (.ratioSum sum) else none

/-- The share of the third part. -/
def test (r : Ratios) : Float :=
  let rest := 1.0 - r.train - r.validation
  if 0.0 < rest then rest else 0.0

/-- The whole number of items in a share of `n`.  The small summand makes up for
a share that has no exact double. -/
def floorShare (ratio : Float) (n : Nat) : Nat :=
  Number.floorCount (ratio * Float.ofNat n + 1e-9)

def sizes (r : Ratios) (n : Nat) : Sizes :=
  let train := min (floorShare r.train n) n
  let validation := min (floorShare r.validation n) (n - train)
  ⟨train, validation, n - train - validation⟩

theorem total_sizes (r : Ratios) (n : Nat) : (r.sizes n).total = n := by
  simp only [sizes, Sizes.total]
  omega

end Ratios

/-- An item with its label and its place among the items given. -/
structure Entry (α β : Type) where
  index : Nat
  item : α
  label : β
deriving DecidableEq, Repr

/-- One part of a split, in the order drawn. -/
abbrev Partition (α β : Type) := List (Entry α β)

namespace Partition

def items (p : Partition α β) : List α := p.map (·.item)

def labels (p : Partition α β) : List β := p.map (·.label)

def indices (p : Partition α β) : List Nat := p.map (·.index)

end Partition

/-- What the places of some items and labels hold, as long as nobody takes it. -/
abbrev Slots (α β : Type) := Array (Option (α × β))

namespace Slots

/-- Every place holds its item and label. -/
def fill (items : List α) (labels : List β) : Slots α β :=
  ((items.zip labels).map some).toArray

/-- Take what a place holds, and leave nothing there. -/
def take (s : Slots α β) (i : Nat) : Option (α × β) × Slots α β :=
  (s.getD i none, s.setIfInBounds i none)

end Slots

/-- The three parts. -/
structure Split (α β : Type) where
  train : Partition α β
  validation : Partition α β
  test : Partition α β
deriving DecidableEq, Repr

namespace Split

def size (s : Split α β) : Nat :=
  s.train.length + s.validation.length + s.test.length

def empty : Split α β := ⟨[], [], []⟩

/-- Put an entry in front of the part that its rank belongs to: the lowest ranks are
for the first part, and the highest ones for the third. -/
def put (sizes : Sizes) (rank : Nat) (e : Entry α β) (s : Split α β) :
    Split α β :=
  if rank < sizes.train then { s with train := e :: s.train }
  else if rank < sizes.train + sizes.validation then
    { s with validation := e :: s.validation }
  else { s with test := e :: s.test }

/-- Deal out what the slots hold.  The places come in the order drawn, and each of
them has the next rank, also where its slot is empty. -/
def deal (sizes : Sizes) :
    List Nat → Nat → Slots α β → Split α β
  | [], _, _ => empty
  | index :: places, rank, slots =>
      let (pair?, slots) := slots.take index
      let others := deal sizes places (rank + 1) slots
      match pair? with
      | some (item, label) => others.put sizes rank ⟨index, item, label⟩
      | none => others

/-- The first ones, if there is a limit to their number. -/
def limit (cap : Option Nat) (xs : List α) : List α :=
  match cap with
  | some n => xs.take n
  | none => xs

/-- The places of `n` items in random order, as many as are wanted. -/
def places (cap : Option Nat) (w : Random.Words) (n : Nat) : List Nat :=
  limit cap (Random.shuffle w (List.range n) 0).1

/-- Split items and their labels at random. -/
def make (ratios : Ratios) (cap : Option Nat) (w : Random.Words)
    (items : List α) (labels : List β) : Except Error (Split α β) :=
  if items.length = labels.length then
    let order := places cap w items.length
    checked ratios.problem?
      (deal (ratios.sizes order.length) order 0 (.fill items labels))
  else .error (.lengthMismatch items.length labels.length)

end Split

end Credence
