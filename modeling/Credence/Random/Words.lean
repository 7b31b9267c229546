/-
Drawing from an endless stream of random words.  A draw starts at a position of
the stream and says where it ends, so equal streams give equal draws.
-/
namespace Credence.Random

/-- An endless stream of random words. -/
abbrev Words := Nat → UInt32

/-- The stream that repeats some words over and over. -/
def cycle (words : List UInt32) : Words :=
  fun i => words.getD (i % words.length) 0

/-- The number of different words. -/
def wordCount : Nat := UInt32.size

/-- A number below `range`, from the word at `position`; a second word decides
about rounding up where one word is not enough. -/
def below (w : Words) (range position : Nat) : Nat × Nat :=
  let product := (w position).toNat * range
  let high := product / wordCount
  let low := product % wordCount
  if wordCount - range < low then
    let second := (w (position + 1)).toNat * range / wordCount
    (if wordCount ≤ low + second then high + 1 else high, position + 2)
  else (high, position + 1)

def belowTimes (w : Words) (range : Nat) : Nat → Nat → List Nat × Nat
  | 0, position => ([], position)
  | n + 1, position =>
      let (first, position) := below w range position
      let (others, position) := belowTimes w range n position
      (first :: others, position)

/-- One number below the product `first * (first + 1) * … * (first + left - 1)`
holds `left` choices, of which the first is one out of `first`. -/
structure Choices where
  chunk : Nat
  left : Nat
  position : Nat

/-- Multiply by the following numbers as long as the product stays below a word.
Every factor is two at least, so the bits of a word are fuel enough. -/
def widen : Nat → Nat → Nat → Nat × Nat
  | 0, product, next => (product, next)
  | fuel + 1, product, next =>
      if product * next < wordCount then widen fuel (product * next) (next + 1)
      else (product, next)

/-- Draw new choices if none is left; the next one is one out of `m`. -/
def Choices.refill (w : Words) (m : Nat) (c : Choices) : Choices :=
  if c.left = 0 then
    let (product, next) := widen 32 m (m + 1)
    let (chunk, position) := below w product c.position
    ⟨chunk, next - m, position⟩
  else c

/-- Choose one out of `m`. -/
def Choices.next (w : Words) (m : Nat) (c : Choices) : Nat × Choices :=
  let c := c.refill w m
  if c.left = 1 then (c.chunk, { c with left := 0 })
  else (c.chunk % m, ⟨c.chunk / m, c.left - 1, c.position⟩)

/-- One step of a shuffle: swap the entry at `i` with one that is not behind
it. -/
def shuffleStep (w : Words) (s : Array α × Choices) (i : Nat) :
    Array α × Choices :=
  let (j, c) := s.2.next w (i + 1)
  (s.1.swapIfInBounds i j, c)

/-- Bring the entries of a list into random order. -/
def shuffle (w : Words) (xs : List α) (position : Nat) : List α × Nat :=
  let (shuffled, choices) :=
    (List.range xs.length).foldl (shuffleStep w) (xs.toArray, ⟨0, 1, position⟩)
  (shuffled.toList, choices.position)

end Credence.Random
