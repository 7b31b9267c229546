/-
The stream of random words that belongs to a seed: the ChaCha block function with
twelve rounds, keyed by a small generator that spreads the seed over the key.
-/
import Credence.Random.Words

namespace Credence.Random

/-- Four words side by side. -/
structure Lanes where
  first : UInt32
  second : UInt32
  third : UInt32
  fourth : UInt32
deriving DecidableEq, Repr

namespace Lanes

def zipWith (f : UInt32 → UInt32 → UInt32) (x y : Lanes) : Lanes :=
  ⟨f x.first y.first, f x.second y.second, f x.third y.third,
    f x.fourth y.fourth⟩

/-- Move every lane one place to the left, around the end. -/
def rotate (x : Lanes) : Lanes := ⟨x.second, x.third, x.fourth, x.first⟩

def toList (x : Lanes) : List UInt32 := [x.first, x.second, x.third, x.fourth]

end Lanes

/-- Turn the bits of a word to the left, around the end. -/
def turnLeft (x : UInt32) (amount : UInt32) : UInt32 :=
  (x <<< amount) ||| (x >>> (32 - amount))

/-- Sixteen words in four rows. -/
structure Block where
  a : Lanes
  b : Lanes
  c : Lanes
  d : Lanes
deriving DecidableEq, Repr

namespace Block

/-- Add `y` to `x`, mix the sum into `z` and turn that. -/
def mix (x y z : Lanes) (amount : UInt32) : Lanes × Lanes :=
  let sum := x.zipWith (· + ·) y
  (sum, sum.zipWith (fun s t => turnLeft (s ^^^ t) amount) z)

/-- The quarter round on all four columns. -/
def columns (s : Block) : Block :=
  let (a, d) := mix s.a s.b s.d 16
  let (c, b) := mix s.c d s.b 12
  let (a, d) := mix a b d 8
  let (c, b) := mix c d b 7
  ⟨a, b, c, d⟩

/-- Move the diagonals into the columns. -/
def skew (s : Block) : Block :=
  ⟨s.a, s.b.rotate, s.c.rotate.rotate, s.d.rotate.rotate.rotate⟩

/-- Move the diagonals back. -/
def unskew (s : Block) : Block :=
  ⟨s.a, s.b.rotate.rotate.rotate, s.c.rotate.rotate, s.d.rotate⟩

/-- A round on the columns and one on the diagonals. -/
def doubleRound (s : Block) : Block := s.columns.skew.columns.unskew

/-- Six double rounds, added to the start. -/
def scramble (s : Block) : Block :=
  let t := Nat.repeat doubleRound 6 s
  let add := Lanes.zipWith (· + ·)
  ⟨add t.a s.a, add t.b s.b, add t.c s.c, add t.d s.d⟩

def toList (s : Block) : List UInt32 :=
  s.a.toList ++ s.b.toList ++ s.c.toList ++ s.d.toList

end Block

/-- The state of the generator that makes a key, one step on. -/
def keyStep (state : UInt64) : UInt64 :=
  state * 6364136223846793005 + 11634580027462260723

/-- The word of a key that a state gives. -/
def keyWord (state : UInt64) : UInt32 :=
  let mixed := (((state >>> 18) ^^^ state) >>> 27).toUInt32
  let amount := (state >>> 59).toUInt32
  (mixed >>> amount) ||| (mixed <<< ((32 - amount) % 32))

/-- Four words of a key from a state, and the state behind them. -/
def keyLanes (state : UInt64) : Lanes × UInt64 :=
  let s₁ := keyStep state
  let s₂ := keyStep s₁
  let s₃ := keyStep s₂
  let s₄ := keyStep s₃
  (⟨keyWord s₁, keyWord s₂, keyWord s₃, keyWord s₄⟩, s₄)

/-- The block of a seed with a given number. -/
def seededBlock (seed : UInt64) (number : Nat) : Block :=
  let (b, state) := keyLanes seed
  let c := (keyLanes state).1
  let counter := UInt64.ofNat number
  let d : Lanes := ⟨counter.toUInt32, (counter >>> 32).toUInt32, 0, 0⟩
  Block.scramble
    ⟨⟨0x61707865, 0x3320646e, 0x79622d32, 0x6b206574⟩, b, c, d⟩

/-- The stream of random words of a seed: block after block. -/
def seeded (seed : UInt64) : Words :=
  fun i => (seededBlock seed (i / 16)).toList.getD (i % 16) 0

end Credence.Random
