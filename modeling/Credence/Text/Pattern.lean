/-
Search patterns over text: classes of characters joined by sequence, choice and
repetition, with word boundaries.  Of the matches that start at one place the
first one counts: an earlier branch goes before a later one, and a greedy
repetition prefers to go on.
-/
import Credence.Text.CharClass

namespace Credence.Text

/-- A place in a text: the character just passed, the characters ahead, and the
number of UTF-8 bytes behind. -/
structure Cursor where
  before : Option Char
  ahead : List Char
  offset : Nat

def Cursor.start (s : List Char) : Cursor := ⟨none, s, 0⟩

def Cursor.next? (c : Cursor) : Option (Char × Cursor) :=
  match c.ahead with
  | [] => none
  | x :: rest => some (x, ⟨some x, rest, c.offset + x.utf8Size⟩)

/-- Whether a word begins or ends here: exactly one of the two neighbours is a
word character. -/
def Cursor.atBoundary (c : Cursor) : Bool :=
  c.before.any isWord != c.ahead.head?.any isWord

/-- The characters from the byte `offset` on that begin in front of `stop`. -/
def charsUpTo (stop : Nat) : Nat → List Char → List Char
  | _, [] => []
  | offset, x :: rest =>
      if offset < stop then x :: charsUpTo stop (offset + x.utf8Size) rest
      else []

/-- The characters between this place and a later one of the same text. -/
def Cursor.upTo (c stop : Cursor) : List Char :=
  charsUpTo stop.offset c.offset c.ahead

/-- A search pattern. -/
inductive Pattern where
  /-- Matches without passing a character. -/
  | empty
  /-- Passes one accepted character. -/
  | single (accepts : Char → Bool)
  /-- Holds where a word begins or ends, or only elsewhere if negated. -/
  | boundary (negated : Bool)
  /-- Holds in front of the text. -/
  | atStart
  /-- Holds behind the text. -/
  | atEnd
  /-- One pattern, then another. -/
  | seq (first second : Pattern)
  /-- The preferred pattern, or else the other. -/
  | alt (preferred other : Pattern)
  /-- Any number of rounds, as many as possible if greedy. -/
  | many (body : Pattern) (greedy : Bool)

namespace Pattern

/-- The places that rounds of `step` lead to, in order of preference and in
front of `others`.  A round that passes nothing ends the repetition, so the
text's length is fuel enough. -/
def repeatEnds (step : Cursor → List Cursor) (greedy : Bool) :
    Nat → Cursor → List Cursor → List Cursor
  | 0, c, others => c :: others
  | fuel + 1, c, others =>
      let rounds := (step c).filter (·.offset != c.offset)
      if greedy then
        rounds.foldr (repeatEnds step greedy fuel) (c :: others)
      else c :: rounds.foldr (repeatEnds step greedy fuel) others

/-- The places where a match that starts here can end, in order of preference.
No repetition has more rounds than `limit`. -/
def ends (limit : Nat) : Pattern → Cursor → List Cursor
  | empty, c => [c]
  | single accepts, c =>
      match c.next? with
      | some (x, d) => if accepts x then [d] else []
      | none => []
  | boundary negated, c => if c.atBoundary != negated then [c] else []
  | atStart, c => if c.before.isNone then [c] else []
  | atEnd, c => if c.ahead.isEmpty then [c] else []
  | seq first second, c => (first.ends limit c).flatMap (second.ends limit)
  | alt preferred other, c => preferred.ends limit c ++ other.ends limit c
  | many body greedy, c => repeatEnds (body.ends limit) greedy limit c []

def replicate (p : Pattern) : Nat → Pattern
  | 0 => empty
  | n + 1 => seq p (replicate p n)

def atMost (p : Pattern) (greedy : Bool) : Nat → Pattern
  | 0 => empty
  | n + 1 =>
      let further := seq p (atMost p greedy n)
      if greedy then alt further empty else alt empty further

/-- A pattern at least once, as often as possible. -/
def oneOrMore (p : Pattern) : Pattern := seq p (many p true)

end Pattern

/-- A stretch of a text with the byte offsets of its ends. -/
structure Span where
  text : String
  start : Nat
  stop : Nat
deriving DecidableEq, Repr

def Cursor.span (c stop : Cursor) : Span :=
  ⟨String.ofList (c.upTo stop), c.offset, stop.offset⟩

namespace Pattern

/-- The matches from a place on, from left to right and apart from each other.
An empty match right behind another match is not counted.  Every step passes a
character, so one more than the length of the text is fuel enough. -/
def spansFrom (p : Pattern) (limit : Nat) : Nat → Cursor → Bool → List Span
  | 0, _, _ => []
  | fuel + 1, c, behindMatch =>
      let best := (p.ends limit c).head?
      match best.filter (·.offset != c.offset) with
      | some stop => c.span stop :: spansFrom p limit fuel stop true
      | none =>
          let here := if best.isSome && !behindMatch then [c.span c] else []
          match c.next? with
          | some (_, d) => here ++ spansFrom p limit fuel d false
          | none => here

/-- All matches of a pattern in a text, from left to right. -/
def spans (p : Pattern) (s : String) : List Span :=
  let chars := s.toList
  p.spansFrom chars.length (chars.length + 1) (.start chars) false

end Pattern

end Credence.Text
