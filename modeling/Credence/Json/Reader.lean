/-
Reading JSON text.  The grammar is the strict one: no comments, no trailing
commas, no leading zeros, no raw control characters, and nothing but white space
around the one value.
-/
import Credence.Json
import Credence.Text.Hex

namespace Credence.Json

open Text (hexValue?)

/-- The white space of JSON. -/
def isSpace (c : Char) : Bool :=
  c == ' ' || c == '\t' || c == '\n' || c == '\r'

def skipSpace (s : List Char) : List Char := s.dropWhile isSpace

/-- A part of a string literal: a character, or the code of an escape. -/
inductive Piece where
  | char (c : Char)
  | code (value : Nat)

/-- The number that four hexadecimal digits stand for. -/
def hexCode? (a b c d : Char) : Option Nat := do
  return 4096 * (← hexValue? a) + 256 * (← hexValue? b) + 16 * (← hexValue? c)
    + (← hexValue? d)

/-- The character behind a backslash that stands for another one or itself. -/
def unescape? (c : Char) : Option Char :=
  if c = '\x22' ∨ c = '\x5c' ∨ c = '/' then some c
  else if c = 'b' then some '\x08'
  else if c = 'f' then some '\x0c'
  else if c = 'n' then some '\n'
  else if c = 'r' then some '\r'
  else if c = 't' then some '\t'
  else none

/-- The pieces of a string literal behind its opening quote, and what is left
behind the closing one. -/
def readPieces : List Char → Option (List Piece × List Char)
  | [] => none
  | '\x22' :: rest => some ([], rest)
  | '\x5c' :: 'u' :: a :: b :: c :: d :: rest => do
      let code ← hexCode? a b c d
      let (pieces, rest) ← readPieces rest
      return (.code code :: pieces, rest)
  | '\x5c' :: c :: rest => do
      let c ← unescape? c
      let (pieces, rest) ← readPieces rest
      return (.char c :: pieces, rest)
  | c :: rest =>
      if c.toNat < 0x20 ∨ c = '\x5c' then none
      else do
        let (pieces, rest) ← readPieces rest
        return (.char c :: pieces, rest)

/-- Whether a code is the first half of a surrogate pair. -/
def isHighHalf (code : Nat) : Bool := 0xD800 ≤ code && code ≤ 0xDBFF

/-- Whether a code is the second half of a surrogate pair. -/
def isLowHalf (code : Nat) : Bool := 0xDC00 ≤ code && code ≤ 0xDFFF

/-- The character of a surrogate pair. -/
def pairChar (high low : Nat) : Char :=
  Char.ofNat (0x10000 + 0x400 * (high - 0xD800) + (low - 0xDC00))

/-- The characters of a string literal; nothing if half of a surrogate pair
stands alone. -/
def joinPieces : List Piece → Option (List Char)
  | [] => some []
  | .char c :: rest => (joinPieces rest).map (c :: ·)
  | .code high :: .code low :: rest =>
      if isHighHalf high then
        if isLowHalf low then (joinPieces rest).map (pairChar high low :: ·)
        else none
      else if isLowHalf high then none
      else (joinPieces (.code low :: rest)).map (Char.ofNat high :: ·)
  | .code code :: rest =>
      if isHighHalf code || isLowHalf code then none
      else (joinPieces rest).map (Char.ofNat code :: ·)

/-- The text of a string literal, if it has one. -/
def pieceText? (pieces : List Piece) : Option String :=
  (joinPieces pieces).map String.ofList

/-- Digits in front of a text, and what is left behind them. -/
def readDigits (s : List Char) : List Char × List Char :=
  (s.takeWhile Char.isDigit, s.dropWhile Char.isDigit)

/-- At least one digit in front of a text. -/
def readSomeDigits? (s : List Char) : Option (List Char × List Char) :=
  if (readDigits s).1.isEmpty then none else some (readDigits s)

/-- The digits before the point: a single zero, or digits that begin with
another one. -/
def readWhole? (s : List Char) : Option (List Char × List Char) := do
  let (digits, rest) ← readSomeDigits? s
  if digits.head? = some '0' ∧ digits ≠ ['0'] then none
  else return (digits, rest)

/-- The point and the digits behind it, if there is a point. -/
def readFraction? : List Char → Option (List Char × List Char)
  | '.' :: rest => readSomeDigits? rest
  | s => some ([], s)

def readSign : List Char → Bool × List Char
  | '+' :: rest => (false, rest)
  | '-' :: rest => (true, rest)
  | s => (false, s)

def readExponent? : List Char → Option (Option Int × List Char)
  | c :: rest =>
      if c = 'e' ∨ c = 'E' then do
        let (negative, rest) := readSign rest
        let (digits, rest) ← readSomeDigits? rest
        let size : Int := Numeral.ofDigits digits
        return (some (if negative then -size else size), rest)
      else some (none, c :: rest)
  | [] => some (none, [])

def readUnsigned? (negative : Bool) (s : List Char) :
    Option (Numeral × List Char) := do
  let (whole, rest) ← readWhole? s
  let (fraction, rest) ← readFraction? rest
  let (exponent, rest) ← readExponent? rest
  return (⟨negative, whole, fraction, exponent⟩, rest)

def readNumeral? : List Char → Option (Numeral × List Char)
  | '-' :: rest => readUnsigned? true rest
  | s => readUnsigned? false s

/-- The members of an object as a value. -/
def ofMembers (members : List (Option String × Json)) : Json :=
  match members.mapM fun (name, value) => name.map (·, value) with
  | some members => obj members
  | none => garbled

mutual

/-- The value in front of a text, and what is left behind it. -/
def readValue? : Nat → List Char → Option (Json × List Char)
  | 0, _ => none
  | fuel + 1, s =>
      match skipSpace s with
      | 'n' :: 'u' :: 'l' :: 'l' :: rest => some (null, rest)
      | 't' :: 'r' :: 'u' :: 'e' :: rest => some (bool true, rest)
      | 'f' :: 'a' :: 'l' :: 's' :: 'e' :: rest => some (bool false, rest)
      | '\x22' :: rest => do
          let (pieces, rest) ← readPieces rest
          return (((pieceText? pieces).map str).getD garbled, rest)
      | '[' :: rest =>
          match skipSpace rest with
          | ']' :: rest => some (arr [], rest)
          | _ => do
              let (items, rest) ← readItems? fuel rest
              return (arr items, rest)
      | '\x7b' :: rest =>
          match skipSpace rest with
          | '\x7d' :: rest => some (obj [], rest)
          | _ => do
              let (members, rest) ← readMembers? fuel rest
              return (ofMembers members, rest)
      | s => do
          let (numeral, rest) ← readNumeral? s
          return (num numeral, rest)

/-- The items of an array that is not empty, and what is left behind it. -/
def readItems? : Nat → List Char → Option (List Json × List Char)
  | 0, _ => none
  | fuel + 1, s => do
      let (item, rest) ← readValue? fuel s
      match skipSpace rest with
      | ']' :: rest => return ([item], rest)
      | ',' :: rest =>
          let (items, rest) ← readItems? fuel rest
          return (item :: items, rest)
      | _ => none

/-- The members of an object that is not empty, and what is left behind it. -/
def readMembers? : Nat → List Char →
    Option (List (Option String × Json) × List Char)
  | 0, _ => none
  | fuel + 1, s => do
      match skipSpace s with
      | '\x22' :: rest =>
          let (pieces, rest) ← readPieces rest
          match skipSpace rest with
          | ':' :: rest =>
              let (value, rest) ← readValue? fuel rest
              let member := (pieceText? pieces, value)
              match skipSpace rest with
              | '\x7d' :: rest => return ([member], rest)
              | ',' :: rest =>
                  let (members, rest) ← readMembers? fuel rest
                  return (member :: members, rest)
              | _ => none
          | _ => none
      | _ => none

end

/-- The value that a text stands for.  Every second step of reading passes a
character, so twice the length of the text is fuel enough. -/
def read? (text : String) : Option Json :=
  let s := text.toList
  match readValue? (2 * s.length + 2) s with
  | some (value, rest) => if (skipSpace rest).isEmpty then some value else none
  | none => none

end Credence.Json
