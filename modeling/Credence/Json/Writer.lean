/-
Writing JSON text: on one line, or spread over lines with two spaces for every
level.
-/
import Credence.Json
import Credence.Text.Hex

namespace Credence.Json

open Text (hexDigit)

def escapeChar (c : Char) : List Char :=
  if c = '\x22' ∨ c = '\x5c' then ['\x5c', c]
  else if c = '\x08' then ['\x5c', 'b']
  else if c = '\t' then ['\x5c', 't']
  else if c = '\n' then ['\x5c', 'n']
  else if c = '\x0c' then ['\x5c', 'f']
  else if c = '\r' then ['\x5c', 'r']
  else if c.toNat < 0x20 then
    ['\x5c', 'u', '0', '0', hexDigit (c.toNat / 16), hexDigit (c.toNat % 16)]
  else [c]

def quote (s : String) : String :=
  "\x22" ++ String.ofList (s.toList.flatMap escapeChar) ++ "\x22"

/-- How values are laid out: what stands in front of a part at a given depth, and
what stands between a name and its value. -/
structure Layout where
  newline : Nat → String
  colon : String

/-- Everything on one line. -/
def Layout.compact : Layout := ⟨fun _ => "", ":"⟩

/-- Every part on a line of its own. -/
def Layout.indented : Layout where
  newline depth := String.ofList ('\n' :: List.replicate (2 * depth) ' ')
  colon := ": "

mutual

/-- The pieces that the text of a value at a given depth consists of. -/
def piecesAt (l : Layout) (depth : Nat) : Json → List String
  | null | garbled => ["null"]
  | bool b => [if b then "true" else "false"]
  | num n => [n.text]
  | str s => [quote s]
  | arr [] => ["[]"]
  | arr (item :: items) =>
      "[" :: l.newline (depth + 1) :: piecesAt l (depth + 1) item
        ++ itemPieces l depth items
  | obj [] => ["\x7b\x7d"]
  | obj ((name, value) :: members) =>
      "\x7b" :: l.newline (depth + 1) :: quote name :: l.colon
        :: piecesAt l (depth + 1) value ++ memberPieces l depth members

/-- The pieces of the further items of an array, up to its end. -/
def itemPieces (l : Layout) (depth : Nat) : List Json → List String
  | [] => [l.newline depth, "]"]
  | item :: items =>
      "," :: l.newline (depth + 1) :: piecesAt l (depth + 1) item
        ++ itemPieces l depth items

/-- The pieces of the further members of an object, up to its end. -/
def memberPieces (l : Layout) (depth : Nat) :
    List (String × Json) → List String
  | [] => [l.newline depth, "\x7d"]
  | (name, value) :: members =>
      "," :: l.newline (depth + 1) :: quote name :: l.colon
        :: piecesAt l (depth + 1) value ++ memberPieces l depth members

end

def write (l : Layout) (j : Json) : String := String.join (piecesAt l 0 j)

end Credence.Json
