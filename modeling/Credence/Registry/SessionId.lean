/-
Session ids: numbers of 128 bits, written as 32 hexadecimal digits in groups.
-/
import Credence.Error
import Credence.Text.CharClass
import Credence.Text.Hex

namespace Credence

/-- The id of a session. -/
structure SessionId where
  value : BitVec 128
deriving DecidableEq, Repr

namespace SessionId

/-- The id with a given number. -/
def ofNat (n : Nat) : SessionId := ⟨BitVec.ofNat 128 n⟩

/-- Whether one id comes before another one or equals it. -/
def le (x y : SessionId) : Bool := decide (x.value.toNat ≤ y.value.toNat)

/-- The sizes of the groups of digits. -/
def groups : List Nat := [8, 4, 4, 4, 12]

/-- The digits of a number in base sixteen, the last `count` of them. -/
def hexDigits : Nat → Nat → List Char
  | 0, _ => []
  | count + 1, n => hexDigits count (n / 16) ++ [Text.hexDigit (n % 16)]

/-- Put a hyphen between groups of the given sizes. -/
def hyphenate : List Nat → List Char → List Char
  | [], digits => digits
  | [_], digits => digits
  | size :: sizes, digits =>
      digits.take size ++ '-' :: hyphenate sizes (digits.drop size)

def text (id : SessionId) : String :=
  String.ofList (hyphenate groups (hexDigits 32 id.value.toNat))

/-- Take out the hyphens between groups of the given sizes. -/
def unhyphenate? : List Nat → List Char → Option (List Char)
  | [], digits => if digits.isEmpty then some [] else none
  | [size], digits => if digits.length = size then some digits else none
  | size :: sizes, digits =>
      match digits.drop size with
      | '-' :: rest => (unhyphenate? sizes rest).map (digits.take size ++ ·)
      | _ => none

/-- What may stand in front of an id, in any case. -/
def scheme : List Char := ['u', 'r', 'n', ':', 'u', 'u', 'i', 'd', ':']

/-- The digits of an id in any of its written forms: bare, in groups, in groups
and braces, or in groups behind a scheme. -/
def digits? (s : List Char) : Option (List Char) :=
  if s.length = 32 then some s
  else if (s.take scheme.length).map Char.toLower = scheme then
    unhyphenate? groups (s.drop scheme.length)
  else
    match s with
    | '\x7b' :: rest =>
        if rest.getLast? = some '\x7d' then unhyphenate? groups rest.dropLast
        else none
    | _ => unhyphenate? groups s

def ofHex? (digits : List Char) : Option Nat :=
  digits.foldlM (fun n c => (Text.hexValue? c).map (16 * n + ·)) 0

/-- The id that a text stands for. -/
def read (text : String) : Except Error SessionId :=
  match (digits? (Text.trimChars text.toList)).bind ofHex? with
  | some n => .ok (ofNat n)
  | none => .error (.malformedSessionId text)

end SessionId

end Credence
