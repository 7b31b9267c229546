/-
Lower case of a text.  Most characters map one to one; a capital I with a dot
becomes two characters, and a capital sigma looks at its neighbours to find out
whether it ends a word.
-/
import Credence.Text.Ranges
import Credence.Text.CaseTable

namespace Credence.Text

/-- Look for the run that holds `code` among the runs `low, …, high - 1`. -/
def caseRunBetween? (code : Nat) : Nat → Nat → Nat → Option CaseRun
  | 0, _, _ => none
  | fuel + 1, low, high =>
      if low < high then
        let middle := (low + high) / 2
        match caseRuns[middle]? with
        | none => none
        | some run =>
            if code < run.first then caseRunBetween? code fuel low middle
            else if run.last < code then
              caseRunBetween? code fuel (middle + 1) high
            else some run
      else none

/-- The lower-case partner of a character that has exactly one, else the
character itself. -/
def lowerChar (c : Char) : Char :=
  let code := c.toNat
  if code < 0x80 then c.toLower
  else
    match caseRunBetween? code caseRuns.size 0 caseRuns.size with
    | some run =>
        if (code - run.first) % run.step = 0 then
          Char.ofNat ((code : Int) + run.shift).toNat
        else c
    | none => c

/-- Characters that come in upper, lower or title case. -/
def isCased (c : Char) : Bool :=
  if c.toNat < 0x80 then c.isAlpha
  else inRanges casedRanges c.toNat

/-- Characters that a final sigma looks through: marks, modifiers and the
punctuation found inside words. -/
def isCaseIgnorable (c : Char) : Bool :=
  if c.toNat < 0x80 then
    c.toNat == 0x27 || c == '.' || c == ':' || c == '^' || c.toNat == 0x60
  else inRanges caseIgnorableRanges c.toNat

/-- Whether the nearest character that counts is cased. -/
def facesCased (neighbours : List Char) : Bool :=
  (neighbours.dropWhile isCaseIgnorable).head?.any isCased

/-- The small sigma between the characters `before` it, nearest first, and those
`after` it: final behind a cased letter unless another one follows. -/
def smallSigma (before after : List Char) : Char :=
  if facesCased before && !facesCased after then 'ς' else 'σ'

/-- Lower-case what follows the characters `before`, nearest first. -/
def lowercaseAfter (before : List Char) : List Char → List Char
  | [] => []
  | c :: rest =>
      (if c = 'İ' then ['i', '\u0307']
       else if c = 'Σ' then [smallSigma before rest]
       else [lowerChar c]) ++ lowercaseAfter (c :: before) rest

/-- The characters of a text in lower case. -/
def lowercaseChars (s : List Char) : List Char :=
  lowercaseAfter [] s

def lowercase (s : String) : String :=
  String.ofList (lowercaseChars s.toList)

end Credence.Text
