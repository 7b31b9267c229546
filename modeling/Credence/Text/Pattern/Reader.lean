/-
The written form of search patterns.  It has literals, `.`, bracketed classes,
the classes `\d \w \s` and their complements, groups, `|`, the repetitions
`* + ?` and `{m,n}` with their lazy variants, the assertions `\b \B ^ $`, and
`(?i)` to ignore case.  Anything else is no pattern.
-/
import Credence.Text.Pattern
import Credence.Text.Lowercase

namespace Credence.Text.Pattern

/-- The representative of the letters that differ in case only. -/
def caseKey (c : Char) : Char :=
  if c = 'ſ' then 's' else if c = 'ς' then 'σ' else lowerChar c

/-- A class widened to the other cases of its members. -/
def ignoringCase (accepts : Char → Bool) (c : Char) : Bool :=
  let key := caseKey c
  accepts c || accepts key || accepts key.toUpper
    || (key == 's' && accepts 'ſ') || (key == 'σ' && accepts 'ς')

/-- A class under the current reading of case. -/
def classFor (fold : Bool) (accepts : Char → Bool) : Pattern :=
  single (if fold then ignoringCase accepts else accepts)

/-- The class that a letter stands for behind a backslash. -/
def escapedClass? : Char → Option (Char → Bool)
  | 'd' => some isDecimal
  | 'D' => some fun c => !isDecimal c
  | 'w' => some isWord
  | 'W' => some fun c => !isWord c
  | 's' => some isBlank
  | 'S' => some fun c => !isBlank c
  | _ => none

/-- The character that an escape stands for: a control character by its letter,
punctuation by itself. -/
def escapedChar? : Char → Option Char
  | 'n' => some '\n'
  | 't' => some '\t'
  | 'r' => some '\r'
  | 'f' => some '\x0c'
  | 'v' => some '\x0b'
  | 'a' => some '\x07'
  | c => if c.toNat < 0x80 && !c.isAlphanum && c != '<' && c != '>' then some c
         else none

/-- One character of a bracketed class, escaped or plain. -/
def readClassChar? : List Char → Option (Char × List Char)
  | '\\' :: c :: rest => (escapedChar? c).map (·, rest)
  | '\\' :: [] => none
  | c :: rest => some (c, rest)
  | [] => none

def readMembers? : Nat → List Char → Option ((Char → Bool) × List Char)
  | 0, _ => none
  | _ + 1, ']' :: rest => some (fun _ => false, rest)
  | _ + 1, '[' :: _ => none
  | fuel + 1, s => do
      let (member, rest) ←
        match s with
        | '\\' :: c :: rest =>
            match escapedClass? c with
            | some accepts => some (accepts, rest)
            | none => readRange? s
        | _ => readRange? s
      let (others, rest) ← readMembers? fuel rest
      return (fun c => member c || others c, rest)
where
  /-- A range `a-z`, or one character alone. -/
  readRange? (s : List Char) : Option ((Char → Bool) × List Char) := do
    let (low, rest) ← readClassChar? s
    match rest with
    | '-' :: ']' :: _ => return ((· == low), rest)
    | '-' :: rest =>
        let (high, rest) ← readClassChar? rest
        if low ≤ high then return (fun c => low ≤ c && c ≤ high, rest) else none
    | _ => return ((· == low), rest)

/-- A bracketed class behind its opening bracket.  A bracket that comes first is
a member. -/
def readClass? (fold : Bool) (s : List Char) :
    Option (Pattern × List Char) := do
  let (negated, s) := match s with
    | '^' :: rest => (true, rest)
    | _ => (false, s)
  let (first, s) := match s with
    | ']' :: rest => ((· == ']'), rest)
    | _ => ((fun (_ : Char) => false), s)
  let (others, rest) ← readMembers? (s.length + 1) s
  let accepts := fun c => first c || others c
  let accepts := if fold then ignoringCase accepts else accepts
  return (single fun c => accepts c != negated, rest)

def readCount? (s : List Char) : Option (Nat × List Char) :=
  match s.takeWhile Char.isDigit with
  | [] => none
  | digits =>
      some (digits.foldl (fun n c => 10 * n + (c.toNat - 48)) 0,
        s.dropWhile Char.isDigit)

/-- The bounds of a counted repetition behind its opening brace. -/
def readBounds? (s : List Char) : Option ((Nat × Option Nat) × List Char) := do
  let (low, s) ← readCount? s
  match s with
  | '\x7d' :: rest => return ((low, some low), rest)
  | ',' :: '\x7d' :: rest => return ((low, none), rest)
  | ',' :: s =>
      let (high, s) ← readCount? s
      match s with
      | '\x7d' :: rest =>
          if low ≤ high then return ((low, some high), rest) else none
      | _ => none
  | _ => none

/-- A pattern between `low` and `high` times. -/
def repeated (p : Pattern) (low : Nat) (high : Option Nat) (greedy : Bool) :
    Pattern :=
  match low, high with
  | 0, none => many p greedy
  | 1, none => seq p (many p greedy)
  | _, none => seq (replicate p low) (many p greedy)
  | _, some high => seq (replicate p low) (atMost p greedy (high - low))

/-- The repetitions written behind a pattern. -/
def readRepeats? : Nat → Pattern → List Char → Option (Pattern × List Char)
  | 0, _, _ => none
  | fuel + 1, p, s =>
      let go (low : Nat) (high : Option Nat) (rest : List Char) :=
        match rest with
        | '?' :: rest => readRepeats? fuel (repeated p low high false) rest
        | _ => readRepeats? fuel (repeated p low high true) rest
      match s with
      | '*' :: rest => go 0 none rest
      | '+' :: rest => go 1 none rest
      | '?' :: rest => go 0 (some 1) rest
      | '\x7b' :: rest => do
          let ((low, high), rest) ← readBounds? rest
          go low high rest
      | _ => some (p, s)

/-- A group's name and its closing bracket. -/
def skipName? (s : List Char) : Option (List Char) :=
  match s with
  | c :: _ =>
      if c.isAlpha || c == '_' then
        match s.dropWhile (fun c => c.isAlphanum || c == '_') with
        | '>' :: rest => some rest
        | _ => none
      else none
  | [] => none

mutual

/-- Branches up to the end of a group or of the text. -/
def readBranches? : Nat → Bool → List Char → Option (Pattern × List Char)
  | 0, _, _ => none
  | fuel + 1, fold, s => do
      let (p, fold, rest) ← readSequence? fuel fold s
      match rest with
      | '|' :: rest =>
          let (q, rest) ← readBranches? fuel fold rest
          return (alt p q, rest)
      | _ => return (p, rest)

/-- One branch.  Also tells how case is read from here on in the group. -/
def readSequence? : Nat → Bool → List Char →
    Option (Pattern × Bool × List Char)
  | 0, _, _ => none
  | fuel + 1, fold, s =>
      match s with
      | [] => some (empty, fold, s)
      | ')' :: _ => some (empty, fold, s)
      | '|' :: _ => some (empty, fold, s)
      | '(' :: '?' :: 'i' :: ')' :: rest => readSequence? fuel true rest
      | _ => do
          let (p, rest) ← readItem? fuel fold s
          let (p, rest) ← readRepeats? (rest.length + 1) p rest
          let (q, fold, rest) ← readSequence? fuel fold rest
          return (seq p q, fold, rest)

/-- One group, class, assertion or literal. -/
def readItem? : Nat → Bool → List Char → Option (Pattern × List Char)
  | 0, _, _ => none
  | fuel + 1, fold, s =>
      let group (fold : Bool) (rest : List Char) := do
        let (p, rest) ← readBranches? fuel fold rest
        match rest with
        | ')' :: rest => some (p, rest)
        | _ => none
      match s with
      | [] => none
      | '(' :: '?' :: ':' :: rest => group fold rest
      | '(' :: '?' :: 'i' :: ':' :: rest => group true rest
      | '(' :: '?' :: 'P' :: '<' :: rest => (skipName? rest).bind (group fold)
      | '(' :: '?' :: '<' :: rest => (skipName? rest).bind (group fold)
      | '(' :: '?' :: _ => none
      | '(' :: rest => group fold rest
      | '[' :: rest => readClass? fold rest
      | '.' :: rest => some (single (· != '\n'), rest)
      | '^' :: rest => some (atStart, rest)
      | '$' :: rest => some (atEnd, rest)
      | '\\' :: 'b' :: rest => some (boundary false, rest)
      | '\\' :: 'B' :: rest => some (boundary true, rest)
      | '\\' :: c :: rest =>
          match escapedClass? c with
          | some accepts => some (classFor fold accepts, rest)
          | none => (escapedChar? c).map fun c => (classFor fold (· == c), rest)
      | '\\' :: [] => none
      | c :: rest =>
          if c == '*' || c == '+' || c == '?' || c == '\x7b' || c == ')' then none
          else some (classFor fold (· == c), rest)

end

/-- The pattern that a text denotes, if it denotes one. -/
def read? (source : String) : Option Pattern :=
  let s := source.toList
  match readBranches? (3 * s.length + 3) false s with
  | some (p, []) => some p
  | _ => none

end Credence.Text.Pattern
