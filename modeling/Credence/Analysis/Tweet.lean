/-
Flattening a tweet into plain words: lower case, a placeholder for every link, no
marks in front of names and topics, and single spaces instead of punctuation.
-/
import Credence.Text.Lowercase
import Credence.Text.CharClass

namespace Credence.Analysis.Tweet

open Text (isBlank isWord)

/-- The word that stands for every link. -/
def linkWord : List Char := ['u', 'r', 'l']

/-- What follows the scheme of a link in front of a text. -/
def afterScheme? : List Char → Option (List Char)
  | 'h' :: 't' :: 't' :: 'p' :: ':' :: '/' :: '/' :: rest => some rest
  | 'h' :: 't' :: 't' :: 'p' :: 's' :: ':' :: '/' :: '/' :: rest => some rest
  | _ => none

/-- What is left behind a link in front of a text.  A link is a scheme and at
least one character that is not blank, and it goes on up to the next blank. -/
def afterLink? (s : List Char) : Option (List Char) :=
  match afterScheme? s with
  | some (c :: rest) =>
      if isBlank c then none else some (rest.dropWhile (!isBlank ·))
  | _ => none

/-- Write the placeholder for every link.  A link has at least one character, so
the length of the text is fuel enough. -/
def replaceLinksWith : Nat → List Char → List Char
  | 0, s => s
  | fuel + 1, s =>
      match afterLink? s with
      | some rest => linkWord ++ replaceLinksWith fuel rest
      | none =>
          match s with
          | [] => []
          | c :: rest => c :: replaceLinksWith fuel rest

def replaceLinks (s : List Char) : List Char :=
  replaceLinksWith s.length s

/-- Drop a mark wherever a word character follows it directly. -/
def dropMark (mark : Char) : List Char → List Char
  | [] => []
  | c :: rest =>
      if c = mark ∧ rest.head?.any isWord = true then dropMark mark rest
      else c :: dropMark mark rest

/-- Write a space for every character that is neither of a word nor blank. -/
def blankPunctuation (s : List Char) : List Char :=
  s.map fun c => if isWord c || isBlank c then c else ' '

/-- Write one space for every run of blanks. -/
def collapseBlanks : List Char → List Char
  | [] => []
  | c :: rest =>
      if isBlank c then
        if rest.head?.any isBlank then collapseBlanks rest
        else ' ' :: collapseBlanks rest
      else c :: collapseBlanks rest

/-- The plain words of a tweet, given as characters. -/
def normalizeChars (s : List Char) : List Char :=
  Text.trimChars <| collapseBlanks <| blankPunctuation <| dropMark '#' <|
    dropMark '@' <| replaceLinks <| Text.lowercaseChars s

def normalize (s : String) : String :=
  String.ofList (normalizeChars s.toList)

/-- The name under which this filter is shown. -/
def filterName : String := "tweet"

end Credence.Analysis.Tweet
