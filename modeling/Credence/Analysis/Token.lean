/-
Tokens: the stretches of a text that a tokenizer keeps, numbered in order.
-/
import Credence.Error
import Credence.Text.Pattern.Reader

namespace Credence.Analysis

open Text (Pattern Span)

/-- One kept stretch of a text with its place in the sequence. -/
structure Token where
  text : String
  position : Nat
  start : Nat
  stop : Nat
deriving DecidableEq, Repr

def Token.charCount (t : Token) : Nat := t.text.toList.length

/-- The number of UTF-8 bytes of a token. -/
def Token.byteCount (t : Token) : Nat := t.text.utf8ByteSize

def Token.ofSpan (position : Nat) (s : Span) : Token :=
  ⟨s.text, position, s.start, s.stop⟩

/-- Number the tokens of a sequence from zero on. -/
def renumber (tokens : List Token) : List Token :=
  tokens.mapIdx fun position t => { t with position }

/-- A search pattern together with its written form. -/
structure Tokenizer where
  source : String
  pattern : Pattern

namespace Tokenizer

/-- Words: runs of word characters that begin and end at a word boundary. -/
def words : Tokenizer where
  source := "\\b\\w+\\b"
  pattern := .seq (.boundary false)
    (.seq (.oneOrMore (.single Text.isWord)) (.boundary false))

def ofSource (source : String) : Except Error Tokenizer :=
  match Pattern.read? source with
  | some pattern => .ok ⟨source, pattern⟩
  | none => .error .badPattern

def name (_ : Tokenizer) : String := "regex"

/-- Every match of the pattern, from left to right. -/
def tokens (t : Tokenizer) (text : String) : List Token :=
  (t.pattern.spans text).mapIdx Token.ofSpan

end Tokenizer

end Credence.Analysis
