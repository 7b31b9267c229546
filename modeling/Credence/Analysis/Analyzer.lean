/-
From a text to its terms: some rounds of tweet normalization, lower case, a
tokenizer, and a least length of the tokens to keep.
-/
import Credence.Analysis.Token
import Credence.Analysis.Tweet

namespace Credence.Analysis

/-- How texts are turned into tokens.  Every kept token has a character at
least. -/
structure Analyzer where
  tweetRounds : Nat
  tokenizer : Tokenizer
  minLength : Nat
  minLength_pos : 1 ≤ minLength := by decide

namespace Analyzer

/-- Words in lower case, and nothing else. -/
def standard : Analyzer := ⟨0, .words, 1, by decide⟩

/-- Keep only tokens of at least `length` characters; zero means one. -/
def withMinLength (a : Analyzer) (length : Nat) : Analyzer :=
  { a with minLength := max length 1, minLength_pos := Nat.le_max_right _ _ }

/-- Normalize tweets in so many rounds before anything else. -/
def withTweetRounds (a : Analyzer) (rounds : Nat) : Analyzer :=
  { a with tweetRounds := rounds }

/-- A text after a number of rounds of tweet normalization. -/
def filterRounds : Nat → String → String
  | 0, text => text
  | n + 1, text => filterRounds n (Tweet.normalize text)

/-- The text that the tokenizer gets to see. -/
def prepare (a : Analyzer) (text : String) : String :=
  Text.lowercase (filterRounds a.tweetRounds text)

/-- The kept tokens of a text, numbered in order.  Their offsets belong to the
prepared text. -/
def tokens (a : Analyzer) (text : String) : List Token :=
  renumber ((a.tokenizer.tokens (a.prepare text)).filter
    fun t => decide (a.minLength ≤ t.charCount))

def terms (a : Analyzer) (text : String) : List String :=
  (a.tokens text).map (·.text)

def name (a : Analyzer) : String :=
  if a.tweetRounds = 0 then "standard" else "standard_filtered"

def describe (a : Analyzer) : String :=
  let filters := List.replicate a.tweetRounds ("\"" ++ Tweet.filterName ++ "\"")
  "StandardAnalyzer \x7b char_filters: [" ++ String.intercalate ", " filters
    ++ "], tokenizer: \"" ++ a.tokenizer.name ++ "\", min_token_length: "
    ++ toString a.minLength ++ " \x7d"

end Analyzer

/-- The words of a text in lower case. -/
def tokenize (text : String) : List String :=
  Analyzer.standard.terms text

end Credence.Analysis
