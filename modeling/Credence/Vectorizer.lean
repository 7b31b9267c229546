/-
From texts to rows of features.  A feature is the share of a term among the terms
of the text, weighted by how few of the documents seen before hold that term.
-/
import Credence.Analysis.Analyzer
import Credence.Features
import Credence.Vectorizer.Vocabulary

namespace Credence

/-- How the number of documents with a term makes the weight of the term. -/
inductive Weighting where
  /-- The logarithm alone, which is negative for a term of every document. -/
  | unsmoothed
  /-- One more document with all terms, and one more for every logarithm. -/
  | smoothed
deriving DecidableEq, Repr

namespace Weighting

/-- The weight of a term that `documents` documents out of `total` hold. -/
def weight (w : Weighting) (total documents : Nat) : Float :=
  let n := Float.ofNat total
  let d := Float.ofNat documents
  match w with
  | unsmoothed => Float.log (n / (d + 1.0))
  | smoothed => Float.log ((n + 1.0) / (d + 1.0)) + 1.0

def name : Weighting → String
  | unsmoothed => "unsmoothed"
  | smoothed => "smoothed"

def ofName? : String → Option Weighting
  | "unsmoothed" => some unsmoothed
  | "smoothed" => some smoothed
  | _ => none

def describe : Weighting → String
  | unsmoothed => "Unsmoothed"
  | smoothed => "Smoothed"

end Weighting

/-- How texts become features. -/
structure VectorizerSettings where
  weighting : Weighting
  minLength : Nat
  normalizeTweets : Bool
deriving DecidableEq, Repr

namespace VectorizerSettings

def standard : VectorizerSettings := ⟨.unsmoothed, 1, false⟩

def problem? (s : VectorizerSettings) : Option InvalidSetting :=
  if s.minLength = 0 then some .tokenLength else none

def analyzer (s : VectorizerSettings) : Analysis.Analyzer :=
  let rounds := if s.normalizeTweets then 1 else 0
  (Analysis.Analyzer.standard.withTweetRounds rounds).withMinLength s.minLength

def describe (s : VectorizerSettings) : String :=
  "VectorizerConfig \x7b idf: " ++ s.weighting.describe
    ++ ", min_token_length: " ++ toString s.minLength
    ++ ", normalize_tweets: " ++ toString s.normalizeTweets ++ " \x7d"

end VectorizerSettings

/-- What is learnt from documents: their terms, and a weight for each term. -/
structure TermTable where
  vocabulary : Vocabulary
  weights : Array Float
  documents : Nat

namespace TermTable

def empty : TermTable := ⟨.empty, #[], 0⟩

/-- Learn from the terms of some documents. -/
def ofDocuments (w : Weighting) (documents : List (List String)) : TermTable :=
  let census := Census.ofDocuments documents
  { vocabulary := census.vocabulary
    weights := census.holders.map (w.weight documents.length)
    documents := documents.length }

def weightOf? (t : TermTable) (term : String) : Option Float :=
  (t.vocabulary.indexOf? term).map fun i => t.weights.getD i 0.0

/-- Add one at the place of a term, if it has one. -/
def countTerm (t : TermTable) (x : Features) (term : String) : Features :=
  match t.vocabulary.indexOf? term with
  | some i => x.modify i (· + 1.0)
  | none => x

def counts (t : TermTable) (terms : List String) : Features :=
  terms.foldl t.countTerm (Array.replicate t.vocabulary.size 0.0)

/-- The features of a text with the given terms.  A text without terms has no
shares. -/
def features (t : TermTable) (terms : List String) : Features :=
  let length := Float.ofNat terms.length
  if 0.0 < length then
    (t.counts terms).mapIdx fun i x => x / length * t.weights.getD i 0.0
  else t.counts terms

end TermTable

/-- A vectorizer, with what it has learnt so far. -/
structure Vectorizer where
  settings : VectorizerSettings
  analyzer : Analysis.Analyzer
  table? : Option TermTable

namespace Vectorizer

/-- A fresh vectorizer that reads texts in a way of its own. -/
def withAnalyzer (settings : VectorizerSettings) (analyzer : Analysis.Analyzer) :
    Vectorizer := ⟨settings, analyzer, none⟩

def fresh (settings : VectorizerSettings) : Vectorizer :=
  withAnalyzer settings settings.analyzer

/-- A fresh vectorizer, if its settings hold. -/
def make (settings : VectorizerSettings) : Except Error Vectorizer :=
  checked settings.problem? (fresh settings)

/-- The terms of a text. -/
def terms (v : Vectorizer) (text : String) : List String :=
  v.analyzer.terms text

/-- Learn the terms of some documents and forget all others. -/
def fit (v : Vectorizer) (documents : List String) : Vectorizer :=
  { v with
    table? := some (.ofDocuments v.settings.weighting (documents.map v.terms)) }

/-- The features of a text. -/
def transform (v : Vectorizer) (text : String) : Except Error Features :=
  match v.table? with
  | some table => .ok (table.features (v.terms text))
  | none => .error .unfittedVectorizer

def transformAll (v : Vectorizer) (texts : List String) :
    Except Error (List Features) :=
  texts.mapM v.transform

/-- Learn the terms of some documents, and turn the same documents into features. -/
def fitTransform (v : Vectorizer) (documents : List String) :
    Except Error (List Features) × Vectorizer :=
  let v := v.fit documents
  (v.transformAll documents, v)

/-- What was learnt, nothing at first. -/
def table (v : Vectorizer) : TermTable := v.table?.getD .empty

def describe (v : Vectorizer) : String :=
  "TfIdfVectorizer \x7b vocabulary_size: " ++ toString v.table.vocabulary.size
    ++ ", n_documents: " ++ toString v.table.documents
    ++ ", fitted: " ++ toString v.table?.isSome
    ++ ", config: " ++ v.settings.describe
    ++ ", analyzer: \"" ++ v.analyzer.name ++ "\" \x7d"

end Vectorizer

end Credence
