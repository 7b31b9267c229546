/-
Vocabularies: the distinct terms of some documents, numbered in the order in which
they first occur, and how many documents hold each of them.
-/
import Std.Data.HashMap
import Std.Data.HashSet

namespace Credence

/-- Distinct terms with a number for each. -/
structure Vocabulary where
  terms : Array String
  index : Std.HashMap String Nat

namespace Vocabulary

def empty : Vocabulary := ⟨#[], ∅⟩

def size (v : Vocabulary) : Nat := v.terms.size

def indexOf? (v : Vocabulary) (term : String) : Option Nat := v.index[term]?

/-- Give the next number to a term. -/
def push (v : Vocabulary) (term : String) : Vocabulary :=
  ⟨v.terms.push term, v.index.insert term v.size⟩

@[simp] theorem size_push (v : Vocabulary) (term : String) :
    (v.push term).size = v.size + 1 := Array.size_push term

theorem getElem?_push (v : Vocabulary) (term : String) (i : Nat) :
    (v.push term).terms[i]? = if i = v.size then some term else v.terms[i]? :=
  Array.getElem?_push

end Vocabulary

/-- The terms of some documents, and by their numbers how many of the documents hold
them. -/
structure Census where
  vocabulary : Vocabulary
  holders : Array Nat

namespace Census

def empty : Census := ⟨.empty, #[]⟩

/-- One more term, which no document holds yet. -/
def push (c : Census) (term : String) : Census :=
  ⟨c.vocabulary.push term, c.holders.push 0⟩

/-- The number of a term, which gets the next one if it has none. -/
def enter (c : Census) (term : String) : Nat × Census :=
  match c.vocabulary.indexOf? term with
  | some i => (i, c)
  | none => (c.vocabulary.size, c.push term)

/-- Count one more document for the term with some number. -/
def count (c : Census) (i : Nat) : Census :=
  { c with holders := c.holders.modify i (· + 1) }

/-- Take note of one more term of a document.  It is counted unless its number is
among those that were seen in the document before. -/
def note (s : Census × Std.HashSet Nat) (term : String) :
    Census × Std.HashSet Nat :=
  let (i, c) := s.1.enter term
  if s.2.contains i then (c, s.2) else (c.count i, s.2.insert i)

/-- Take note of all terms of a document. -/
def addDocument (c : Census) (words : List String) : Census :=
  (words.foldl note (c, ∅)).1

def ofDocuments (documents : List (List String)) : Census :=
  documents.foldl addDocument empty

end Census

end Credence
