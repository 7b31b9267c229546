/-
Labelled texts: what a pipeline is fed with.
-/
import Credence.Json.Fields
import Credence.Json.Reader
import Credence.Labels

namespace Credence

/-- A text with the label that somebody gave it. -/
structure Record where
  text : String
  label : String
deriving DecidableEq, Repr

namespace Record

/-- A record must have both parts.  The text may also be called a tweet. -/
def ofJson? (j : Json) : Option Record := do
  let f ← j.fields? [["text", "tweet"], ["label"]]
  return {
    text := ← f.required 0 Json.toText?
    label := ← f.required 1 Json.toText? }

def decodeAll (j : Json) : Except Error (List Record) :=
  match j.toList? ofJson? with
  | some records => .ok records
  | none => .error .malformedJson

/-- The records that a text stands for. -/
def readAll (text : String) : Except Error (List Record) :=
  match Json.read? text with
  | some j => decodeAll j
  | none => .error .malformedJson

/-- The text of a record and the class that its label names. -/
def accept (labels : LabelPair) (r : Record) :
    Except Error (String × Verdict) :=
  if Text.isBlankText r.text then .error .blankText
  else
    match labels.encode? r.label with
    | some verdict => .ok (r.text, verdict)
    | none => .error (.unknownLabel r.label)

end Record

end Credence
