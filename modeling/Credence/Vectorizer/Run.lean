/-
Runs of a vectorizer: one operation after the other, each with its answer.
-/
import Credence.Vectorizer

namespace Credence

namespace Vectorizer

/-- Something to do with a vectorizer. -/
inductive Operation where
  | fit (documents : List String)
  | transform (text : String)
  | transformAll (texts : List String)
  | fitTransform (documents : List String)

/-- What an operation says when it succeeds. -/
inductive Answer where
  | fitted
  | row (x : Features)
  | rows (xs : List Features)

def perform (v : Vectorizer) : Operation → Except Error Answer × Vectorizer
  | .fit documents => (.ok .fitted, v.fit documents)
  | .transform text => ((v.transform text).map .row, v)
  | .transformAll texts => ((v.transformAll texts).map .rows, v)
  | .fitTransform documents =>
      let (rows, v) := v.fitTransform documents
      (rows.map .rows, v)

def run (v : Vectorizer) : List Operation → List (Except Error Answer) × Vectorizer
  | [] => ([], v)
  | op :: ops =>
      let (answer, v) := v.perform op
      let (answers, v) := v.run ops
      (answer :: answers, v)

end Vectorizer

end Credence
