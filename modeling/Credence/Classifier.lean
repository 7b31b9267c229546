/-
Classifiers of any kind behind one interface: fit to a training set, then ask for
the class of a row.
-/
import Credence.Classifier.Forest
import Credence.Classifier.Kind
import Credence.Classifier.Logistic
import Credence.Classifier.Nearest

namespace Credence

/-- The settings of all kinds of classifiers. -/
structure ClassifierSettings where
  nearest : NearestSettings
  logistic : LogisticSettings
  tree : GrowthSettings
  forest : ForestSettings
deriving DecidableEq

namespace ClassifierSettings

def standard : ClassifierSettings :=
  ⟨.standard, .standard, .standard, .standard⟩

/-- What is wrong with the settings of one kind, if anything. -/
def problemOf? (s : ClassifierSettings) : ModelKind → Option InvalidSetting
  | .nearest => s.nearest.problem?
  | .logistic => s.logistic.problem?
  | .forest => s.forest.problem?
  | .tree => s.tree.problem?

def problem? (s : ClassifierSettings) : Option InvalidSetting :=
  s.nearest.problem? <|> s.logistic.problem? <|> s.tree.problem?
    <|> s.forest.problem?

end ClassifierSettings

/-- A classifier of some kind, with what it has learnt so far.  Each kind keeps
that in a form of its own. -/
inductive Classifier where
  | nearest (c : NearestClassifier)
  | logistic (c : LogisticClassifier)
  | forest (c : ForestClassifier)
  | tree (c : TreeClassifier)

namespace Classifier

def fresh (kind : ModelKind) (s : ClassifierSettings) : Classifier :=
  match kind with
  | .nearest => nearest (.fresh s.nearest)
  | .logistic => logistic (.fresh s.logistic)
  | .forest => forest (.fresh s.forest)
  | .tree => tree (.fresh s.tree)

/-- A fresh classifier, if the settings of its kind hold. -/
def make (kind : ModelKind) (settings : ClassifierSettings) :
    Except Error Classifier :=
  checked (settings.problemOf? kind) (fresh kind settings)

def kind : Classifier → ModelKind
  | nearest _ => .nearest
  | logistic _ => .logistic
  | forest _ => .forest
  | tree _ => .tree

/-- Learn from rows and class codes and forget all others.  Says whether that
succeeds, and what becomes of the classifier. -/
def learn (rows : List Features) (codes : List Nat) :
    Classifier → Except Error Unit × Classifier
  | nearest c =>
      ((Learning.fit NearestClassifier.store rows codes).act c).map id nearest
  | logistic c =>
      ((Learning.fit LogisticClassifier.store rows codes).act c).map id logistic
  | forest c =>
      ((Learning.fit ForestClassifier.store rows codes).act c).map id forest
  | tree c =>
      ((Learning.fit TreeClassifier.store rows codes).act c).map id tree

/-- Like `learn`, but a classifier that cannot learn is given up. -/
def fit (c : Classifier) (rows : List Features) (codes : List Nat) :
    Except Error Classifier :=
  match c.learn rows codes with
  | (.ok _, fitted) => .ok fitted
  | (.error e, _) => .error e

def predict (c : Classifier) (row : Features) : Except Error Verdict :=
  match c with
  | nearest c => c.predict row
  | logistic c => c.predict row
  | forest c => c.predict row
  | tree c => c.predict row

def predictAll (c : Classifier) (rows : List Features) :
    Except Error (List Verdict) :=
  rows.mapM c.predict

def isFitted : Classifier → Bool
  | nearest c => c.isFitted
  | logistic c => c.isFitted
  | forest c => c.isFitted
  | tree c => c.isFitted

def width? : Classifier → Option Nat
  | nearest c => c.width?
  | logistic c => c.width?
  | forest c => c.width?
  | tree c => c.width?

end Classifier

end Credence
