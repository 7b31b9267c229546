/-
The two classes and their names.  A verdict is one of two; each class has a code
and, in a pair of labels, a name that is matched without regard to case and outer
blanks.
-/
import Credence.Error
import Credence.Text.CharClass
import Credence.Text.Lowercase

namespace Credence

/-- What a classifier says about a text. -/
inductive Verdict where
  | negative
  | positive
deriving DecidableEq, Repr

namespace Verdict

def code : Verdict → Nat
  | negative => 0
  | positive => 1

/-- The class of a code; all codes but two are refused. -/
def ofCode : Nat → Except Error Verdict
  | 0 => .ok negative
  | 1 => .ok positive
  | code => .error (.badCode code)

def flip : Verdict → Verdict
  | negative => positive
  | positive => negative

theorem code_binary (v : Verdict) : v.code = 0 ∨ v.code = 1 := by
  cases v with
  | negative => exact Or.inl rfl
  | positive => exact Or.inr rfl

theorem ofCode_code (v : Verdict) : ofCode v.code = .ok v := by
  cases v <;> rfl

theorem code_injective {v w : Verdict} (h : v.code = w.code) : v = w := by
  have : ofCode v.code = ofCode w.code := congrArg ofCode h
  rw [ofCode_code, ofCode_code] at this
  exact Except.ok.inj this

/-- Binary codes are the codes of verdicts. -/
theorem exists_map_code_eq {codes : List Nat}
    (h : ∀ code ∈ codes, code = 0 ∨ code = 1) :
    ∃ verdicts : List Verdict, verdicts.map code = codes := by
  induction codes with
  | nil => exact ⟨[], rfl⟩
  | cons code codes ih =>
      obtain ⟨verdicts, hverdicts⟩ :=
        ih fun c hc => h c (List.mem_cons_of_mem code hc)
      rcases h code List.mem_cons_self with rfl | rfl
      · exact ⟨negative :: verdicts, by rw [List.map_cons, hverdicts]; rfl⟩
      · exact ⟨positive :: verdicts, by rw [List.map_cons, hverdicts]; rfl⟩

theorem mapM_ofCode (verdicts : List Verdict) :
    (verdicts.map code).mapM ofCode = .ok verdicts := by
  induction verdicts with
  | nil => rfl
  | cons v verdicts ih =>
      rw [List.map_cons, List.mapM_cons, ofCode_code, ih]
      rfl

end Verdict

/-- The names of the two classes. -/
structure LabelPair where
  positive : String
  negative : String
deriving DecidableEq, Repr

namespace LabelPair

def standard : LabelPair := ⟨"real", "fake"⟩

/-- A name without outer blanks and in lower case, as names are compared. -/
def normalize (label : String) : String :=
  Text.lowercase (Text.trim label)

def problem? (p : LabelPair) : Option InvalidSetting :=
  let positive := normalize p.positive
  let negative := normalize p.negative
  if positive.isEmpty || negative.isEmpty then some .blankLabel
  else if positive = negative then some (.equalLabels positive)
  else none

/-- The class that a label names.  Should both classes bear the same name, it
names the positive one. -/
def encode? (p : LabelPair) (label : String) : Option Verdict :=
  let name := normalize label
  if name = normalize p.positive then some .positive
  else if name = normalize p.negative then some .negative
  else none

def decode (p : LabelPair) : Verdict → String
  | .positive => p.positive
  | .negative => p.negative

theorem normalize_ne_of_problem? {p : LabelPair} (h : p.problem? = none) :
    normalize p.positive ≠ normalize p.negative := by
  intro heq
  simp only [problem?, heq, if_true] at h
  split at h
  · cases h
  · cases h

/-- In a pair of names that holds, each class is known by its own name. -/
theorem encode?_decode {p : LabelPair} (h : p.problem? = none) (v : Verdict) :
    p.encode? (p.decode v) = some v := by
  cases v with
  | positive => simp only [encode?, decode, if_true]
  | negative =>
      have hne := (normalize_ne_of_problem? h).symm
      simp only [encode?, decode, if_neg hne, if_true]

end LabelPair

/-- A setting that holds, or the first problem with it. -/
def checked (problem : Option InvalidSetting) (x : α) : Except Error α :=
  match problem with
  | some p => .error (.badSetting p)
  | none => .ok x

theorem eq_of_checked_eq_ok {problem : Option InvalidSetting} {x y : α}
    (h : checked problem x = .ok y) : x = y := by
  cases problem with
  | none => exact Except.ok.inj h
  | some problem => cases h

end Credence
