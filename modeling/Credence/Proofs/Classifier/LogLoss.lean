/-
What a logistic regression goes down: the mean log loss of some cases.  The formulas are
written for every arithmetic with exponentials.  Doubles are one of them, and in real
numbers the parts of the mean gradient are the derivatives of the mean log loss.
-/
import Mathlib.Analysis.SpecialFunctions.Log.Deriv
import Mathlib.Analysis.SpecialFunctions.Sigmoid
import Credence.Classifier.Logistic

namespace Credence

/-- An arithmetic with counts, exponentials and logarithms in it. -/
class Exponential (α : Type) extends
    Add α, Sub α, Mul α, Div α, Neg α, LE α, LT α, OfScientific α where
  ofCount : Nat → α
  exp : α → α
  log : α → α
  decidableLE : DecidableLE α
  decidableLT : DecidableLT α

attribute [reducible, instance] Exponential.decidableLE Exponential.decidableLT

instance : Exponential Float where
  ofCount := Float.ofNat
  exp := Float.exp
  log := Float.log
  decidableLE := inferInstance
  decidableLT := inferInstance

noncomputable instance : Exponential ℝ where
  ofCount n := n
  exp := Real.exp
  log := Real.log
  decidableLE := inferInstance
  decidableLT := inferInstance

namespace LogLoss

open Exponential (ofCount exp log)

section formulas

variable {α : Type} [Exponential α]

def total (xs : List α) : α := xs.foldl (· + ·) 0.0

/-- One over one plus `exp (-z)`, or the same fraction expanded by `exp z`. -/
def logistic (z : α) : α :=
  if 0.0 ≤ z then 1.0 / (1.0 + exp (-z)) else exp z / (1.0 + exp z)

variable (slopes : List α) (bias : α)

def score (row : List α) : α := total (slopes.zipWith (· * ·) row) + bias

/-- How far the probability of the positive class is off. -/
def error : List α × Verdict → α
  | (row, .positive) => logistic (score slopes bias row) - 1.0
  | (row, .negative) => logistic (score slopes bias row) - 0.0

/-- Some probability, kept away from zero and one. -/
def clip (p : α) : α :=
  if p < 1e-12 then 1e-12 else if 1.0 - 1e-12 < p then 1.0 - 1e-12 else p

/-- Less the logarithm of the probability that was given to the class of a case. -/
def loss : List α × Verdict → α
  | (row, .positive) => -log (clip (logistic (score slopes bias row)))
  | (row, .negative) => -log (1.0 - clip (logistic (score slopes bias row)))

def meanLoss (cases : List (List α × Verdict)) : α :=
  total (cases.map (loss slopes bias)) / ofCount cases.length

/-- What all cases together say about the slope at one place. -/
def slopeTotal (cases : List (List α × Verdict)) (j : Nat) : α :=
  total (cases.map fun c => error slopes bias c * c.1.getD j 0.0)

/-- What all cases together say about the bias. -/
def biasTotal (cases : List (List α × Verdict)) : α :=
  total (cases.map (error slopes bias))

end formulas

section doubles

/-- The exponential of a zero decides about the probability that zero weights give. -/
theorem logistic_zero (hexp : Float.exp (-0.0) = 1.0) : logistic (0.0 : Float) = 0.5 := by
  rw [logistic, if_pos (by decide +kernel)]
  change 1.0 / (1.0 + Float.exp (-0.0)) = 0.5
  rw [hexp]
  decide +kernel

theorem error_of_score {slopes row : List Float} {bias z : Float}
    (h : score slopes bias row = z) (v : Verdict) :
    error slopes bias (row, v) = logistic z - Logistic.target v := by
  subst h
  cases v <;> rfl

variable (w : Weights)

theorem error_eq (c : Logistic.Case) :
    error w.slopes w.bias c = Logistic.probability w c.1 - Logistic.target c.2 :=
  error_of_score rfl c.2

theorem loss_eq (c : Logistic.Case) :
    loss w.slopes w.bias c = Logistic.surprise (Logistic.probability w c.1) c.2 := by
  rcases c with ⟨row, v⟩
  cases v <;> rfl

theorem meanLoss_eq (cases : List Logistic.Case) :
    meanLoss w.slopes w.bias cases = Logistic.loss w cases := by
  have hloss : loss w.slopes w.bias =
      fun c => Logistic.surprise (Logistic.probability w c.1) c.2 :=
    funext (loss_eq w)
  rw [meanLoss, hloss]
  rfl

end doubles

section reals

theorem zero_real : (0.0 : ℝ) = 0 := by norm_num

theorem one_real : (1.0 : ℝ) = 1 := by norm_num

theorem total_real (xs : List ℝ) : total xs = xs.sum := by
  rw [List.sum_eq_foldl, ← zero_real]
  rfl

/-- Both fractions are the same number. -/
theorem logistic_real (z : ℝ) : logistic z = Real.sigmoid z := by
  have hunfold : logistic z = if (0.0 : ℝ) ≤ z then 1.0 / (1.0 + Real.exp (-z))
      else Real.exp z / (1.0 + Real.exp z) := rfl
  rw [hunfold, one_real, Real.sigmoid_def]
  split
  · exact one_div _
  · rw [Real.exp_neg]
    field_simp
    exact add_comm _ _

theorem clip_real {p : ℝ} (hlow : 1e-12 < p) (hhigh : p < 1 - 1e-12) : clip p = p := by
  have hunfold : clip p = if p < 1e-12 then 1e-12
      else if (1.0 : ℝ) - 1e-12 < p then 1.0 - 1e-12 else p := rfl
  rw [hunfold, if_neg hlow.not_gt, if_neg]
  norm_num at hhigh ⊢
  exact hhigh.le

/-- A sum of functions is differentiated one by one. -/
theorem hasDerivAt_sum {β : Type} (xs : List β) {f : ℝ → β → ℝ} {f' : β → ℝ} {x : ℝ}
    (h : ∀ b ∈ xs, HasDerivAt (fun y => f y b) (f' b) x) :
    HasDerivAt (fun y => (xs.map (f y)).sum) (xs.map f').sum x := by
  induction xs with
  | nil => exact hasDerivAt_const x 0
  | cons b xs ih =>
      obtain ⟨hb, hxs⟩ := List.forall_mem_cons.mp h
      exact hb.fun_add (ih hxs)

theorem score_real (slopes row : List ℝ) (bias : ℝ) :
    score slopes bias row = (slopes.zipWith (· * ·) row).sum + bias := by
  rw [← total_real]
  rfl

/-- A score depends on one slope by the feature at its place. -/
theorem hasDerivAt_score_slope {slopes : List ℝ} {j : Nat} (hj : j < slopes.length)
    (bias : ℝ) (row : List ℝ) (x : ℝ) :
    HasDerivAt (fun y => score (slopes.set j y) bias row) (row.getD j 0) x := by
  simp only [score_real]
  apply HasDerivAt.add_const
  induction slopes generalizing j row with
  | nil => exact absurd hj (Nat.not_lt_zero j)
  | cons s slopes ih =>
      rcases row with _ | ⟨r, row⟩
      · simpa using hasDerivAt_const x (0 : ℝ)
      · cases j with
        | zero =>
            have hproduct : HasDerivAt (fun y => y * r) r x := by
              simpa using (hasDerivAt_id x).mul_const r
            exact hproduct.add_const _
        | succ j => exact (ih (Nat.lt_of_succ_lt_succ hj) row).const_add (s * r)

theorem hasDerivAt_score_bias (slopes row : List ℝ) (x : ℝ) :
    HasDerivAt (fun y => score slopes y row) 1 x := by
  simp only [score_real]
  exact (hasDerivAt_id x).const_add _

theorem hasDerivAt_clip_logistic {s : ℝ → ℝ} {d x : ℝ} (hs : HasDerivAt s d x)
    (hlow : 1e-12 < logistic (s x)) (hhigh : logistic (s x) < 1 - 1e-12) :
    HasDerivAt (fun y => clip (logistic (s y)))
      (logistic (s x) * (1 - logistic (s x)) * d) x := by
  have hchance : HasDerivAt (fun y => logistic (s y))
      (logistic (s x) * (1 - logistic (s x)) * d) x := by
    simp only [logistic_real]
    exact (Real.hasDerivAt_sigmoid (s x)).comp x hs
  have hclip : (fun y => clip (logistic (s y))) =ᶠ[nhds x] fun y => logistic (s y) := by
    filter_upwards [hchance.continuousAt.eventually_mem (Ioo_mem_nhds hlow hhigh)] with y hy
    exact clip_real hy.1 hy.2
  exact hchance.congr_of_eventuallyEq hclip

/-- Where weights depend on a number, the loss of a case depends on it by its error and
by its score. -/
theorem hasDerivAt_loss {slopes : ℝ → List ℝ} {bias : ℝ → ℝ} {c : List ℝ × Verdict}
    {d x : ℝ} (hscore : HasDerivAt (fun y => score (slopes y) (bias y) c.1) d x)
    (hlow : 1e-12 < logistic (score (slopes x) (bias x) c.1))
    (hhigh : logistic (score (slopes x) (bias x) c.1) < 1 - 1e-12) :
    HasDerivAt (fun y => loss (slopes y) (bias y) c) (error (slopes x) (bias x) c * d) x := by
  have hclipped := hasDerivAt_clip_logistic hscore hlow hhigh
  have hvalue := clip_real hlow hhigh
  obtain ⟨row, v⟩ := c
  cases v with
  | negative =>
      have hne : 1 - logistic (score (slopes x) (bias x) row) ≠ 0 := by
        norm_num at hhigh
        linarith
      have herror {p : ℝ} (hp : 1 - p ≠ 0) :
          -(-(p * (1 - p) * d) / (1 - p)) = (p - 0) * d := by
        field_simp
        ring
      have hlog := ((hclipped.const_sub 1).log (hvalue.symm ▸ hne)).neg
      rw [hvalue, herror hne, ← one_real, ← zero_real] at hlog
      exact hlog
  | positive =>
      have hne : logistic (score (slopes x) (bias x) row) ≠ 0 := by
        norm_num at hlow
        linarith
      have herror {p : ℝ} (hp : p ≠ 0) : -(p * (1 - p) * d / p) = (p - 1) * d := by
        field_simp
        ring
      have hlog := (hclipped.log (hvalue.symm ▸ hne)).neg
      rw [hvalue, herror hne, ← one_real] at hlog
      exact hlog

/-- Some parts that are the derivatives of a function of weights, in each of them alone. -/
structure IsGradient (f : List ℝ → ℝ → ℝ) (slopes : List ℝ) (bias : ℝ)
    (slopePart : Nat → ℝ) (biasPart : ℝ) : Prop where
  slope : ∀ j (hj : j < slopes.length),
    HasDerivAt (fun x => f (slopes.set j x) bias) (slopePart j) slopes[j]
  bias : HasDerivAt (f slopes) biasPart bias

/-- Some cases whose probabilities are not clipped. -/
def Unclipped (slopes : List ℝ) (bias : ℝ) (cases : List (List ℝ × Verdict)) : Prop :=
  ∀ c ∈ cases, 1e-12 < logistic (score slopes bias c.1) ∧
    logistic (score slopes bias c.1) < 1 - 1e-12

/-- From zero weights, every probability is one half. -/
theorem unclipped_zero (width : Nat) (cases : List (List ℝ × Verdict)) :
    Unclipped (List.replicate width 0) 0 cases := by
  intro c _
  have hproducts : ∀ x ∈ (List.replicate width (0 : ℝ)).zipWith (· * ·) c.1, x = 0 := by
    intro x hx
    obtain ⟨i, hi, rfl⟩ := List.getElem_of_mem hx
    simp
  have hscore : score (List.replicate width 0) 0 c.1 = 0 := by
    rw [score_real, List.sum_eq_zero hproducts, add_zero]
  rw [hscore, logistic_real, Real.sigmoid_zero]
  norm_num

theorem hasDerivAt_meanLoss (slopes : ℝ → List ℝ) (bias : ℝ → ℝ)
    {cases : List (List ℝ × Verdict)} {d : List ℝ × Verdict → ℝ} {x : ℝ}
    (hscore : ∀ c, HasDerivAt (fun y => score (slopes y) (bias y) c.1) (d c) x)
    (h : Unclipped (slopes x) (bias x) cases) :
    HasDerivAt (fun y => meanLoss (slopes y) (bias y) cases)
      (total (cases.map fun c => error (slopes x) (bias x) c * d c) / cases.length) x := by
  have hsum : HasDerivAt (fun y => (cases.map (loss (slopes y) (bias y))).sum)
      (cases.map fun c => error (slopes x) (bias x) c * d c).sum x := by
    apply hasDerivAt_sum
    intro c hc
    obtain ⟨hlow, hhigh⟩ := h c hc
    exact hasDerivAt_loss (hscore c) hlow hhigh
  simp only [← total_real] at hsum
  exact hsum.div_const (cases.length : ℝ)

/-- Where no probability is clipped, the parts of the mean gradient are the derivatives of
the mean log loss. -/
theorem isGradient_meanLoss {slopes : List ℝ} {bias : ℝ} {cases : List (List ℝ × Verdict)}
    (h : Unclipped slopes bias cases) :
    IsGradient (fun slopes bias => meanLoss slopes bias cases) slopes bias
      (fun j => slopeTotal slopes bias cases j / cases.length)
      (biasTotal slopes bias cases / cases.length) where
  slope j hj := by
    have hself : slopes.set j slopes[j] = slopes := List.set_getElem_self hj
    have hmean := hasDerivAt_meanLoss (fun y => slopes.set j y) (fun _ => bias)
      (fun c => hasDerivAt_score_slope hj bias c.1 slopes[j]) (hself.symm ▸ h)
    rw [hself, ← zero_real] at hmean
    exact hmean
  bias := by
    have hmean := hasDerivAt_meanLoss (fun _ => slopes) (fun y => y)
      (fun c => hasDerivAt_score_bias slopes c.1 bias) h
    simp only [mul_one] at hmean
    exact hmean

end reals

end LogLoss

end Credence
