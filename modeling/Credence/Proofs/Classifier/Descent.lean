/-
How the weights of a logistic regression are found.  Every step reads the weights of
the step before and no others, although it writes over them place by place.  The search
ends with the first step that finds the gradient flat, or with the last one allowed.
-/
import Credence.Proofs.Classifier
import Credence.Proofs.Classifier.LogLoss
import Credence.Proofs.Number.NoNumber
import Mathlib.Data.List.GetD
import Mathlib.Logic.Function.Iterate

namespace Credence

/-- A loop over numbered elements that changes one entry for each of them changes all
entries at once. -/
theorem getElem?_foldl_modify {α β : Type} (f : α → β → β) (xs : List α) (k j : Nat)
    (ys : Array β) :
    ((xs.zipIdx k).foldl (fun ys x => ys.modify x.2 (f x.1)) ys)[j]? =
      if j < k then ys[j]?
      else match xs[j - k]? with
        | some x => ys[j]?.map (f x)
        | none => ys[j]? := by
  induction xs generalizing k ys with
  | nil => simp
  | cons x xs ih =>
      rw [List.zipIdx_cons, List.foldl_cons, ih, Array.getElem?_modify]
      rcases Nat.lt_trichotomy j k with hlt | rfl | hgt
      · rw [if_pos (by omega), if_neg (by omega), if_pos hlt]
      · rw [if_pos (by omega), if_pos rfl, if_neg (by omega), Nat.sub_self]
        rfl
      · rw [if_neg (by omega), if_neg (by omega), if_neg (by omega),
          show j - k = (j - (k + 1)) + 1 by omega]
        rfl

theorem size_foldl_modify {α β : Type} (f : α → β → β) (xs : List (α × Nat))
    (ys : Array β) :
    (xs.foldl (fun ys x => ys.modify x.2 (f x.1)) ys).size = ys.size := by
  induction xs generalizing ys with
  | nil => rfl
  | cons x xs ih => exact (ih _).trans Array.size_modify

namespace Logistic

/-- How far the probability of a case is off at some weights. -/
def error (w : Weights) (c : Case) : Float := LogLoss.error w.slopes w.bias c

/-- What all cases together say about the gradient at some weights. -/
def gradient (w : Weights) (cases : List Case) : Weights where
  slopes := (List.range w.slopes.length).map (LogLoss.slopeTotal w.slopes w.bias cases)
  bias := LogLoss.biasTotal w.slopes w.bias cases

/-- The parts of the mean gradient. -/
def parts (w : Weights) (cases : List Case) : List Float :=
  let g := gradient w cases
  (g.bias :: g.slopes).map (· / Float.ofNat cases.length)

/-- The weights one step further down the mean gradient. -/
def next (rate : Float) (cases : List Case) (w : Weights) : Weights :=
  let g := gradient w cases
  let count := Float.ofNat cases.length
  ⟨w.slopes.zipWith (fun x part => x - rate * (part / count)) g.slopes,
    w.bias - rate * g.bias / count⟩

/-- The largest of some parts is below a tolerance, whatever their signs.  What is no
number does not count, unless there is nothing else. -/
structure Flat (tolerance : Float) (parts : List Float) : Prop where
  exists_number : ∃ part ∈ parts, part.isNaN = false
  abs_lt : ∀ part ∈ parts, part.isNaN = false → part.abs < tolerance

section flat

variable {tolerance x y : Float}

/-- One of the two is taken: the other one is no larger, or it is no number. -/
theorem larger_cases (x y : Float) :
    (larger x y = x ∧ (y.isNaN = true ∨ y ≤ x)) ∨
      (larger x y = y ∧ (x.isNaN = true ∨ x < y)) := by
  rw [larger]
  cases hx : x.isNaN with
  | true => exact Or.inr ⟨rfl, Or.inl rfl⟩
  | false =>
      by_cases hxy : x < y
      · exact Or.inr ⟨if_pos hxy, Or.inr hxy⟩
      · refine Or.inl ⟨if_neg hxy, ?_⟩
        cases hy : y.isNaN with
        | true => exact Or.inl rfl
        | false =>
            right
            by_contra hle
            exact hxy (Number.lt_of_not_le hy hx hle)

/-- The largest one is below a limit just if there are numbers, and all of them are. -/
theorem foldl_larger_lt_iff (xs : List Float) (x : Float) :
    xs.foldl larger x < tolerance ↔
      (∃ y ∈ x :: xs, y.isNaN = false) ∧
        ∀ y ∈ x :: xs, y.isNaN = false → y < tolerance := by
  induction xs generalizing x with
  | nil =>
      simp only [List.foldl_nil, List.mem_singleton, exists_eq_left, forall_eq]
      exact ⟨fun h => ⟨(Number.isNaN_of_lt h).1, fun _ => h⟩, fun h => h.2 h.1⟩
  | cons y xs ih =>
      rw [List.foldl_cons, ih]
      simp only [List.mem_cons, exists_eq_or_imp, forall_eq_or_imp]
      rcases larger_cases x y with ⟨heq, hy | hle⟩ | ⟨heq, hx | hlt⟩
      · simp only [heq, hy, Bool.true_eq_false]
        tauto
      · have hnumbers := Number.isNaN_of_le hle
        have hbelow (h : x < tolerance) : y < tolerance := Number.lt_of_le_of_lt hle h
        simp only [heq, hnumbers]
        tauto
      · simp only [heq, hx, Bool.true_eq_false]
        tauto
      · have hnumbers := Number.isNaN_of_lt hlt
        have hbelow (h : y < tolerance) : x < tolerance :=
          Number.lt_of_lt_of_le hlt (Number.le_of_lt h)
        simp only [heq, hnumbers]
        tauto

theorem flat_iff (part : Float) (parts : List Float) :
    (parts.map Float.abs).foldl larger part.abs < tolerance ↔
      Flat tolerance (part :: parts) := by
  rw [foldl_larger_lt_iff, ← List.map_cons]
  simp only [List.mem_map, exists_exists_and_eq_and, forall_exists_index, and_imp,
    forall_apply_eq_imp_iff₂, Number.isNaN_abs]
  exact ⟨fun h => ⟨h.1, h.2⟩, fun h => ⟨h.exists_number, h.abs_lt⟩⟩

end flat

namespace Descent

variable (d : Descent)

theorem addError_eq (c : Case) : d.addError c =
    { d with
      gradient := c.1.zipIdx.foldl (addPart (error d.weights c)) d.gradient
      biasGradient := d.biasGradient + error d.weights c } := by
  rw [error, LogLoss.error_eq]
  rfl

/-- What one case adds to the gradient, place by place. -/
theorem getElem?_gradient_addError {c : Case} {j : Nat} (hj : j < c.1.length) :
    (d.addError c).gradient[j]? =
      d.gradient[j]?.map (· + error d.weights c * c.1.getD j 0.0) := by
  have hfold := getElem?_foldl_modify (fun x y => y + error d.weights c * x) c.1 0 j
    d.gradient
  rw [if_neg (Nat.not_lt_zero j), Nat.sub_zero, List.getElem?_eq_getElem hj] at hfold
  rw [List.getD_eq_getElem _ _ hj, addError_eq]
  exact hfold

/-- All cases speak of the gradient at the same weights, and each part is added up in
their order. -/
theorem getElem?_gradient_foldl {cases : List Case} {j : Nat}
    (hj : ∀ c ∈ cases, j < c.1.length) :
    (cases.foldl addError d).gradient[j]? = d.gradient[j]?.map fun y =>
      (cases.map fun c => error d.weights c * c.1.getD j 0.0).foldl (· + ·) y := by
  induction cases generalizing d with
  | nil => simp
  | cons c cases ih =>
      rw [List.foldl_cons, ih _ fun c' hc' => hj c' (List.mem_cons_of_mem c hc'),
        getElem?_gradient_addError d (hj c List.mem_cons_self), Option.map_map]
      rfl

theorem biasGradient_foldl (cases : List Case) :
    (cases.foldl addError d).biasGradient =
      (cases.map (error d.weights)).foldl (· + ·) d.biasGradient := by
  induction cases generalizing d with
  | nil => rfl
  | cons c cases ih =>
      rw [List.foldl_cons, ih, addError_eq]
      rfl

theorem size_gradient_foldl (cases : List Case) :
    (cases.foldl addError d).gradient.size = d.gradient.size := by
  induction cases generalizing d with
  | nil => rfl
  | cons c cases ih =>
      rw [List.foldl_cons, ih, addError_eq]
      exact size_foldl_modify (fun x y => y + error d.weights c * x) _ _

/-- Moving the slopes changes nothing else, and one part is read for each of them. -/
theorem foldl_moveSlope (rate count : Float) (gs : List (Float × Nat)) :
    gs.foldl (moveSlope rate count) d =
      { d with
        largest := (gs.map fun g => (g.1 / count).abs).foldl larger d.largest
        slopes := gs.foldl (fun slopes g =>
          slopes.modify g.2 (· - rate * (g.1 / count))) d.slopes } := by
  induction gs generalizing d with
  | nil => rfl
  | cons g gs ih => exact ih (d.moveSlope rate count g)

section step

variable {d} {cases : List Case} (hsize : d.gradient.size = d.slopes.size)

include hsize

theorem weights_move (rate count : Float) :
    (d.move rate count).weights =
      ⟨d.slopes.toList.zipWith (fun x part => x - rate * (part / count))
          d.gradient.toList,
        d.bias - rate * d.biasGradient / count⟩ := by
  rw [move, foldl_moveSlope, weights]
  congr 1
  apply List.ext_getElem?
  intro j
  rw [Array.getElem?_toList,
    getElem?_foldl_modify (fun part x => x - rate * (part / count)),
    if_neg (Nat.not_lt_zero j), Nat.sub_zero, List.getElem?_zipWith,
    Array.getElem?_toList, Array.getElem?_toList]
  by_cases hj : j < d.slopes.size
  · rw [Array.getElem?_eq_getElem hj, Array.getElem?_eq_getElem (hsize.symm ▸ hj)]
    rfl
  · rw [Array.getElem?_eq_none (Nat.le_of_not_lt hj),
      Array.getElem?_eq_none (hsize.symm ▸ Nat.le_of_not_lt hj)]

theorem gradient_foldl_clear (hcases : ∀ c ∈ cases, c.1.length = d.slopes.size) :
    (cases.foldl addError d.clear).gradient.toList =
      (Logistic.gradient d.weights cases).slopes := by
  have hwidth : d.weights.slopes.length = d.slopes.size := Array.length_toList
  have hclear (j : Nat) : d.clear.gradient[j]? = d.gradient[j]?.map fun _ => 0.0 :=
    Array.getElem?_map
  apply List.ext_getElem?
  intro j
  rw [Array.getElem?_toList, Logistic.gradient, List.getElem?_map, hwidth]
  by_cases hj : j < d.slopes.size
  · rw [getElem?_gradient_foldl d.clear fun c hc => (hcases c hc).symm ▸ hj, hclear,
      Array.getElem?_eq_getElem (hsize.symm ▸ hj), List.getElem?_range hj]
    rfl
  · have hnone : d.slopes.size ≤ j := Nat.le_of_not_lt hj
    have hroom : (cases.foldl addError d.clear).gradient.size = d.slopes.size :=
      (size_gradient_foldl _ cases).trans (Array.size_map.trans hsize)
    rw [Array.getElem?_eq_none (hroom.symm ▸ hnone),
      List.getElem?_eq_none (List.length_range.symm ▸ hnone)]
    rfl

theorem size_gradient_step (rate : Float) :
    (d.step rate cases).gradient.size = (d.step rate cases).slopes.size := by
  rw [size_step, step, move, foldl_moveSlope]
  exact (size_gradient_foldl _ cases).trans (Array.size_map.trans hsize)

variable (hcases : ∀ c ∈ cases, c.1.length = d.slopes.size)

include hcases

/-- The weights after a step come from the weights before it alone. -/
theorem weights_step (rate : Float) :
    (d.step rate cases).weights = next rate cases d.weights := by
  have hweights : (cases.foldl addError d.clear).weights = d.weights :=
    weights_foldl_addError d.clear cases
  have hroom : (cases.foldl addError d.clear).gradient.size =
      (cases.foldl addError d.clear).slopes.size := by
    rw [size_gradient_foldl]
    have hslopes := congrArg (·.slopes.length) hweights
    exact (Array.size_map.trans hsize).trans hslopes.symm
  rw [step, weights_move hroom, gradient_foldl_clear hsize hcases, biasGradient_foldl]
  change Weights.mk
    ((cases.foldl addError d.clear).weights.slopes.zipWith _ _)
    ((cases.foldl addError d.clear).weights.bias - _) = _
  rw [hweights]
  rfl

/-- A step finds the gradient flat if it is so at the weights before it. -/
theorem largest_step_lt_iff (rate tolerance : Float) :
    (d.step rate cases).largest < tolerance ↔
      Flat tolerance (parts d.weights cases) := by
  have hparts (gs : List Float) (count : Float) :
      (gs.zipIdx.map fun g => (g.1 / count).abs) = (gs.map (· / count)).map Float.abs := by
    rw [List.map_map, ← List.zipIdx_map_fst 0 gs, List.map_map, List.zipIdx_map_fst]
    rfl
  rw [step, move, foldl_moveSlope, hparts, gradient_foldl_clear hsize hcases,
    biasGradient_foldl]
  exact flat_iff _ _

end step

end Descent

def zero (width : Nat) : Weights := ⟨List.replicate width 0.0, 0.0⟩

section search

variable (rate tolerance : Float) (cases : List Case)

/-- The step that begins after so many others finds the gradient flat. -/
def FlatAfter (w : Weights) (steps : Nat) : Prop :=
  Flat tolerance (parts ((next rate cases)^[steps] w) cases)

/-- A number of steps that ends with the first one to find the gradient flat, or with
the last one allowed. -/
structure StopsAfter (w : Weights) (cap steps : Nat) : Prop where
  le_cap : steps ≤ cap
  not_flat : ∀ i, i + 1 < steps → ¬ FlatAfter rate tolerance cases w i
  flat : steps < cap → ∃ i, i + 1 = steps ∧ FlatAfter rate tolerance cases w i

variable {rate tolerance cases} {w : Weights} {cap steps : Nat}

theorem StopsAfter.pos (h : StopsAfter rate tolerance cases w cap steps) (hcap : 0 < cap) :
    0 < steps := by
  rcases h.le_cap.lt_or_eq with hlt | heq
  · obtain ⟨i, hi, -⟩ := h.flat hlt
    omega
  · omega

/-- What stops before its cap stops there with any other cap that leaves room for it. -/
theorem StopsAfter.eq_of_lt_cap {cap' steps' : Nat}
    (h : StopsAfter rate tolerance cases w cap steps) (hlt : steps < cap)
    (h' : StopsAfter rate tolerance cases w cap' steps') (hroom : steps ≤ cap') :
    steps' = steps := by
  obtain ⟨i, hi, hflat⟩ := h.flat hlt
  rcases Nat.lt_trichotomy steps' steps with hless | heq | hmore
  · obtain ⟨j, hj, hearly⟩ := h'.flat (by omega)
    exact absurd hearly (h.not_flat j (by omega))
  · exact heq
  · exact absurd hflat (h'.not_flat i (by omega))

theorem StopsAfter.succ (h : StopsAfter rate tolerance cases (next rate cases w) cap steps)
    (hsteep : ¬ FlatAfter rate tolerance cases w 0) :
    StopsAfter rate tolerance cases w (cap + 1) (steps + 1) where
  le_cap := Nat.succ_le_succ h.le_cap
  not_flat := by
    intro i hi
    cases i with
    | zero => exact hsteep
    | succ i => exact h.not_flat i (by omega)
  flat := by
    intro hlt
    obtain ⟨i, hi, hflat⟩ := h.flat (by omega)
    exact ⟨i + 1, congrArg (· + 1) hi, hflat⟩

/-- The search makes one step after the other, and stops where it should. -/
theorem search_stops (s : LogisticSettings) (d : Descent)
    (hsize : d.gradient.size = d.slopes.size)
    (hcases : ∀ c ∈ cases, c.1.length = d.slopes.size) (left done : Nat) :
    ∃ steps, StopsAfter s.learningRate s.tolerance cases d.weights left steps ∧
      (search s cases left done d).2 = done + steps ∧
      (search s cases left done d).1.weights =
        (next s.learningRate cases)^[steps] d.weights := by
  induction left generalizing d done with
  | zero => exact ⟨0, ⟨le_refl 0, nofun, nofun⟩, rfl, rfl⟩
  | succ left ih =>
      have hweights := Descent.weights_step hsize hcases s.learningRate
      have hflat : _ ↔ FlatAfter s.learningRate s.tolerance cases d.weights 0 :=
        Descent.largest_step_lt_iff hsize hcases s.learningRate s.tolerance
      simp only [search]
      split
      · next hstop =>
          refine ⟨1, ⟨by omega, by omega, fun _ => ⟨0, rfl, hflat.mp hstop⟩⟩, rfl, ?_⟩
          exact hweights
      · next hgo =>
          obtain ⟨steps, hstops, hcount, hreached⟩ :=
            ih (d.step s.learningRate cases) (Descent.size_gradient_step hsize _)
              (by rwa [Descent.size_step]) (done + 1)
          rw [hweights] at hstops hreached
          refine ⟨steps + 1, hstops.succ (mt hflat.mpr hgo), ?_, hreached⟩
          rw [hcount]
          omega

end search

end Logistic

theorem LogisticSettings.problem?_eq_none_iff (s : LogisticSettings) :
    s.problem? = none ↔
      (0.0 < s.learningRate ∧ s.learningRate.isFinite = true) ∧
        0 < s.maxIterations ∧ ¬ s.tolerance < 0.0 := by
  have hrate : (!(0.0 < s.learningRate && s.learningRate.isFinite)) = false ↔
      0.0 < s.learningRate ∧ s.learningRate.isFinite = true := by
    rw [Bool.not_eq_false', Bool.and_eq_true, decide_eq_true_iff]
  rw [problem?, Nat.pos_iff_ne_zero, ← hrate]
  split
  · next hwrong => exact iff_of_false nofun fun h => Bool.false_ne_true (h.1.symm.trans hwrong)
  · next hright =>
      rw [Bool.not_eq_true] at hright
      split
      · next hzero => exact iff_of_false nofun fun h => h.2.1 hzero
      · next hne =>
          split
          · next hneg => exact iff_of_false nofun fun h => h.2.2 hneg
          · next hnonneg => exact iff_of_true rfl ⟨hright, hne, hnonneg⟩

/-- A model whose weights were found by going down the gradient of some cases from zero
weights, with the mean log loss that is left. -/
structure LogisticModel.FoundBy (m : LogisticModel) (s : LogisticSettings) (width : Nat)
    (cases : List Logistic.Case) : Prop where
  pos : 1 ≤ m.iterations
  stops : Logistic.StopsAfter s.learningRate s.tolerance cases (Logistic.zero width)
    s.maxIterations m.iterations
  weights_eq : m.weights =
    (Logistic.next s.learningRate cases)^[m.iterations] (Logistic.zero width)
  width_eq : m.weights.slopes.length = width
  rows_width : ∀ c ∈ cases, c.1.length = width
  loss_eq : m.loss = LogLoss.meanLoss m.weights.slopes m.weights.bias cases

namespace LogisticModel

variable (s : LogisticSettings) (t : TrainingSet)

theorem foundBy_learn (hvalid : s.problem? = none) :
    (learn s t).FoundBy s t.width (Logistic.casesOf t) := by
  have hcases : ∀ c ∈ Logistic.casesOf t, c.1.length = t.width := by
    intro c hc
    obtain ⟨sample, hsample, rfl⟩ := List.mem_map.mp hc
    exact Array.length_toList.trans (t.size_eq_width sample hsample)
  have hsize : (Logistic.Descent.start t.width).slopes.size = t.width := Array.size_replicate
  have hstart : (Logistic.Descent.start t.width).weights = Logistic.zero t.width := by
    simp [Logistic.Descent.start, Logistic.Descent.weights, Logistic.zero]
  obtain ⟨steps, hstops, hcount, hweights⟩ :=
    Logistic.search_stops s (.start t.width) rfl (hsize.symm ▸ hcases) s.maxIterations 0
  rw [hstart] at hstops hweights
  have hiterations : (learn s t).iterations = steps := hcount.trans (Nat.zero_add steps)
  constructor
  · rw [hiterations]
    exact hstops.pos (s.problem?_eq_none_iff.mp hvalid).2.1
  · rw [hiterations]
    exact hstops
  · rw [hiterations]
    exact hweights
  · exact width_learn s t
  · exact hcases
  · exact (LogLoss.meanLoss_eq _ _).symm

variable {s t}

/-- The cases of a training set are the rows and codes it was made of. -/
theorem casesOf_make {rows : List Features} {codes : List Nat}
    (h : TrainingSet.make rows codes = .ok t) :
    ∃ verdicts, codes = verdicts.map (·.code) ∧
      Logistic.casesOf t = (rows.map (·.toList)).zip verdicts := by
  have houtcome := TrainingSet.outcome_make rows codes
  rw [h] at houtcome
  obtain _ | _ | _ | ⟨-, -, hcodes, hsamples⟩ := houtcome
  refine ⟨_, hcodes, ?_⟩
  rw [Logistic.casesOf, hsamples, TrainingSet.join, List.map_zipWith, List.zip_map_left,
    List.zip, List.map_zipWith]
  rfl

/-- A search that was not cut off goes the same way under every cap that it keeps. -/
theorem learn_of_cap {cap : Nat} (hvalid : s.problem? = none)
    (hearly : (learn s t).iterations < s.maxIterations)
    (hroom : (learn s t).iterations ≤ cap) :
    learn { s with maxIterations := cap } t = learn s t := by
  have hm := foundBy_learn s t hvalid
  have hvalid' : ({ s with maxIterations := cap } : LogisticSettings).problem? = none := by
    rw [LogisticSettings.problem?_eq_none_iff] at hvalid ⊢
    exact ⟨hvalid.1, hm.pos.trans hroom, hvalid.2.2⟩
  have hm' := foundBy_learn { s with maxIterations := cap } t hvalid'
  have hsteps : (learn { s with maxIterations := cap } t).iterations =
      (learn s t).iterations := hm.stops.eq_of_lt_cap hearly hm'.stops hroom
  have hweights : (learn { s with maxIterations := cap } t).weights =
      (learn s t).weights := by
    rw [hm'.weights_eq, hm.weights_eq, hsteps]
  have hloss : (learn { s with maxIterations := cap } t).loss = (learn s t).loss := by
    rw [hm'.loss_eq, hm.loss_eq, hweights]
  rcases hlearn : learn s t with ⟨weights, iterations, loss⟩
  rcases hother : learn { s with maxIterations := cap } t with ⟨weights', iterations', loss'⟩
  rw [hlearn, hother] at hsteps hweights hloss
  exact congr (congr (congrArg mk hweights) hsteps) hloss

end LogisticModel

namespace Classifier

/-- The weights that are learnt from rows and codes come from full steps down the gradient
of a mean log loss, as many as it takes to find it flat or as many as allowed.  A search
that stopped by itself is the same with every other number of steps that leaves room for
it.  In exact arithmetic the formulas for loss and gradient belong together. -/
theorem learn_logistic (c : LogisticClassifier) (hvalid : c.settings.problem? = none)
    {rows : List Features} {codes : List Nat} {t : TrainingSet}
    (haccepted : TrainingSet.make rows codes = .ok t) :
    ∃ m verdicts, codes = verdicts.map (·.code) ∧
      (logistic c).learn rows codes = (.ok ⟨⟩, logistic { c with model? := some m }) ∧
      m.FoundBy c.settings t.width ((rows.map (·.toList)).zip verdicts) ∧
      (m.iterations < c.settings.maxIterations → ∀ cap, m.iterations ≤ cap →
        (logistic ⟨{ c.settings with maxIterations := cap }, c.model?⟩).learn rows codes =
          (.ok ⟨⟩, logistic ⟨{ c.settings with maxIterations := cap }, some m⟩)) ∧
      ∀ slopes bias others, LogLoss.Unclipped slopes bias others →
        LogLoss.IsGradient (LogLoss.meanLoss · · others) slopes bias
          (fun j => LogLoss.slopeTotal slopes bias others j / others.length)
          (LogLoss.biasTotal slopes bias others / others.length) := by
  obtain ⟨verdicts, hcodes, hcases⟩ := LogisticModel.casesOf_make haccepted
  refine ⟨LogisticModel.learn c.settings t, verdicts, hcodes, ?_,
    hcases ▸ LogisticModel.foundBy_learn _ t hvalid, ?_, ?_⟩
  · rw [learn_eq, haccepted]
    rfl
  · intro hearly cap hroom
    rw [learn_eq, haccepted]
    have hsame := LogisticModel.learn_of_cap hvalid hearly hroom
    exact congrArg (fun m => (Except.ok (), logistic ⟨_, some m⟩)) hsame
  · intro slopes bias others hunclipped
    exact LogLoss.isGradient_meanLoss hunclipped

/-- Where one step is allowed, one step is made from zero weights.  All probabilities are
one half there, and the first slope goes down by half of its derivative.  Exponentials of
doubles are not calculated in proofs, so that of a zero is assumed to be one. -/
theorem learn_logistic_one_step :
    (LogisticClassifier.fresh ⟨0.5, 1, 1e-6⟩).settings.problem? = none ∧
    ∃ t m, TrainingSet.make [#[1.0, 0.5], #[2.0, -1.0]] [1, 0] = .ok t ∧
      (logistic (.fresh ⟨0.5, 1, 1e-6⟩)).learn [#[1.0, 0.5], #[2.0, -1.0]] [1, 0] =
        (.ok ⟨⟩, logistic ⟨⟨0.5, 1, 1e-6⟩, some m⟩) ∧
      m.iterations = 1 ∧
      (Float.exp (-0.0) = 1.0 → m.weights = ⟨[-0.125, 0.1875], 0.0⟩ ∧
        m.loss =
          (0.0 + -Float.log (LogLoss.clip
              (Float.exp (-0.03125) / (1.0 + Float.exp (-0.03125)))) +
            -Float.log (1.0 - LogLoss.clip
              (Float.exp (-0.4375) / (1.0 + Float.exp (-0.4375))))) / 2.0) ∧
      HasDerivAt (fun x => LogLoss.meanLoss [x, 0] 0
        [([1, 0.5], .positive), ([2, -1], .negative)]) (0.25 : ℝ) 0 := by
  let t : TrainingSet :=
    ⟨[⟨#[1.0, 0.5], .positive⟩, ⟨#[2.0, -1.0], .negative⟩], 2, nofun, by decide +kernel⟩
  have hvalid : (LogisticClassifier.fresh ⟨0.5, 1, 1e-6⟩).settings.problem? = none := by
    decide +kernel
  have haccepted : TrainingSet.make [#[1.0, 0.5], #[2.0, -1.0]] [1, 0] = .ok t := rfl
  obtain ⟨m, verdicts, hcodes, hlearn, hm, -, hgradient⟩ :=
    learn_logistic (.fresh ⟨0.5, 1, 1e-6⟩) hvalid haccepted
  have hverdicts : [Verdict.positive, .negative] = verdicts :=
    List.map_injective_iff.mpr (fun _ _ => Verdict.code_injective) hcodes
  subst hverdicts
  have hone : m.iterations = 1 := Nat.le_antisymm hm.stops.le_cap hm.pos
  have hslope : HasDerivAt (fun x => LogLoss.meanLoss [x, 0] 0
      [([1, 0.5], .positive), ([2, -1], .negative)]) (0.25 : ℝ) 0 := by
    have hpart : LogLoss.slopeTotal [0, 0] 0
        [([1, 0.5], .positive), ([2, -1], .negative)] 0 / (2 : ℝ) = 0.25 := by
      simp only [LogLoss.slopeTotal, LogLoss.total_real, LogLoss.error,
        LogLoss.logistic_real, LogLoss.score_real]
      norm_num
    rw [← hpart]
    exact (hgradient [0, 0] 0 _ (LogLoss.unclipped_zero 2 _)).slope 0 Nat.two_pos
  refine ⟨hvalid, t, m, haccepted, hlearn, hone, ?_, hslope⟩
  intro hexp
  have hfirst : LogLoss.error [0.0, 0.0] 0.0 ([1.0, 0.5], .positive) = (-0.5 : Float) := by
    rw [LogLoss.error_of_score (z := 0.0) (by decide +kernel), LogLoss.logistic_zero hexp]
    decide +kernel
  have hsecond : LogLoss.error [0.0, 0.0] 0.0 ([2.0, -1.0], .negative) = (0.5 : Float) := by
    rw [LogLoss.error_of_score (z := 0.0) (by decide +kernel), LogLoss.logistic_zero hexp]
    decide +kernel
  have hslopes : LogLoss.slopeTotal [0.0, 0.0] (0.0 : Float)
      [([1.0, 0.5], .positive), ([2.0, -1.0], .negative)] = fun j =>
        LogLoss.total [-0.5 * [1.0, 0.5].getD j 0.0, 0.5 * [2.0, -1.0].getD j 0.0] := by
    funext j
    simp only [LogLoss.slopeTotal, List.map_cons, List.map_nil, hfirst, hsecond]
  have hweights : m.weights = ⟨[-0.125, 0.1875], 0.0⟩ := by
    rw [hm.weights_eq, hone]
    change Logistic.next 0.5 [([1.0, 0.5], .positive), ([2.0, -1.0], .negative)]
      ⟨[0.0, 0.0], 0.0⟩ = _
    simp only [Logistic.next, Logistic.gradient, LogLoss.biasTotal, List.map_cons,
      List.map_nil, hfirst, hsecond, hslopes]
    decide +kernel
  refine ⟨hweights, ?_⟩
  have hlogistic' {z : Float} (hz : ¬ 0.0 ≤ z) :
      LogLoss.logistic z = Float.exp z / (1.0 + Float.exp z) := if_neg hz
  have hscore : LogLoss.score [-0.125, 0.1875] 0.0 [1.0, 0.5] = (-0.03125 : Float) := by
    decide +kernel
  have hscore' : LogLoss.score [-0.125, 0.1875] 0.0 [2.0, -1.0] = (-0.4375 : Float) := by
    decide +kernel
  have htwo : Float.ofNat 2 = 2.0 := by decide +kernel
  rw [hm.loss_eq, hweights, ← hlogistic' (by decide +kernel : ¬ 0.0 ≤ (-0.03125 : Float)),
    ← hlogistic' (by decide +kernel : ¬ 0.0 ≤ (-0.4375 : Float)), ← hscore, ← hscore', ← htwo]
  rfl

end Classifier

end Credence
