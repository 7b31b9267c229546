/-
Lists that are gone through with a step that may fail.
-/
import Mathlib.Data.List.Basic

namespace Credence

variable {α β γ ε : Type}

theorem eq_error_of_map_eq_error {x : Except ε α} {f : α → β} {e : ε}
    (h : x.map f = .error e) : x = .error e := by
  cases x with
  | ok x => cases h
  | error e' => exact congrArg Except.error (Except.error.inj h)

theorem bind_eq_ok_iff {x : Except ε α} {f : α → Except ε β} {y : β} :
    x >>= f = .ok y ↔ ∃ a, x = .ok a ∧ f a = .ok y := by
  cases x with
  | ok a => simp [bind, Except.bind]
  | error e => simp [bind, Except.bind]

/-- If no step fails, the results are those of a plain map. -/
theorem mapM_eq_ok_map {f : α → Except ε β} {g : α → β} {xs : List α}
    (h : ∀ x ∈ xs, f x = .ok (g x)) : xs.mapM f = .ok (xs.map g) := by
  induction xs with
  | nil => rfl
  | cons x xs ih =>
      rw [List.mapM_cons, h x List.mem_cons_self,
        ih fun y hy => h y (List.mem_cons_of_mem x hy)]
      rfl

/-- All goes well if it does so with each element, and then there is one result for
each of them. -/
theorem mapM_eq_ok_iff {f : α → Except ε β} {xs : List α} {ys : List β} :
    xs.mapM f = .ok ys ↔ xs.map f = ys.map .ok := by
  induction xs generalizing ys with
  | nil => cases ys <;> simp [pure, Except.pure]
  | cons x xs ih =>
      simp only [List.mapM_cons, bind_eq_ok_iff, ih, List.map_cons]
      constructor
      · rintro ⟨y, hy, zs, hzs, ⟨⟩⟩
        rw [hy, hzs, List.map_cons]
      · intro h
        cases ys with
        | nil => cases h
        | cons y ys =>
            obtain ⟨hy, hys⟩ := List.cons.inj h
            exact ⟨y, hy, ys, hys, rfl⟩

theorem exists_mapM_eq_ok {f : α → Except ε β} {xs : List α}
    (h : ∀ x ∈ xs, ∃ y, f x = .ok y) :
    ∃ ys, xs.mapM f = .ok ys ∧ ys.length = xs.length := by
  induction xs with
  | nil => exact ⟨[], rfl, rfl⟩
  | cons x xs ih =>
      obtain ⟨y, hy⟩ := h x List.mem_cons_self
      obtain ⟨ys, hys, hlength⟩ :=
        ih fun z hz => h z (List.mem_cons_of_mem x hz)
      refine ⟨y :: ys, ?_, congrArg (· + 1) hlength⟩
      rw [List.mapM_cons, hy, hys]
      rfl

/-- What is done to each result may be done in the end. -/
theorem mapM_map_eq (f : α → Except ε β) (g : β → γ) (xs : List α) :
    xs.mapM (fun x => (f x).map g) = (xs.mapM f).map (·.map g) := by
  induction xs with
  | nil => rfl
  | cons x xs ih =>
      rw [List.mapM_cons, List.mapM_cons, ih]
      cases f x with
      | error e => rfl
      | ok y =>
          cases xs.mapM f with
          | error e => rfl
          | ok ys => rfl

/-- Where all goes well, it does so with each element. -/
theorem exists_of_mapM_eq_ok {f : α → Except ε β} {xs : List α} {ys : List β}
    (h : xs.mapM f = .ok ys) : ∀ x ∈ xs, ∃ y, f x = .ok y := by
  intro x hx
  have hmem : f x ∈ ys.map Except.ok :=
    mapM_eq_ok_iff.mp h ▸ List.mem_map_of_mem hx
  obtain ⟨y, -, hy⟩ := List.mem_map.mp hmem
  exact ⟨y, hy.symm⟩

/-- The first element with which something goes wrong decides. -/
theorem mapM_eq_error_iff_first {f : α → Except ε β} {xs : List α} {e : ε} :
    xs.mapM f = .error e ↔ ∃ before x after, xs = before ++ x :: after ∧
      (∀ y ∈ before, ∃ z, f y = .ok z) ∧ f x = .error e := by
  constructor
  · intro h
    induction xs with
    | nil => cases h
    | cons x xs ih =>
        rw [List.mapM_cons] at h
        cases hx : f x with
        | error e' =>
            rw [hx] at h
            cases h
            exact ⟨[], x, xs, rfl, nofun, hx⟩
        | ok z =>
            rw [hx] at h
            cases hxs : xs.mapM f with
            | ok zs => rw [hxs] at h; cases h
            | error e' =>
                rw [hxs] at h
                cases h
                obtain ⟨before, y, after, rfl, hbefore, hy⟩ := ih hxs
                refine ⟨x :: before, y, after, rfl, ?_, hy⟩
                intro y' hy'
                rcases List.mem_cons.mp hy' with rfl | hy'
                · exact ⟨z, hx⟩
                · exact hbefore y' hy'
  · rintro ⟨before, x, after, rfl, hbefore, hx⟩
    obtain ⟨zs, hzs, -⟩ := exists_mapM_eq_ok hbefore
    rw [List.mapM_append, hzs]
    change (x :: after).mapM f >>= _ = _
    rw [List.mapM_cons, hx]
    rfl

/-- Whatever goes wrong has gone wrong with one of the elements. -/
theorem exists_of_mapM_eq_error {f : α → Except ε β} {xs : List α} {e : ε}
    (h : xs.mapM f = .error e) : ∃ x ∈ xs, f x = .error e := by
  obtain ⟨before, x, after, rfl, -, hx⟩ := mapM_eq_error_iff_first.mp h
  exact ⟨x, List.mem_append_right before List.mem_cons_self, hx⟩

/-- If a step can fail in one way only, it does not matter with which element. -/
theorem mapM_eq_error_iff {f : α → Except ε β} {xs : List α} {e : ε}
    (hsame : ∀ x y e e', f x = .error e → f y = .error e' → e = e') :
    xs.mapM f = .error e ↔ ∃ x ∈ xs, f x = .error e := by
  constructor
  · exact exists_of_mapM_eq_error
  · rintro ⟨x, hx, herror⟩
    cases hall : xs.mapM f with
    | error e' =>
        obtain ⟨y, -, hy⟩ := exists_of_mapM_eq_error hall
        rw [hsame x y e e' herror hy]
    | ok ys =>
        obtain ⟨y, hy⟩ := exists_of_mapM_eq_ok hall x hx
        rw [herror] at hy
        cases hy

end Credence
