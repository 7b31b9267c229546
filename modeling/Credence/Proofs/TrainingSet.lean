/-
When rows and codes make a training set.  The checks come one after the other, and
the first one that fails decides what is wrong.
-/
import Credence.Features
import Credence.Proofs.Traversal
import Mathlib.Data.List.Perm.Basic
import Mathlib.Tactic.MkIffOfInductiveProp

namespace Credence

namespace Verdict

theorem ofCode_eq_ok_iff {code : Nat} {v : Verdict} :
    ofCode code = .ok v ↔ code = v.code := by
  constructor
  · intro h
    match code, h with
    | 0, h => cases h; rfl
    | 1, h => cases h; rfl
  · rintro rfl
    exact ofCode_code v

theorem ofCode_eq_error {code : Nat} {e : Error} (h : ofCode code = .error e) :
    ¬ (code = 0 ∨ code = 1) ∧ e.kind = .typeMismatch := by
  match code, h with
  | code + 2, h =>
      cases h
      exact ⟨by omega, rfl⟩

theorem eq_map_code_of_mapM_ofCode {codes : List Nat}
    {verdicts : List Verdict} (h : codes.mapM ofCode = .ok verdicts) :
    codes = verdicts.map code := by
  induction codes generalizing verdicts with
  | nil =>
      cases h
      rfl
  | cons c codes ih =>
      rw [List.mapM_cons] at h
      obtain ⟨v, hv, h⟩ := bind_eq_ok_iff.mp h
      obtain ⟨vs, hvs, h⟩ := bind_eq_ok_iff.mp h
      cases h
      rw [List.map_cons, ofCode_eq_ok_iff.mp hv, ← ih hvs]

/-- Codes that verdicts have are binary. -/
theorem binary_of_eq_map_code {codes : List Nat} {verdicts : List Verdict}
    (h : codes = verdicts.map code) : ∀ c ∈ codes, c = 0 ∨ c = 1 := by
  intro c hc
  rw [h] at hc
  obtain ⟨v, -, rfl⟩ := List.mem_map.mp hc
  exact v.code_binary

end Verdict

/-- Pairs in another order have their first and their second parts in another order. -/
theorem perm_of_zip_perm {α β : Type} {xs xs' : List α} {ys ys' : List β}
    (hlength : xs.length = ys.length) (hother : xs'.length = ys'.length)
    (hperm : (xs'.zip ys').Perm (xs.zip ys)) : xs'.Perm xs ∧ ys'.Perm ys := by
  have hfst := hperm.map Prod.fst
  have hsnd := hperm.map Prod.snd
  rw [List.map_fst_zip (Nat.le_of_eq hother), List.map_fst_zip (Nat.le_of_eq hlength)]
    at hfst
  rw [List.map_snd_zip (Nat.le_of_eq hother.symm),
    List.map_snd_zip (Nat.le_of_eq hlength.symm)] at hsnd
  exact ⟨hfst, hsnd⟩

/-- At least one row, all of one width, and a binary code for each of them. -/
@[mk_iff]
structure Learnable (rows : List Features) (codes : List Nat) : Prop where
  length_eq : rows.length = codes.length
  rows_ne_nil : rows ≠ []
  size_eq : ∀ row ∈ rows, ∀ other ∈ rows, row.size = other.size
  binary : ∀ code ∈ codes, code = 0 ∨ code = 1

instance (rows : List Features) (codes : List Nat) :
    Decidable (Learnable rows codes) :=
  decidable_of_iff _ (learnable_iff rows codes).symm

namespace TrainingSet

theorem exists_of_raggedRow?_eq_some {width : Nat} {rows : List Features}
    {row : Features × Nat} (h : raggedRow? width rows = some row) :
    row.1 ∈ rows ∧ row.1.size ≠ width := by
  have hmem := List.fst_mem_of_mem_zipIdx (List.mem_of_find?_eq_some h)
  have hsize := List.find?_some h
  exact ⟨hmem, by simpa using hsize⟩

/-- What can come of rows and codes that are put together. -/
inductive Outcome (rows : List Features) (codes : List Nat) :
    Except Error TrainingSet → Prop
  | unequal (h : rows.length ≠ codes.length) :
      Outcome rows codes (.error (.lengthMismatch rows.length codes.length))
  | empty (hrows : rows = []) (hcodes : codes = []) :
      Outcome rows codes (.error .emptyTrainingSet)
  | refused {e : Error} (hlength : rows.length = codes.length)
      (hne : rows ≠ []) (h : ¬ Learnable rows codes)
      (hkind : e.kind = .typeMismatch) :
      Outcome rows codes (.error e)
  | taken {t : TrainingSet} {verdicts : List Verdict} (h : Learnable rows codes)
      (hwidth : ∀ row ∈ rows, row.size = t.width)
      (hcodes : codes = verdicts.map (·.code))
      (hsamples : t.samples = join rows verdicts) :
      Outcome rows codes (.ok t)

theorem outcome_make (rows : List Features) (codes : List Nat) :
    Outcome rows codes (make rows codes) := by
  rw [make]
  split
  case isFalse hlength => exact .unequal hlength
  case isTrue hlength =>
    match rows, codes, hlength with
    | [], [], _ => exact .empty rfl rfl
    | first :: others, code :: codes, hlength =>
        dsimp only
        split
        · next row i hragged =>
            obtain ⟨hrow, hsize⟩ := exists_of_raggedRow?_eq_some hragged
            exact .refused hlength nofun (fun h =>
              hsize (h.size_eq row hrow first List.mem_cons_self)) rfl
        · next hragged =>
            have hwidth := size_of_raggedRow?_eq_none hragged
            cases hcode : Verdict.ofCode code with
            | error e =>
                obtain ⟨hbad, hkind⟩ := Verdict.ofCode_eq_error hcode
                exact .refused hlength nofun (fun h =>
                  hbad (h.binary code List.mem_cons_self)) hkind
            | ok v =>
                cases hcodes : codes.mapM Verdict.ofCode with
                | error e =>
                    obtain ⟨other, hother, hbad⟩ :=
                      exists_of_mapM_eq_error hcodes
                    obtain ⟨hbad, hkind⟩ := Verdict.ofCode_eq_error hbad
                    exact .refused hlength nofun (fun h =>
                      hbad (h.binary other
                        (List.mem_cons_of_mem code hother))) hkind
                | ok verdicts =>
                    have hall : code :: codes =
                        (v :: verdicts).map (·.code) := by
                      rw [List.map_cons, Verdict.ofCode_eq_ok_iff.mp hcode,
                        Verdict.eq_map_code_of_mapM_ofCode hcodes]
                    refine .taken ⟨hlength, nofun, ?_,
                      Verdict.binary_of_eq_map_code hall⟩ hwidth hall rfl
                    intro row hrow other hother
                    rw [hwidth row hrow, hwidth other hother]

theorem exists_make_eq_ok {rows : List Features} {codes : List Nat}
    (h : Learnable rows codes) :
    ∃ t, make rows codes = .ok t ∧ ∀ row ∈ rows, row.size = t.width := by
  have houtcome := outcome_make rows codes
  generalize make rows codes = made at houtcome ⊢
  cases houtcome with
  | unequal hlength => exact absurd h.length_eq hlength
  | empty hrows hcodes => exact absurd hrows h.rows_ne_nil
  | refused hlength hne hbad hkind => exact absurd h hbad
  | taken _ hwidth _ _ => exact ⟨_, rfl, hwidth⟩

section perm

variable {rows others : List Features} {codes labels : List Nat}

/-- The pairs of a row and its code, as they were before they were joined. -/
theorem map_join (rows : List Features) (verdicts : List Verdict) :
    (join rows verdicts).map (fun s => (s.features, s.verdict.code)) =
      rows.zip (verdicts.map (·.code)) := by
  rw [join, List.map_zipWith, List.zip_map_right, List.zip, List.map_zipWith]
  rfl

/-- A training set holds the rows and codes it was made of, and nothing else. -/
theorem pairs_of_make {t : TrainingSet} (h : make rows codes = .ok t) :
    t.samples.map (fun s => (s.features, s.verdict.code)) = rows.zip codes := by
  have houtcome := outcome_make rows codes
  rw [h] at houtcome
  obtain _ | _ | _ | ⟨-, -, rfl, hsamples⟩ := houtcome
  rw [hsamples, map_join]

theorem pair_injective :
    Function.Injective fun s : Sample => (s.features, s.verdict.code) := by
  intro s t h
  rcases s with ⟨row, v⟩
  rcases t with ⟨other, w⟩
  obtain ⟨hrow, hcode⟩ := Prod.mk.inj h
  exact Sample.mk.injEq .. ▸ ⟨hrow, Verdict.code_injective hcode⟩

/-- What can be learnt from can be learnt from in any order. -/
theorem learnable_of_perm (h : Learnable rows codes)
    (hlength : others.length = labels.length)
    (hperm : (others.zip labels).Perm (rows.zip codes)) : Learnable others labels := by
  obtain ⟨hrows, hcodes⟩ := perm_of_zip_perm h.length_eq hlength hperm
  constructor
  · exact hlength
  · rintro rfl
    exact h.rows_ne_nil hrows.nil_eq.symm
  · intro row hrow other hother
    exact h.size_eq row (hrows.mem_iff.mp hrow) other (hrows.mem_iff.mp hother)
  · intro code hcode
    exact h.binary code (hcodes.mem_iff.mp hcode)

/-- Rows and codes that were taken are also taken in any other order. -/
theorem exists_make_eq_ok_of_perm {t : TrainingSet} (h : make rows codes = .ok t)
    (hlength : others.length = labels.length)
    (hperm : (others.zip labels).Perm (rows.zip codes)) :
    ∃ u, make others labels = .ok u ∧ u.samples.Perm t.samples ∧ u.width = t.width := by
  have hpairs := pairs_of_make h
  have hbefore := outcome_make rows codes
  rw [h] at hbefore
  obtain _ | _ | _ | ⟨hlearnable, hwidth, -, -⟩ := hbefore
  have hafter := outcome_make others labels
  have hgood := learnable_of_perm hlearnable hlength hperm
  obtain ⟨u, hu, -⟩ := exists_make_eq_ok hgood
  rw [hu] at hafter
  obtain _ | _ | _ | ⟨-, hwidth', -, -⟩ := hafter
  refine ⟨u, hu, ?_, ?_⟩
  · rw [← List.map_perm_map_iff pair_injective, pairs_of_make hu, hpairs]
    exact hperm
  · obtain ⟨hrows, -⟩ := perm_of_zip_perm hlearnable.length_eq hlength hperm
    obtain ⟨row, hrow⟩ := List.exists_mem_of_ne_nil others hgood.rows_ne_nil
    exact (hwidth' row hrow).symm.trans (hwidth row (hrows.mem_iff.mp hrow))

end perm

end TrainingSet

/-- Rows with the codes that come with them, whether they fit together or not. -/
abbrev LabelledRows := List Features × List Nat

namespace LabelledRows

/-- What is wrong with rows and codes that cannot be learnt from, by the first check
that fails. -/
def refusal (s : LabelledRows) : ErrorKind :=
  if s.1.length ≠ s.2.length then .shapeMismatch
  else if s.1 = [] then .insufficientData
  else .typeMismatch

theorem exists_make_eq_error {s : LabelledRows} (h : ¬ Learnable s.1 s.2) :
    ∃ e, TrainingSet.make s.1 s.2 = .error e ∧ e.kind = s.refusal := by
  have houtcome := TrainingSet.outcome_make s.1 s.2
  generalize TrainingSet.make s.1 s.2 = made at houtcome ⊢
  cases houtcome with
  | unequal hlength =>
      refine ⟨_, rfl, ?_⟩
      rw [refusal, if_pos hlength]
      rfl
  | empty hrows hcodes =>
      refine ⟨_, rfl, ?_⟩
      rw [refusal, hrows, hcodes]
      rfl
  | refused hlength hne _ hkind =>
      refine ⟨_, rfl, ?_⟩
      rw [refusal, if_neg (not_not.mpr hlength), if_neg hne, hkind]
  | taken hgood _ _ _ => exact absurd hgood h

end LabelledRows

end Credence
