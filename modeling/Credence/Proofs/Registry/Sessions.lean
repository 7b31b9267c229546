/-
What every request makes of a registry, in one equation for each.  The sessions
stand in ascending order of their ids, and writing to one of them changes what is
found under its own id only.
-/
import Credence.Proofs.Pipeline.Rollback
import Credence.Registry.Run
import Mathlib.Data.List.Nodup

namespace Credence

namespace SessionId

/-- One id comes before another one. -/
def Before (x y : SessionId) : Prop := x.value.toNat < y.value.toNat

theorem Before.trans {x y z : SessionId} (hxy : x.Before y) (hyz : y.Before z) :
    x.Before z := Nat.lt_trans hxy hyz

theorem Before.ne {x y : SessionId} (h : x.Before y) : x ≠ y := by
  rintro rfl
  exact Nat.lt_irrefl _ h

theorem value_toNat_injective {x y : SessionId}
    (h : x.value.toNat = y.value.toNat) : x = y := by
  cases x
  cases y
  exact congrArg _ (BitVec.eq_of_toNat_eq h)

theorem before_of_le {x y : SessionId} (hne : x ≠ y) (hle : x.le y = true) :
    x.Before y :=
  Nat.lt_of_le_of_ne (of_decide_eq_true hle) (mt value_toNat_injective hne)

theorem before_of_not_le {x y : SessionId} (hle : ¬ x.le y = true) :
    y.Before x :=
  Nat.lt_of_not_le fun h => hle (decide_eq_true h)

end SessionId

namespace Registry

section sessions

variable {sessions : List (SessionId × Pipeline)}

theorem lookup_cons (other head : SessionId) (q : Pipeline)
    (rest : List (SessionId × Pipeline)) :
    ((head, q) :: rest).lookup other =
      if other = head then some q else rest.lookup other := by
  by_cases h : other = head
  · simp [h]
  · have hbeq : (other == head) = false := beq_eq_false_iff_ne.mpr h
    rw [List.lookup_cons, hbeq, if_neg h]

theorem isSome_lookup_iff {id : SessionId} :
    (sessions.lookup id).isSome ↔ id ∈ sessions.map (·.1) := by
  induction sessions with
  | nil => simp
  | cons entry rest ih =>
      obtain ⟨head, q⟩ := entry
      rw [lookup_cons, List.map_cons, List.mem_cons]
      by_cases h : id = head
      · simp [h]
      · rw [if_neg h, ih]
        simp [h]

variable (id : SessionId) (p : Pipeline)

theorem lookup_insertInto (other : SessionId) :
    (insertInto id p sessions).lookup other =
      if other = id then some p else sessions.lookup other := by
  induction sessions with
  | nil => rw [insertInto, lookup_cons]
  | cons entry rest ih =>
      obtain ⟨head, q⟩ := entry
      rw [insertInto]
      by_cases hhead : id = head
      · rw [if_pos hhead, lookup_cons, lookup_cons, hhead]
        split
        · rfl
        · rfl
      · rw [if_neg hhead]
        by_cases hle : id.le head = true
        · rw [if_pos hle, lookup_cons]
        · rw [if_neg hle, lookup_cons, lookup_cons, ih]
          by_cases hother : other = head
          · have hne : other ≠ id := fun h => hhead (h.symm.trans hother)
            rw [if_pos hother, if_neg hne, if_pos hother]
          · rw [if_neg hother, if_neg hother]

theorem mem_ids_insertInto {other : SessionId} :
    other ∈ (insertInto id p sessions).map (·.1) ↔
      other = id ∨ other ∈ sessions.map (·.1) := by
  rw [← isSome_lookup_iff, ← isSome_lookup_iff, lookup_insertInto]
  by_cases h : other = id
  · simp [h]
  · simp [h]

theorem pairwise_insertInto
    (h : (sessions.map (·.1)).Pairwise SessionId.Before) :
    ((insertInto id p sessions).map (·.1)).Pairwise SessionId.Before := by
  induction sessions with
  | nil => exact List.pairwise_singleton _ id
  | cons entry rest ih =>
      obtain ⟨head, q⟩ := entry
      obtain ⟨hhead, hrest⟩ := List.pairwise_cons.mp h
      rw [insertInto]
      by_cases heq : id = head
      · rw [if_pos heq, List.map_cons, heq]
        exact h
      · rw [if_neg heq]
        by_cases hle : id.le head = true
        · have hfirst := SessionId.before_of_le heq hle
          rw [if_pos hle, List.map_cons]
          refine List.pairwise_cons.mpr ⟨?_, h⟩
          intro other hother
          rcases List.mem_cons.mp hother with rfl | hother
          · exact hfirst
          · exact hfirst.trans (hhead other hother)
        · rw [if_neg hle, List.map_cons]
          refine List.pairwise_cons.mpr ⟨?_, ih hrest⟩
          intro other hother
          rcases (mem_ids_insertInto id p).mp hother with rfl | hother
          · exact SessionId.before_of_not_le hle
          · exact hhead other hother

theorem lookup_filter_ne (other : SessionId) :
    (sessions.filter (·.1 ≠ id)).lookup other =
      if other = id then none else sessions.lookup other := by
  induction sessions with
  | nil => simp
  | cons entry rest ih =>
      obtain ⟨head, q⟩ := entry
      rw [List.filter_cons]
      by_cases hhead : head = id
      · rw [if_neg (by simpa using hhead), ih, lookup_cons, hhead]
        split
        · rfl
        · rfl
      · rw [if_pos (by simpa using hhead), lookup_cons, lookup_cons, ih]
        by_cases hother : other = head
        · have hne : other ≠ id := fun h => hhead (hother.symm.trans h)
          rw [if_pos hother, if_neg hne, if_pos hother]
        · rw [if_neg hother, if_neg hother]

end sessions

section get?

variable (r : Registry) (id other : SessionId) (p : Pipeline)

theorem get?_insert :
    (r.insert id p).get? other = if other = id then some p else r.get? other :=
  lookup_insertInto id p other

@[simp] theorem get?_insert_self : (r.insert id p).get? id = some p := by
  rw [get?_insert, if_pos rfl]

theorem get?_remove :
    (r.remove id).2.get? other = if other = id then none else r.get? other :=
  lookup_filter_ne id other

theorem isSome_get?_iff : (r.get? id).isSome ↔ id ∈ r.ids :=
  isSome_lookup_iff

theorem mem_ids_of_get?_eq_some (h : r.get? id = some p) : id ∈ r.ids := by
  rw [← isSome_get?_iff, h]
  rfl

theorem mem_ids_insert :
    other ∈ (r.insert id p).ids ↔ other = id ∨ other ∈ r.ids :=
  mem_ids_insertInto id p

theorem mem_ids_remove :
    other ∈ (r.remove id).2.ids ↔ other ≠ id ∧ other ∈ r.ids := by
  rw [← isSome_get?_iff, ← isSome_get?_iff, get?_remove]
  by_cases h : other = id
  · simp [h]
  · simp [h]

theorem pairwise_ids_remove (h : r.ids.Pairwise SessionId.Before) :
    (r.remove id).2.ids.Pairwise SessionId.Before :=
  h.sublist ((List.filter_sublist).map _)

/-- Where nothing stands under an id, nothing is taken out. -/
theorem remove_of_get?_eq_none (h : r.get? id = none) :
    r.remove id = (none, r) := by
  have hkeep : r.sessions.filter (·.1 ≠ id) = r.sessions := by
    rw [List.filter_eq_self]
    intro entry hentry
    have habsent : id ∉ r.ids := by
      rw [← isSome_get?_iff, h]
      exact Bool.false_ne_true
    refine decide_eq_true ?_
    rintro rfl
    exact habsent (List.mem_map_of_mem hentry)
  rw [remove, h, hkeep]

end get?

section perform

variable (r : Registry) {id : SessionId} {p : Pipeline}

theorem perform_open {kind : ModelKind} {settings : Settings}
    (hmake : Pipeline.make kind settings = .ok p) :
    r.perform (.openSession id kind settings) =
      (.ok (.opened id), r.insert id p) := by
  rw [perform, openSession, hmake]
  rfl

/-- Settings that do not hold open no session. -/
theorem perform_open_of_problem (id : SessionId) (kind : ModelKind)
    {settings : Settings} {problem : InvalidSetting}
    (h : settings.problem? = some problem) :
    r.perform (.openSession id kind settings) =
      (.error (.badSetting problem), r) := by
  have hmake : Pipeline.make kind settings = .error (.badSetting problem) := by
    rw [Pipeline.make]
    split
    · next hnone => rw [hnone] at h; cases h
    · next problem' hsome => rw [hsome] at h; cases h; rfl
  rw [perform, openSession, hmake]
  rfl

variable {r}

section found

variable (hfound : r.get? id = some p)

include hfound

theorem perform_get : r.perform (.get id) = (.ok (.found p), r) := by
  rw [perform, get, hfound]
  rfl

/-- Training in a session is training its pipeline, also if that fails. -/
theorem perform_train (fallback : UInt64) (records : List Record) :
    r.perform (.train id fallback records) =
      ((p.perform fallback (.train records)).1.map .answered,
        r.insert id (p.perform fallback (.train records)).2) := by
  simp only [perform, train, get, hfound, Pipeline.perform, Pipeline.act_map]
  rcases p.act (Pipeline.train fallback records) with ⟨e | report, next⟩
  · rfl
  · rfl

theorem perform_predict (text : String) (fallback : UInt64) :
    r.perform (.predict id text) =
      ((p.perform fallback (.predict text)).1.map .answered, r) := by
  rw [perform, predict, get, hfound, Pipeline.perform]
  change (Except.map _ (p.predict text), r) = _
  cases p.predict text with
  | error e => rfl
  | ok label => rfl

theorem perform_close :
    r.perform (.closeSession id) = (.ok .closed, (r.remove id).2) := by
  rw [perform, closeSession, remove, hfound]
  rfl

end found

/-- The session that a request needs to be there, if it needs one. -/
def Request.session? : Request → Option SessionId
  | .get id | .train id _ _ | .predict id _ | .closeSession id => some id
  | .openSession _ _ _ | .size | .ids => none

/-- Without its session a request comes to nothing. -/
theorem perform_of_get?_eq_none (hnone : r.get? id = none) {request : Request}
    (hsession : request.session? = some id) :
    r.perform request = (.error (.unknownSession id.text), r) := by
  cases request with
  | openSession other kind settings => cases hsession
  | size => cases hsession
  | ids => cases hsession
  | get other =>
      cases hsession
      rw [perform, get, hnone]
      rfl
  | train other fallback records =>
      cases hsession
      rw [perform, train, get, hnone]
      rfl
  | predict other text =>
      cases hsession
      rw [perform, predict, get, hnone]
      rfl
  | closeSession other =>
      cases hsession
      rw [perform, closeSession, remove_of_get?_eq_none _ _ hnone]
      rfl

end perform

end Registry

end Credence
