/-
The members of an object, found by name.  As long as every name occurs once, a
record takes from an object what it holds under the names of its fields, whatever
else it holds and in whatever order.
-/
import Credence.Json.Fields

namespace Credence.Json

section literals

def IsCount (n : Nat) (j : Json) : Prop :=
  ∃ numeral : Numeral, j = .num numeral ∧ numeral.toCount? = some n

def IsFloat (x : Float) (j : Json) : Prop :=
  ∃ numeral : Numeral, j = .num numeral ∧ numeral.toFloat? = some x

/-- A value that may be missing: null where it is. -/
def IsOption (Is : α → Json → Prop) : Option α → Json → Prop
  | none, j => j = .null
  | some x, j => Is x j

variable {j : Json}

theorem IsCount.toCount?_eq {n : Nat} (h : IsCount n j) : j.toCount? = some n := by
  obtain ⟨numeral, rfl, h⟩ := h
  exact h

theorem IsFloat.toFloat?_eq {x : Float} (h : IsFloat x j) : j.toFloat? = some x := by
  obtain ⟨numeral, rfl, h⟩ := h
  exact h

/-- Null is not read, so nothing but a value may be null. -/
theorem IsOption.toOption?_eq {Is : α → Json → Prop} {read : Json → Option α}
    {x : Option α} (hread : ∀ y j, Is y j → read j = some y)
    (hnull : read .null = none) (h : IsOption Is x j) :
    toOption? read j = some x := by
  cases x with
  | none =>
      cases h
      rfl
  | some y =>
      have hy : read j = some y := hread y j h
      have hj : j ≠ .null := by
        rintro rfl
        rw [hnull] at hy
        cases hy
      rw [toOption?.eq_2 read j hj, hy]
      rfl

end literals

section lookup

variable {members : List (String × Json)}

/-- Among different names, the first member that bears a name is the only one. -/
theorem member?_singleton (hdistinct : (members.map Prod.fst).Nodup) (name : String) :
    member? [name] members = some (members.lookup name) := by
  induction members with
  | nil => rfl
  | cons m members ih =>
      obtain ⟨key, value⟩ := m
      obtain ⟨hnew, hdistinct⟩ := List.nodup_cons.mp hdistinct
      by_cases hkey : key = name
      · subst hkey
        have hrest : (members.filter fun m => [key].contains m.1) = [] := by
          rw [List.filter_eq_nil_iff]
          intro m hm hcontains
          have hname : m.1 = key := by simpa using hcontains
          exact hnew (List.mem_map.mpr ⟨m, hm, hname⟩)
        rw [member?, List.filter_cons_of_pos (by simp), hrest, List.lookup_cons_self]
      · have hlookup : ((key, value) :: members).lookup name = members.lookup name := by
          rw [List.lookup_cons, beq_false_of_ne (Ne.symm hkey)]
        rw [hlookup, ← ih hdistinct, member?, member?,
          List.filter_cons_of_neg (by simpa using hkey)]

theorem lookup_eq_some (hdistinct : (members.map Prod.fst).Nodup) {name : String}
    {j : Json} (hmem : (name, j) ∈ members) : members.lookup name = some j := by
  induction members with
  | nil => cases hmem
  | cons m members ih =>
      obtain ⟨key, value⟩ := m
      obtain ⟨hnew, hdistinct⟩ := List.nodup_cons.mp hdistinct
      rcases List.mem_cons.mp hmem with heq | hrest
      · cases heq
        exact List.lookup_cons_self
      · have hkey : name ≠ key := by
          rintro rfl
          exact hnew (List.mem_map.mpr ⟨_, hrest, rfl⟩)
        rw [List.lookup_cons, beq_false_of_ne hkey]
        exact ih hdistinct hrest

theorem lookup_eq_none {name : String} (hmem : name ∉ members.map Prod.fst) :
    members.lookup name = none := by
  rw [List.lookup_eq_none_iff]
  intro m hm
  have hname : name ≠ m.1 := fun h =>
    hmem (List.mem_map.mpr ⟨m, hm, h.symm⟩)
  simpa using hname

/-- What the members of an object give for fields with one name each. -/
def Fields.ofMembers (names : List String) (members : List (String × Json)) :
    Fields :=
  ⟨names.map fun name => members.lookup name, true⟩

/-- Names that are no field's do not matter, nor does the order. -/
theorem fields?_obj (hdistinct : (members.map Prod.fst).Nodup) (names : List String) :
    fields? (names.map fun name => [name]) (.obj members)
      = some (Fields.ofMembers names members) := by
  have hall : ((names.map fun name => [name]).mapM fun alternatives =>
      member? alternatives members)
        = some (names.map fun name => members.lookup name) := by
    induction names with
    | nil => rfl
    | cons name names ih =>
        rw [List.map_cons, List.mapM_cons, member?_singleton hdistinct name, ih]
        rfl
  rw [fields?, hall]
  rfl

theorem Fields.at?_ofMembers {names : List String} {name : String} {i : Nat}
    (hname : names[i]? = some name) :
    (ofMembers names members).at? i = members.lookup name := by
  rw [at?, ofMembers, List.getElem?_map, hname]
  rfl

/-- The members hold a value of one kind under a name where it is wanted, and
nothing under that name otherwise. -/
def HasField (members : List (String × Json)) (name : String) (wanted : Bool)
    (Is : Json → Prop) : Prop :=
  if wanted then ∃ j, (name, j) ∈ members ∧ Is j
  else name ∉ members.map Prod.fst

/-- The members hold an object of one kind under a name.  They may do without it
where no field of it is wanted. -/
def HasSection (members : List (String × Json)) (name : String) (wanted : ι → Bool)
    (Is : List (String × Json) → Prop) : Prop :=
  (∃ inner, (name, obj inner) ∈ members ∧ Is inner)
    ∨ (name ∉ members.map Prod.fst ∧ ∀ field, wanted field = false)

variable {names : List String} {name : String} {i : Nat} {read : Json → Option α}
  {x default : α}

/-- A field that is wanted gets its value, and any other one keeps the value that
counts when it is missing. -/
theorem HasField.withDefault_eq {wanted : Bool} {Is : Json → Prop}
    (h : HasField members name wanted Is) (hdistinct : (members.map Prod.fst).Nodup)
    (hname : names[i]? = some name) (hread : ∀ j, Is j → read j = some x) :
    (Fields.ofMembers names members).withDefault i read default
      = some (if wanted then x else default) := by
  rw [Fields.withDefault, Fields.at?_ofMembers hname]
  cases wanted with
  | true =>
      obtain ⟨j, hmem, hj⟩ := h
      rw [lookup_eq_some hdistinct hmem]
      exact hread j hj
  | false => rw [lookup_eq_none h]; rfl

/-- A section may be left out where it would change nothing. -/
theorem HasSection.withDefault_eq {wanted : ι → Bool}
    {Is : List (String × Json) → Prop} (h : HasSection members name wanted Is)
    (hdistinct : (members.map Prod.fst).Nodup) (hname : names[i]? = some name)
    (hread : ∀ inner, Is inner → read (obj inner) = some x)
    (hnone : (∀ field, wanted field = false) → x = default) :
    (Fields.ofMembers names members).withDefault i read default = some x := by
  rw [Fields.withDefault, Fields.at?_ofMembers hname]
  rcases h with ⟨inner, hmem, hinner⟩ | ⟨hmem, hwanted⟩
  · rw [lookup_eq_some hdistinct hmem]
    exact hread inner hinner
  · rw [lookup_eq_none hmem, hnone hwanted]

end lookup

end Credence.Json
