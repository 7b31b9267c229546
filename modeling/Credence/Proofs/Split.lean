/-
Which items a split puts where.  The places that are drawn depend on the number of
items, on the limit and on the random words; the items and labels themselves only
come along.
-/
import Credence.Proofs.Random.Shuffle
import Credence.Split

namespace Credence

variable {α β : Type}

theorem Ratios.train_sizes_le (r : Ratios) (n : Nat) :
    (r.sizes n).train ≤ n := Nat.min_le_right _ _

namespace Entry

/-- Number the pairs of an item and its label. -/
def number (items : List α) (labels : List β) : List (Entry α β) :=
  (items.zip labels).mapIdx fun index pair => ⟨index, pair.1, pair.2⟩

theorem length_number (items : List α) (labels : List β) :
    (number items labels).length = min items.length labels.length := by
  simp [number]

theorem mem_number {items : List α} {labels : List β} {e : Entry α β} :
    e ∈ number items labels ↔
      items[e.index]? = some e.item ∧ labels[e.index]? = some e.label := by
  simp only [number, List.mem_iff_getElem?, List.getElem?_mapIdx,
    Option.map_eq_some_iff, List.getElem?_zip_eq_some]
  constructor
  · rintro ⟨i, pair, hpair, rfl⟩
    exact hpair
  · intro he
    exact ⟨e.index, (e.item, e.label), he, rfl⟩

theorem map_index_number {items : List α} {labels : List β}
    (hlength : items.length = labels.length) :
    (number items labels).map (·.index) = List.range items.length := by
  apply List.ext_getElem
  · simp [length_number, hlength]
  · intro i hi _
    simp [number]

/-- Entries are known by their places, as far as the items and labels at these
places agree. -/
theorem eq_of_map_index_eq {items₁ items₂ : List α} {labels₁ labels₂ : List β}
    {es₁ es₂ : List (Entry α β)}
    (hindex : es₁.map (·.index) = es₂.map (·.index))
    (h₁ : ∀ e ∈ es₁, e ∈ number items₁ labels₁)
    (h₂ : ∀ e ∈ es₂, e ∈ number items₂ labels₂)
    (hagree : ∀ i ∈ es₁.map (·.index),
      items₁[i]? = items₂[i]? ∧ labels₁[i]? = labels₂[i]?) :
    es₁ = es₂ := by
  induction es₁ generalizing es₂ with
  | nil => exact (List.map_eq_nil_iff.mp hindex.symm).symm
  | cons e₁ es₁ ih =>
      cases es₂ with
      | nil => cases hindex
      | cons e₂ es₂ =>
          simp only [List.map_cons, List.cons.injEq] at hindex
          have he₁ := mem_number.mp (h₁ e₁ List.mem_cons_self)
          have he₂ := mem_number.mp (h₂ e₂ List.mem_cons_self)
          have hhead := hagree e₁.index (List.mem_cons_self)
          rw [← hindex.1] at he₂
          have hitem : e₁.item = e₂.item :=
            Option.some.inj (he₁.1.symm.trans (hhead.1.trans he₂.1))
          have hlabel : e₁.label = e₂.label :=
            Option.some.inj (he₁.2.symm.trans (hhead.2.trans he₂.2))
          have heq : e₁ = e₂ := by
            cases e₁
            cases e₂
            exact Entry.mk.injEq .. ▸ ⟨hindex.1, hitem, hlabel⟩
          rw [heq, ih hindex.2 (fun e he => h₁ e (List.mem_cons_of_mem _ he))
            (fun e he => h₂ e (List.mem_cons_of_mem _ he))
            (fun i hi => hagree i (List.mem_cons_of_mem _ hi))]

end Entry

namespace Split

/-- How many of `n` items are drawn under a limit. -/
def capped (cap : Option Nat) (n : Nat) : Nat :=
  match cap with
  | some most => min n most
  | none => n

/-- Cut a list into parts of the given sizes; the last one gets the rest. -/
def cut (sizes : Sizes) (entries : List (Entry α β)) : Split α β where
  train := entries.take sizes.train
  validation := (entries.drop sizes.train).take sizes.validation
  test := entries.drop (sizes.train + sizes.validation)

/-- The entries in random order, as many as are wanted. -/
def draw (cap : Option Nat) (w : Random.Words) (items : List α)
    (labels : List β) : List (Entry α β) :=
  limit cap (Random.shuffle w (Entry.number items labels) 0).1

/-- The places of the items in the first part. -/
def trainPlaces (ratios : Ratios) (cap : Option Nat) (w : Random.Words)
    (n : Nat) : List Nat :=
  (places cap w n).take (ratios.sizes (capped cap n)).train

/-- A split by shares that hold, of items with as many labels. -/
def drawn (ratios : Ratios) (cap : Option Nat) (w : Random.Words)
    (items : List α) (labels : List β) : Split α β :=
  cut (ratios.sizes (capped cap items.length)) (draw cap w items labels)

theorem length_limit (cap : Option Nat) (xs : List α) :
    (limit cap xs).length = capped cap xs.length := by
  cases cap with
  | none => rfl
  | some most => simp [limit, capped, Nat.min_comm]

theorem map_limit (f : α → β) (cap : Option Nat) (xs : List α) :
    (limit cap xs).map f = limit cap (xs.map f) := by
  cases cap with
  | none => rfl
  | some most => exact List.map_take

theorem mem_of_mem_limit {cap : Option Nat} {xs : List α} {x : α}
    (h : x ∈ limit cap xs) : x ∈ xs := by
  cases cap with
  | none => exact h
  | some most => exact List.mem_of_mem_take h

@[simp] theorem length_places (cap : Option Nat) (w : Random.Words) (n : Nat) :
    (places cap w n).length = capped cap n := by
  simp [places, length_limit]

section draw

variable (cap : Option Nat) (w : Random.Words) {items : List α}
  {labels : List β}

theorem map_index_draw (hlength : items.length = labels.length) :
    (draw cap w items labels).map (·.index) = places cap w items.length := by
  rw [draw, map_limit, ← Random.shuffle_map, Entry.map_index_number hlength,
    places]

theorem length_draw (hlength : items.length = labels.length) :
    (draw cap w items labels).length = capped cap items.length := by
  have hindex := congrArg List.length (map_index_draw cap w hlength)
  rwa [List.length_map, length_places] at hindex

theorem mem_number_of_mem_draw {e : Entry α β}
    (he : e ∈ draw cap w items labels) : e ∈ Entry.number items labels :=
  (Random.shuffle_perm w _ 0).mem_iff.mp (mem_of_mem_limit he)

theorem nodup_places (n : Nat) : (places cap w n).Nodup := by
  have hnodup := (Random.shuffle_perm w (List.range n) 0).nodup_iff.mpr
    List.nodup_range
  cases cap with
  | none => exact hnodup
  | some most => exact hnodup.sublist (List.take_sublist most _)

end draw

section deal

/-- Every place of a list of entries still holds the item and the label of its
entry. -/
def Full (slots : Slots α β) (entries : List (Entry α β)) : Prop :=
  ∀ e ∈ entries, slots.getD e.index none = some (e.item, e.label)

/-- What is taken from one place leaves the others as they are. -/
theorem Full.take {slots : Slots α β} {e : Entry α β}
    {entries : List (Entry α β)} (h : Full slots (e :: entries))
    (hnew : e.index ∉ entries.map (·.index)) :
    slots.take e.index =
        (some (e.item, e.label), slots.setIfInBounds e.index none) ∧
      Full (slots.setIfInBounds e.index none) entries := by
  constructor
  · rw [Slots.take, h e List.mem_cons_self]
  · intro other hother
    have hne : e.index ≠ other.index := fun heq =>
      hnew (heq ▸ List.mem_map_of_mem hother)
    rw [Array.getD_eq_getD_getElem?, Array.getElem?_setIfInBounds_ne hne,
      ← Array.getD_eq_getD_getElem?]
    exact h other (List.mem_cons_of_mem e hother)

theorem fill_full {items : List α} {labels : List β}
    {entries : List (Entry α β)}
    (h : ∀ e ∈ entries, e ∈ Entry.number items labels) :
    Full (.fill items labels) entries := by
  intro e he
  obtain ⟨hitem, hlabel⟩ := Entry.mem_number.mp (h e he)
  have hpair : (items.zip labels)[e.index]? = some (e.item, e.label) :=
    List.getElem?_zip_eq_some.mpr ⟨hitem, hlabel⟩
  rw [Slots.fill, Array.getD_eq_getD_getElem?, List.getElem?_toArray,
    List.getElem?_map, hpair]
  rfl

/-- A list in parts, if its first entry has some rank. -/
def cutFrom (sizes : Sizes) (rank : Nat) (entries : List (Entry α β)) :
    Split α β where
  train := entries.take (sizes.train - rank)
  validation := (entries.take (sizes.train + sizes.validation - rank)).drop
    (sizes.train - rank)
  test := entries.drop (sizes.train + sizes.validation - rank)

theorem cutFrom_zero (sizes : Sizes) (entries : List (Entry α β)) :
    cutFrom sizes 0 entries = cut sizes entries := by
  simp only [cutFrom, cut, Nat.sub_zero, List.drop_take, Nat.add_sub_cancel_left]

/-- An entry in front of the others goes to the part that it is cut into. -/
theorem put_cutFrom (sizes : Sizes) (rank : Nat) (e : Entry α β)
    (entries : List (Entry α β)) :
    (cutFrom sizes (rank + 1) entries).put sizes rank e =
      cutFrom sizes rank (e :: entries) := by
  rw [put]
  split
  · next htrain =>
      have hfirst : sizes.train - rank = sizes.train - (rank + 1) + 1 := by omega
      have hboth : sizes.train + sizes.validation - rank =
          sizes.train + sizes.validation - (rank + 1) + 1 := by omega
      simp only [cutFrom, hfirst, hboth, List.take_succ_cons, List.drop_succ_cons]
  · next htrain =>
      have hfirst : sizes.train - rank = 0 := by omega
      have hnext : sizes.train - (rank + 1) = 0 := by omega
      split
      · next hvalidation =>
          have hboth : sizes.train + sizes.validation - rank =
              sizes.train + sizes.validation - (rank + 1) + 1 := by omega
          simp only [cutFrom, hfirst, hnext, hboth, List.take_zero, List.drop_zero,
            List.take_succ_cons, List.drop_succ_cons]
      · next hvalidation =>
          have hboth : sizes.train + sizes.validation - rank = 0 := by omega
          have hlast : sizes.train + sizes.validation - (rank + 1) = 0 := by omega
          simp only [cutFrom, hfirst, hnext, hboth, hlast, List.take_zero,
            List.drop_zero]

/-- No slot is empty when its turn comes, so dealing is cutting. -/
theorem deal_eq_cutFrom (sizes : Sizes) (rank : Nat) {slots : Slots α β}
    {entries : List (Entry α β)} (hfull : Full slots entries)
    (hnodup : (entries.map (·.index)).Nodup) :
    deal sizes (entries.map (·.index)) rank slots =
      cutFrom sizes rank entries := by
  induction entries generalizing rank slots with
  | nil => simp [deal, cutFrom, empty]
  | cons e entries ih =>
      obtain ⟨hnew, hnodup⟩ := List.nodup_cons.mp hnodup
      obtain ⟨htake, hrest⟩ := hfull.take hnew
      rw [List.map_cons, deal, htake]
      dsimp only
      rw [ih (rank + 1) hrest hnodup, put_cutFrom]

end deal

theorem make_eq_ok {ratios : Ratios} (cap : Option Nat) (w : Random.Words)
    {items : List α} {labels : List β} (hvalid : ratios.problem? = none)
    (hlength : items.length = labels.length) :
    make ratios cap w items labels = .ok (drawn ratios cap w items labels) := by
  have hplaces := map_index_draw cap w hlength
  have hnodup := nodup_places cap w items.length
  have hfull : Full (.fill items labels) (draw cap w items labels) :=
    fill_full fun e he => mem_number_of_mem_draw cap w he
  rw [← hplaces] at hnodup
  rw [make, if_pos hlength]
  dsimp only
  rw [length_places, ← hplaces, deal_eq_cutFrom _ 0 hfull hnodup, cutFrom_zero, hvalid]
  rfl

section drawn

variable {ratios : Ratios} {cap : Option Nat} {w : Random.Words}
  {items : List α} {labels : List β} {e : Entry α β}

theorem mem_number_of_mem_train
    (h : e ∈ (drawn ratios cap w items labels).train) :
    e ∈ Entry.number items labels :=
  mem_number_of_mem_draw cap w (List.mem_of_mem_take h)

theorem mem_number_of_mem_validation
    (h : e ∈ (drawn ratios cap w items labels).validation) :
    e ∈ Entry.number items labels :=
  mem_number_of_mem_draw cap w (List.mem_of_mem_drop (List.mem_of_mem_take h))

theorem mem_number_of_mem_test
    (h : e ∈ (drawn ratios cap w items labels).test) :
    e ∈ Entry.number items labels :=
  mem_number_of_mem_draw cap w (List.mem_of_mem_drop h)

variable (hlength : items.length = labels.length)

include hlength

theorem indices_train :
    (drawn ratios cap w items labels).train.indices =
      trainPlaces ratios cap w items.length := by
  rw [Partition.indices, drawn, cut, List.map_take,
    map_index_draw cap w hlength, trainPlaces]

theorem length_train :
    (drawn ratios cap w items labels).train.length =
      (ratios.sizes (capped cap items.length)).train := by
  rw [drawn, cut, List.length_take, length_draw cap w hlength]
  exact Nat.min_eq_left (ratios.train_sizes_le _)

theorem length_validation :
    (drawn ratios cap w items labels).validation.length =
      (ratios.sizes (capped cap items.length)).validation := by
  have htotal := ratios.total_sizes (capped cap items.length)
  rw [Sizes.total] at htotal
  rw [drawn, cut, List.length_take, List.length_drop, length_draw cap w hlength]
  omega

theorem length_test :
    (drawn ratios cap w items labels).test.length =
      (ratios.sizes (capped cap items.length)).test := by
  have htotal := ratios.total_sizes (capped cap items.length)
  rw [Sizes.total] at htotal
  rw [drawn, cut, List.length_drop, length_draw cap w hlength]
  omega

/-- Whatever is drawn ends up in one of the parts. -/
theorem size_drawn :
    (drawn ratios cap w items labels).size = capped cap items.length := by
  have htotal := ratios.total_sizes (capped cap items.length)
  rwa [Sizes.total, ← length_train hlength (w := w),
    ← length_validation hlength (w := w), ← length_test hlength (w := w)]
    at htotal

/-- The first part has the items and labels at its places, and is the same as long
as these are. -/
theorem train_eq_of_agree {items' : List α} {labels' : List β}
    (hlength' : items'.length = labels'.length)
    (hcount : items.length = items'.length)
    (hagree : ∀ i ∈ trainPlaces ratios cap w items.length,
      items[i]? = items'[i]? ∧ labels[i]? = labels'[i]?) :
    (drawn ratios cap w items labels).train =
      (drawn ratios cap w items' labels').train := by
  have hindices : (drawn ratios cap w items labels).train.indices =
      trainPlaces ratios cap w items.length := indices_train hlength
  have hindices' : (drawn ratios cap w items' labels').train.indices =
      trainPlaces ratios cap w items.length := by
    rw [indices_train hlength', hcount]
  apply Entry.eq_of_map_index_eq (hindices.trans hindices'.symm)
  · intro e he
    exact mem_number_of_mem_train he
  · intro e he
    exact mem_number_of_mem_train he
  · intro i hi
    rw [Partition.indices] at hindices
    exact hagree i (hindices ▸ hi)

theorem mem_items_train {item : α} :
    item ∈ (drawn ratios cap w items labels).train.items ↔
      ∃ i ∈ trainPlaces ratios cap w items.length, items[i]? = some item := by
  rw [← indices_train hlength, Partition.items, Partition.indices]
  simp only [List.mem_map]
  constructor
  · rintro ⟨e, he, rfl⟩
    exact ⟨e.index, ⟨e, he, rfl⟩,
      (Entry.mem_number.mp (mem_number_of_mem_train he)).1⟩
  · rintro ⟨_, ⟨e, he, rfl⟩, hitem⟩
    have hown := (Entry.mem_number.mp (mem_number_of_mem_train he)).1
    exact ⟨e, he, Option.some.inj (hown.symm.trans hitem)⟩

end drawn

end Split

end Credence
