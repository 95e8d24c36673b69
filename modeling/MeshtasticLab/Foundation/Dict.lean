/-
  Foundation/Dict.lean --- insertion-ordered dictionaries and counters.

  WHAT THIS FILE IS FOR

  The programs modelled over this library keep their state in dictionaries that
  iterate in insertion order, and count with a dictionary whose missing keys read
  as zero.  An assignment to a present key keeps the key's place; a new key goes
  to the end.  A `Dict` carries the proof that its keys are distinct, so that a
  look-up and a membership say the same.
-/
import Mathlib.Data.List.Nodup

set_option autoImplicit false

namespace MeshtasticLab.Foundation

/-- A dictionary: its items in insertion order, no key twice. -/
structure Dict (κ ν : Type) where
  items : List (κ × ν)
  distinct : (items.map Prod.fst).Nodup

namespace Dict

variable {κ ν : Type}

/-- The dictionary without items. -/
def empty : Dict κ ν := ⟨[], List.nodup_nil⟩

instance : EmptyCollection (Dict κ ν) := ⟨empty⟩

instance : Inhabited (Dict κ ν) := ⟨empty⟩

variable [DecidableEq κ]

instance [DecidableEq ν] : DecidableEq (Dict κ ν) := fun d e =>
  decidable_of_iff (d.items = e.items) ⟨by cases d; cases e; simp, by rintro rfl; rfl⟩

/-- `d.get(key)`. -/
def get? (d : Dict κ ν) (key : κ) : Option ν :=
  (d.items.find? fun item => item.1 = key).map Prod.snd

/-- `key in d`. -/
def contains (d : Dict κ ν) (key : κ) : Bool := (d.get? key).isSome

/-- The items after `d[key] = value`. -/
def assign (items : List (κ × ν)) (key : κ) (value : ν) : List (κ × ν) :=
  if key ∈ items.map Prod.fst then
    items.map fun item => if item.1 = key then (key, value) else item
  else items ++ [(key, value)]

omit [DecidableEq κ] in
theorem map_fst_replace [DecidableEq κ] (items : List (κ × ν)) (key : κ) (value : ν) :
    (items.map fun item => if item.1 = key then (key, value) else item).map Prod.fst =
      items.map Prod.fst := by
  rw [List.map_map]
  apply List.map_congr_left
  intro item _
  simp only [Function.comp_apply]
  split
  · next hkey => exact hkey.symm
  · rfl

/-- `d[key] = value`. -/
def set (d : Dict κ ν) (key : κ) (value : ν) : Dict κ ν where
  items := assign d.items key value
  distinct := by
    unfold assign
    split
    · rw [map_fst_replace]
      exact d.distinct
    · next hnew =>
        rw [List.map_append, List.nodup_append]
        refine ⟨d.distinct, by simp, ?_⟩
        rintro a ha b hb rfl
        simp only [List.map_cons, List.map_nil, List.mem_singleton] at hb
        exact hnew (hb ▸ ha)

/-- `d.pop(key, None)`, without the value it returns. -/
def erase (d : Dict κ ν) (key : κ) : Dict κ ν where
  items := d.items.filter fun item => item.1 ≠ key
  distinct := d.distinct.sublist (List.filter_sublist.map _)

/-- The dictionary after its first key was popped while it held more than `n`. -/
def keepLast (d : Dict κ ν) (n : Nat) : Dict κ ν where
  items := d.items.drop (d.items.length - n)
  distinct := d.distinct.sublist ((List.drop_sublist _ _).map _)

/-- The items whose keys meet a condition. -/
def filterKeys (d : Dict κ ν) (keep : κ → Bool) : Dict κ ν where
  items := d.items.filter fun item => keep item.1
  distinct := d.distinct.sublist (List.filter_sublist.map _)

/-- The dictionary after each of its values was changed in its place. -/
def mapValues (d : Dict κ ν) (f : κ → ν → ν) : Dict κ ν where
  items := d.items.map fun item => (item.1, f item.1 item.2)
  distinct := by
    rw [List.map_map]
    exact d.distinct

/-- `d.update(items)`. -/
def update (d : Dict κ ν) (items : List (κ × ν)) : Dict κ ν :=
  items.foldl (fun acc item => acc.set item.1 item.2) d

/-- `d.keys()`. -/
def keys (d : Dict κ ν) : List κ := d.items.map Prod.fst

/-! ## Look-up -/

theorem get?_eq_some {d : Dict κ ν} {key : κ} {value : ν} :
    d.get? key = some value ↔ (key, value) ∈ d.items := by
  obtain ⟨items, hdistinct⟩ := d
  simp only [get?]
  induction items with
  | nil => simp
  | cons item rest ih =>
      rw [List.map_cons, List.nodup_cons] at hdistinct
      rw [List.find?_cons]
      by_cases hkey : item.1 = key
      · subst hkey
        simp only [decide_true, Option.map_some, Option.some.injEq, List.mem_cons]
        constructor
        · rintro rfl
          exact Or.inl rfl
        · rintro (hitem | hmember)
          · rw [← hitem]
          · exact absurd (List.mem_map_of_mem (f := Prod.fst) hmember) hdistinct.1
      · simp only [hkey, decide_false, List.mem_cons]
        rw [ih hdistinct.2]
        constructor
        · exact Or.inr
        · rintro (hitem | hmember)
          · exact absurd (congrArg Prod.fst hitem).symm hkey
          · exact hmember

theorem get?_eq_none {d : Dict κ ν} {key : κ} :
    d.get? key = none ↔ ∀ value, (key, value) ∉ d.items := by
  constructor
  · intro hnone value hmember
    rw [get?_eq_some.mpr hmember] at hnone
    cases hnone
  · intro habsent
    cases hget : d.get? key with
    | none => rfl
    | some value => exact absurd (get?_eq_some.mp hget) (habsent value)

/-- A key without a value is not among the keys. -/
theorem not_mem_of_get?_eq_none {d : Dict κ ν} {key : κ} (hnone : d.get? key = none) :
    key ∉ d.items.map Prod.fst := by
  intro hmember
  obtain ⟨⟨_, value⟩, hitem, rfl⟩ := List.mem_map.mp hmember
  exact get?_eq_none.mp hnone value hitem

theorem get?_none_iff {d : Dict κ ν} : (∀ key, d.get? key = none) ↔ d.items = [] := by
  constructor
  · intro hnone
    apply List.eq_nil_iff_forall_not_mem.mpr
    rintro ⟨key, value⟩ hmember
    exact get?_eq_none.mp (hnone key) value hmember
  · intro hempty key
    simp [get?, hempty]

theorem ext_get? {d : Dict κ ν} {key : κ} {result : Option ν}
    (h : ∀ value, (key, value) ∈ d.items ↔ result = some value) : d.get? key = result := by
  apply Option.ext
  intro value
  rw [get?_eq_some, h]

@[simp] theorem get?_empty (key : κ) : (∅ : Dict κ ν).get? key = none := rfl

theorem mem_items_set {d : Dict κ ν} {key : κ} {value : ν} {item : κ × ν} :
    item ∈ (d.set key value).items ↔
      item = (key, value) ∨ (item.1 ≠ key ∧ item ∈ d.items) := by
  simp only [set, assign]
  split
  · next hpresent =>
      rw [List.mem_map]
      constructor
      · rintro ⟨old, hold, hitem⟩
        split at hitem
        · exact Or.inl hitem.symm
        · next hother => exact Or.inr ⟨hitem ▸ hother, hitem ▸ hold⟩
      · rintro (rfl | ⟨hother, hmember⟩)
        · obtain ⟨old, hold, hkey⟩ := List.mem_map.mp hpresent
          exact ⟨old, hold, by rw [if_pos hkey]⟩
        · exact ⟨item, hmember, by rw [if_neg hother]⟩
  · next hnew =>
      rw [List.mem_append, List.mem_singleton, or_comm]
      constructor
      · rintro (rfl | hmember)
        · exact Or.inl rfl
        · refine Or.inr ⟨?_, hmember⟩
          rintro rfl
          exact hnew (List.mem_map_of_mem hmember)
      · rintro (rfl | ⟨_, hmember⟩)
        · exact Or.inl rfl
        · exact Or.inr hmember

theorem get?_set (d : Dict κ ν) (key other : κ) (value : ν) :
    (d.set key value).get? other = if other = key then some value else d.get? other := by
  apply ext_get?
  intro result
  rw [mem_items_set]
  split
  · next heq => simp [heq, eq_comm]
  · next hne => simp [hne, get?_eq_some]

@[simp] theorem get?_set_self (d : Dict κ ν) (key : κ) (value : ν) :
    (d.set key value).get? key = some value := by
  rw [get?_set, if_pos rfl]

theorem get?_set_of_ne (d : Dict κ ν) {key other : κ} (hne : other ≠ key) (value : ν) :
    (d.set key value).get? other = d.get? other := by
  rw [get?_set, if_neg hne]

theorem get?_erase (d : Dict κ ν) (key other : κ) :
    (d.erase key).get? other = if other = key then none else d.get? other := by
  apply ext_get?
  intro result
  simp only [erase, List.mem_filter, decide_eq_true_eq]
  split
  · next heq => simp [heq]
  · next hne => simp [hne, get?_eq_some]

theorem get?_filterKeys (d : Dict κ ν) (keep : κ → Bool) (key : κ) :
    (d.filterKeys keep).get? key = if keep key then d.get? key else none := by
  apply ext_get?
  intro result
  simp only [filterKeys, List.mem_filter]
  split
  · next hkeep => simp [hkeep, get?_eq_some]
  · next hdrop => simp [hdrop]

theorem get?_mapValues (d : Dict κ ν) (f : κ → ν → ν) (key : κ) :
    (d.mapValues f).get? key = (d.get? key).map (f key) := by
  apply ext_get?
  intro result
  simp only [mapValues, List.mem_map, Option.map_eq_some_iff, get?_eq_some]
  constructor
  · rintro ⟨⟨found, value⟩, hmember, heq⟩
    cases heq
    exact ⟨value, hmember, rfl⟩
  · rintro ⟨value, hmember, rfl⟩
    exact ⟨(key, value), hmember, rfl⟩

omit [DecidableEq κ] in
@[simp] theorem keys_mapValues (d : Dict κ ν) (f : κ → ν → ν) :
    (d.mapValues f).keys = d.keys := by
  simp [keys, mapValues]

/-- Removing the first item leaves the others. -/
theorem erase_head {key : κ} {value : ν} {rest : List (κ × ν)}
    (hdistinct : (((key, value) :: rest).map Prod.fst).Nodup) :
    (⟨(key, value) :: rest, hdistinct⟩ : Dict κ ν).erase key =
      ⟨rest, (List.nodup_cons.mp hdistinct).2⟩ := by
  have hhead := (List.nodup_cons.mp hdistinct).1
  simp only [erase, mk.injEq]
  rw [List.filter_cons_of_neg (by simp), List.filter_eq_self]
  intro item hmember
  simp only [ne_eq, decide_eq_true_eq]
  rintro rfl
  exact hhead (List.mem_map.mpr ⟨item, hmember, rfl⟩)

/-- A new key goes to the end. -/
theorem items_set_of_new {d : Dict κ ν} {key : κ} (hnew : key ∉ d.items.map Prod.fst)
    (value : ν) : (d.set key value).items = d.items ++ [(key, value)] := by
  simp only [set, assign]
  rw [if_neg hnew]

/-- Items whose keys are new go to the end in their order. -/
theorem items_update {d : Dict κ ν} {items : List (κ × ν)}
    (hdistinct : ((d.items ++ items).map Prod.fst).Nodup) :
    (d.update items).items = d.items ++ items := by
  induction items generalizing d with
  | nil => exact (List.append_nil _).symm
  | cons item rest ih =>
      have hnew : item.1 ∉ d.items.map Prod.fst := by
        rw [List.map_append, List.nodup_append] at hdistinct
        intro hmember
        exact hdistinct.2.2 item.1 hmember item.1 List.mem_cons_self rfl
      have hset : (d.set item.1 item.2).items = d.items ++ [item] := items_set_of_new hnew item.2
      have hrest := ih (d := d.set item.1 item.2) (by
        rw [hset, List.append_assoc]
        exact hdistinct)
      rw [hset, List.append_assoc] at hrest
      exact hrest

/-- Items with distinct keys make a dictionary of themselves. -/
theorem items_update_empty {items : List (κ × ν)} (hdistinct : (items.map Prod.fst).Nodup) :
    ((∅ : Dict κ ν).update items).items = items := items_update hdistinct

/-- What is left after the oldest keys were popped was there. -/
theorem get?_of_keepLast {d : Dict κ ν} {n : Nat} {key : κ} {value : ν}
    (h : (d.keepLast n).get? key = some value) : d.get? key = some value :=
  get?_eq_some.mpr (List.mem_of_mem_drop (get?_eq_some.mp h))

theorem contains_set (d : Dict κ ν) (key other : κ) (value : ν) :
    (d.set key value).contains other = true ↔ other = key ∨ d.contains other = true := by
  unfold contains
  rw [get?_set]
  by_cases hsame : other = key <;> simp [hsame]

theorem mem_keys {d : Dict κ ν} {key : κ} : key ∈ d.keys ↔ d.contains key = true := by
  unfold keys contains
  rw [Option.isSome_iff_exists, List.mem_map]
  constructor
  · rintro ⟨⟨_, value⟩, hmember, rfl⟩
    exact ⟨value, get?_eq_some.mpr hmember⟩
  · rintro ⟨value, hget⟩
    exact ⟨(key, value), get?_eq_some.mp hget, rfl⟩

/-- The keys of an update are the old ones and those of the items. -/
theorem contains_update (d : Dict κ ν) (items : List (κ × ν)) (key : κ) :
    (d.update items).contains key = true ↔
      d.contains key = true ∨ key ∈ items.map Prod.fst := by
  induction items generalizing d with
  | nil => simp [update]
  | cons item rest ih =>
      have hrest := ih (d.set item.1 item.2)
      rw [contains_set] at hrest
      rw [List.map_cons, List.mem_cons]
      exact hrest.trans (by tauto)

/-- What an update holds was there before or is one of the items. -/
theorem get?_update {d : Dict κ ν} {items : List (κ × ν)} {key : κ} {value : ν}
    (h : (d.update items).get? key = some value) :
    d.get? key = some value ∨ (key, value) ∈ items := by
  induction items generalizing d with
  | nil => exact Or.inl h
  | cons item rest ih =>
      rcases ih h with hset | hmember
      · rw [get?_set] at hset
        split at hset
        · next hsame =>
            cases hset
            rw [hsame]
            exact Or.inr List.mem_cons_self
        · exact Or.inl hset
      · exact Or.inr (List.mem_cons_of_mem _ hmember)

/-- Updating the empty dictionary with the items of another copies it. -/
theorem update_items (d : Dict κ ν) : (∅ : Dict κ ν).update d.items = d := by
  have hitems : ((∅ : Dict κ ν).update d.items).items = d.items := by
    rw [items_update]
    · rfl
    · exact d.distinct
  cases d
  cases hcopy : (∅ : Dict κ ν).update _
  rw [hcopy] at hitems
  cases hitems
  rfl

/-! ## Counters -/

/-- `counter[key] += amount`. -/
def bump (d : Dict κ Nat) (key : κ) (amount : Nat) : Dict κ Nat :=
  d.set key ((d.get? key).getD 0 + amount)

/-- The counter to which every pair of a list has been added. -/
def tally (pairs : List (κ × Nat)) : Dict κ Nat :=
  pairs.foldl (fun acc pair => acc.bump pair.1 pair.2) ∅

/-- `Counter(keys)`. -/
def countOf (keys : List κ) : Dict κ Nat := tally (keys.map fun key => (key, 1))

@[simp] theorem tally_nil : tally ([] : List (κ × Nat)) = ∅ := rfl

theorem tally_concat (pairs : List (κ × Nat)) (key : κ) (amount : Nat) :
    tally (pairs ++ [(key, amount)]) = (tally pairs).bump key amount := by
  rw [tally, List.foldl_append]
  rfl

@[simp] theorem countOf_nil : countOf ([] : List κ) = ∅ := rfl

theorem countOf_concat (keys : List κ) (key : κ) :
    countOf (keys ++ [key]) = (countOf keys).bump key 1 := by
  rw [countOf, List.map_append, List.map_cons, List.map_nil, tally_concat]
  rfl

end Dict

end MeshtasticLab.Foundation
