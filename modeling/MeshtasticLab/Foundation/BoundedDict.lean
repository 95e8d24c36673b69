/-
  Foundation/BoundedDict.lean --- dictionaries that forget their oldest keys.

  WHAT THIS FILE IS FOR

  A dictionary that holds at most `n` items pops its first key when a new one comes.
  Beside it goes the log of the keys that were put into it.  `Remembers` says that a
  key stays until `n` others have been put in since it first was, and that each of
  them is then one of the items behind it.
-/
import MeshtasticLab.Foundation.Dict
import Mathlib.Data.List.Dedup
import Mathlib.Data.List.Perm.Subperm
import Mathlib.Data.List.TakeWhile
import Mathlib.Order.Basic

set_option autoImplicit false

namespace MeshtasticLab.Foundation

variable {κ ν : Type} [DecidableEq κ]

/-- The other keys of a log from the first entry of this one on, each once. -/
def othersSince (log : List κ) (key : κ) : List κ :=
  ((log.dropWhile fun entry => entry ≠ key).filter fun entry => entry ≠ key).dedup

theorem nodup_othersSince (log : List κ) (key : κ) : (othersSince log key).Nodup :=
  List.nodup_dedup _

theorem dropWhile_ne_nil {log : List κ} {key : κ} (hmember : key ∈ log) :
    (log.dropWhile fun entry => entry ≠ key) ≠ [] := by
  intro hnil
  rw [List.dropWhile_eq_nil_iff] at hnil
  exact absurd (hnil key hmember) (by simp)

/-- An entry is one more key that was put in since, unless it is the key itself. -/
theorem mem_othersSince_concat {log : List κ} {key : κ} (hmember : key ∈ log) (entry other : κ) :
    other ∈ othersSince (log ++ [entry]) key ↔
      other ∈ othersSince log key ∨ other = entry ∧ other ≠ key := by
  unfold othersSince
  rw [List.dropWhile_append, if_neg (by simpa using dropWhile_ne_nil hmember), List.mem_dedup,
    List.mem_dedup, List.filter_append, List.mem_append]
  refine or_congr_right ?_
  rw [List.mem_filter, List.mem_singleton, decide_eq_true_iff]

theorem length_othersSince_le {log : List κ} {key : κ} (hmember : key ∈ log) (entry : κ) :
    (othersSince log key).length ≤ (othersSince (log ++ [entry]) key).length :=
  ((nodup_othersSince log key).subperm fun other hother =>
    (mem_othersSince_concat hmember entry other).mpr (Or.inl hother)).length_le

namespace Dict

variable {d : Dict κ ν} {log : List κ} {key entry : κ} {value : ν} {n : Nat}

/-- The dictionary has the key, and behind it only keys that were put in since. -/
def Placed (d : Dict κ ν) (log : List κ) (key : κ) : Prop :=
  ∃ before value after, d.items = before ++ (key, value) :: after ∧
    ∀ item ∈ after, item.1 ∈ othersSince log key

theorem Placed.contains (h : d.Placed log key) : d.contains key = true := by
  obtain ⟨before, value, after, hitems, _⟩ := h
  have hget : d.get? key = some value := get?_eq_some.mpr (by rw [hitems]; simp)
  rw [Dict.contains, hget]
  rfl

theorem items_set_of_contains (hcontains : d.contains entry = true) (value : ν) :
    (d.set entry value).items =
      d.items.map fun item => if item.1 = entry then (entry, value) else item := by
  simp only [set, assign]
  exact if_pos (mem_keys.mpr hcontains)

/-- Another key is put in, or the same one again. -/
theorem Placed.set (h : d.Placed log key) (hmember : key ∈ log) (entry : κ) (value : ν) :
    (d.set entry value).Placed (log ++ [entry]) key := by
  have hkey := h.contains
  obtain ⟨before, old, after, hitems, hafter⟩ := h
  cases hcontains : d.contains entry with
  | true =>
      have hset := items_set_of_contains hcontains value
      rw [hitems, List.map_append, List.map_cons] at hset
      obtain ⟨current, hcurrent⟩ : ∃ current : ν,
          (if key = entry then (entry, value) else (key, old)) = (key, current) := by
        split
        · next hsame => exact ⟨value, by rw [hsame]⟩
        · exact ⟨old, rfl⟩
      dsimp only at hset
      rw [hcurrent] at hset
      refine ⟨_, current, _, hset, fun item hitem => ?_⟩
      obtain ⟨source, hsource, rfl⟩ := List.mem_map.mp hitem
      refine (mem_othersSince_concat hmember entry _).mpr (Or.inl ?_)
      split
      · next hsame => exact hsame ▸ hafter source hsource
      · exact hafter source hsource
  | false =>
      have hnew : entry ∉ d.items.map Prod.fst := by
        intro hkeys
        rw [mem_keys.mp hkeys] at hcontains
        cases hcontains
      have hset := items_set_of_new hnew value
      rw [hitems, List.append_assoc, List.cons_append] at hset
      refine ⟨before, old, _, hset, fun item hitem => ?_⟩
      refine (mem_othersSince_concat hmember entry _).mpr ?_
      rcases List.mem_append.mp hitem with hold | hlast
      · exact Or.inl (hafter item hold)
      · refine Or.inr ⟨by rw [List.mem_singleton.mp hlast], ?_⟩
        rw [List.mem_singleton.mp hlast]
        rintro rfl
        rw [hkey] at hcontains
        cases hcontains

/-- A key that is put in for the first time goes to the end. -/
theorem placed_set_of_new (hnew : d.contains entry = false) (log : List κ) (value : ν) :
    (d.set entry value).Placed log entry := by
  have hkeys : entry ∉ d.items.map Prod.fst := by
    intro hmember
    rw [mem_keys.mp hmember] at hnew
    cases hnew
  exact ⟨d.items, value, [], items_set_of_new hkeys value, fun item hitem => by cases hitem⟩

/-- A key stays while fewer than `n` others were put in since. -/
theorem Placed.keepLast (h : d.Placed log key) (hfew : (othersSince log key).length < n) :
    (d.keepLast n).Placed log key := by
  obtain ⟨before, value, after, hitems, hafter⟩ := h
  have hdistinct : (after.map Prod.fst).Nodup := by
    have hkeys := d.distinct
    rw [hitems, List.map_append, List.map_cons] at hkeys
    exact (List.nodup_cons.mp (List.nodup_append.mp hkeys).2.1).2
  have hlength : after.length ≤ (othersSince log key).length := by
    rw [← List.length_map Prod.fst]
    refine (hdistinct.subperm fun other hother => ?_).length_le
    obtain ⟨item, hitem, rfl⟩ := List.mem_map.mp hother
    exact hafter item hitem
  have hdrop : d.items.length - n ≤ before.length := by
    rw [hitems, List.length_append, List.length_cons]
    omega
  refine ⟨before.drop (d.items.length - n), value, after, ?_, hafter⟩
  change d.items.drop (d.items.length - n) = _
  generalize d.items.length - n = count at hdrop
  rw [hitems, List.drop_append_of_le_length hdrop]

/-- What a dictionary of at most `n` items has of the keys that were put into it. -/
structure Remembers (d : Dict κ ν) (log : List κ) (n : Nat) : Prop where
  bounded : d.items.length ≤ n
  logged : ∀ key, d.contains key = true → key ∈ log
  kept : ∀ key ∈ log, (othersSince log key).length < n → d.Placed log key

theorem remembers_empty (n : Nat) : (∅ : Dict κ ν).Remembers [] n where
  bounded := Nat.zero_le n
  logged key hcontains := by cases hcontains
  kept key hmember := by cases hmember

/-- An item is put in and the oldest ones go. -/
theorem Remembers.put (h : d.Remembers log n) (entry : κ) (value : ν) :
    ((d.set entry value).keepLast n).Remembers (log ++ [entry]) n where
  bounded := by
    change ((d.set entry value).items.drop _).length ≤ n
    rw [List.length_drop]
    omega
  logged key hcontains := by
    obtain ⟨found, hget⟩ := Option.isSome_iff_exists.mp hcontains
    have hset : (d.set entry value).contains key = true := by
      rw [Dict.contains, get?_of_keepLast hget]
      rfl
    rcases (contains_set d entry key value).mp hset with rfl | hold
    · simp
    · exact List.mem_append_left _ (h.logged key hold)
  kept key hmember hfew := by
    refine Placed.keepLast ?_ hfew
    by_cases hold : key ∈ log
    · have hkept := h.kept key hold ((length_othersSince_le hold entry).trans_lt hfew)
      exact hkept.set hold entry value
    · obtain rfl : key = entry :=
        List.mem_singleton.mp ((List.mem_append.mp hmember).resolve_left hold)
      refine placed_set_of_new ?_ _ value
      by_contra hcontains
      exact hold (h.logged key (by simpa using hcontains))

end Dict

end MeshtasticLab.Foundation
