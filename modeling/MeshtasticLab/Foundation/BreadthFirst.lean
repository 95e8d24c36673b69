/-
  Foundation/BreadthFirst.lean --- walks of a directed graph and the queue that finds them.

  WHAT THIS FILE IS FOR

  A breadth-first search keeps a queue of vertices with the length at which each
  was put there, and the vertices it has visited.  `Searching` is what holds of the
  two while it runs: the lengths in the queue are sorted and differ by at most one,
  and every vertex within the bound is visited or can still be reached through the
  queue, at no more than its own distance.  A search may queue a vertex many times
  and in any order among equals; it only has to skip what it has visited.
-/
import Mathlib.Data.List.Pairwise
import Mathlib.Data.Nat.Basic
import Mathlib.Order.Basic

set_option autoImplicit false

namespace MeshtasticLab.Foundation

variable {α : Type}

/-- A walk of some length along the edges of a graph. -/
inductive Walk (edge : α → α → Prop) : α → α → Nat → Prop where
  | refl (v : α) : Walk edge v v 0
  | cons {u v w : α} {n : Nat} : edge u v → Walk edge v w n → Walk edge u w (n + 1)

/-- Whether a length is within an optional bound. -/
def Within (bound : Option Nat) (n : Nat) : Prop := ∀ limit, bound = some limit → n ≤ limit

variable {edge : α → α → Prop} {bound : Option Nat}

theorem Within.mono {m n : Nat} (h : Within bound n) (hle : m ≤ n) : Within bound m :=
  fun limit hlimit => le_trans hle (h limit hlimit)

namespace Walk

theorem trans {u v w : α} {m n : Nat} (hfirst : Walk edge u v m) (hsecond : Walk edge v w n) :
    Walk edge u w (m + n) := by
  induction hfirst with
  | refl => rwa [Nat.zero_add]
  | cons hedge _ ih =>
      rw [Nat.add_right_comm]
      exact .cons hedge (ih hsecond)

theorem snoc {u v w : α} {n : Nat} (hwalk : Walk edge u v n) (hedge : edge v w) :
    Walk edge u w (n + 1) := hwalk.trans (.cons hedge (.refl w))

/-- A walk with edges starts with one of them. -/
theorem first {u w : α} {n : Nat} (hwalk : Walk edge u w (n + 1)) :
    ∃ v, edge u v ∧ Walk edge v w n := by
  cases hwalk with
  | cons hedge hrest => exact ⟨_, hedge, hrest⟩

/-- A walk that leaves its start ends with an edge. -/
theorem last {u w : α} {n : Nat} (hwalk : Walk edge u w n) : u = w ∨ ∃ v, edge v w := by
  induction hwalk with
  | refl => exact Or.inl rfl
  | cons hedge _ ih =>
      rcases ih with rfl | hlast
      · exact Or.inr ⟨_, hedge⟩
      · exact Or.inr hlast

end Walk

/-- What a breadth-first search from a source keeps of its queue and its visited
vertices. -/
structure Searching (edge : α → α → Prop) (bound : Option Nat) (source : α)
    (pending : List (α × Nat)) (visited : List α) : Prop where
  sorted : pending.Pairwise (fun earlier later => earlier.2 ≤ later.2)
  spread : ∀ entry ∈ pending, ∀ other ∈ pending, other.2 ≤ entry.2 + 1
  walked : ∀ entry ∈ pending, Walk edge source entry.1 entry.2 ∧ Within bound entry.2
  near : ∀ v ∈ visited, ∀ entry ∈ pending, ∃ n ≤ entry.2, Walk edge source v n
  found : ∀ v ∈ visited, ∃ n, Walk edge source v n ∧ Within bound n
  covered : ∀ v n, Walk edge source v n → Within bound n →
    v ∈ visited ∨ ∃ entry ∈ pending, entry.1 ∉ visited ∧
      ∃ m, Walk edge entry.1 v m ∧ entry.2 + m ≤ n

namespace Searching

variable {source : α} {pending : List (α × Nat)} {visited : List α}

/-- A search begins with the source visited and its successors in the queue. -/
theorem start {entries : List (α × Nat)} (hbound : Within bound 1)
    (hone : ∀ entry ∈ entries, entry.2 = 1)
    (hedges : ∀ v, (v, 1) ∈ entries ↔ edge source v) :
    Searching edge bound source entries [source] := by
  have hentry : ∀ entry ∈ entries, edge source entry.1 := by
    intro entry hmember
    have h := hone entry hmember
    exact (hedges entry.1).mp (by rwa [← h])
  refine ⟨?_, ?_, ?_, ?_, ?_, ?_⟩
  · refine List.pairwise_iff_forall_sublist.mpr fun {a b} hsublist => ?_
    rw [hone a (hsublist.subset (by simp)), hone b (hsublist.subset (by simp))]
  · intro entry hentry other hother
    rw [hone entry hentry, hone other hother]
    omega
  · intro entry hmember
    rw [hone entry hmember]
    exact ⟨.cons (hentry entry hmember) (.refl _), hbound⟩
  · intro v hv entry _
    rw [List.mem_singleton.mp hv]
    exact ⟨0, Nat.zero_le _, .refl _⟩
  · intro v hv
    rw [List.mem_singleton.mp hv]
    exact ⟨0, .refl _, hbound.mono (Nat.zero_le 1)⟩
  · -- a vertex whose walk only returns to the source has a shorter one
    intro v n
    induction n using Nat.strong_induction_on with
    | _ n ih =>
        intro hwalk hwithin
        cases n with
        | zero =>
            cases hwalk
            exact Or.inl (by simp)
        | succ n =>
            obtain ⟨w, hedge, hrest⟩ := hwalk.first
            by_cases hself : w = source
            · subst hself
              rcases ih n (Nat.lt_succ_self n) hrest (hwithin.mono (Nat.le_succ n)) with
                hvisited | ⟨entry, hmember, hnew, m, hwalk, hle⟩
              · exact Or.inl hvisited
              · exact Or.inr ⟨entry, hmember, hnew, m, hwalk, by omega⟩
            · exact Or.inr ⟨(w, 1), (hedges w).mpr hedge, by simpa using hself, n, hrest,
                by simp only; omega⟩

/-- A vertex that was visited before is skipped. -/
theorem skip {target : α} {hops : Nat}
    (h : Searching edge bound source ((target, hops) :: pending) visited)
    (hvisited : target ∈ visited) : Searching edge bound source pending visited where
  sorted := h.sorted.of_cons
  spread entry hentry other hother :=
    h.spread entry (.tail _ hentry) other (.tail _ hother)
  walked entry hentry := h.walked entry (.tail _ hentry)
  near v hv entry hentry := h.near v hv entry (.tail _ hentry)
  found := h.found
  covered v n hwalk hwithin := by
    rcases h.covered v n hwalk hwithin with hv | ⟨entry, hmember, hnew, hrest⟩
    · exact Or.inl hv
    · cases hmember with
      | head => exact absurd hvisited hnew
      | tail _ hmember => exact Or.inr ⟨entry, hmember, hnew, hrest⟩

/-- What is covered when a new vertex is visited: a vertex behind it is covered through
one of its successors, or at a smaller distance through a vertex visited before. -/
theorem covered_visit {target : α} {hops : Nat} {entries : List (α × Nat)}
    (h : Searching edge bound source ((target, hops) :: pending) visited)
    (hentries : ∀ v, Within bound (hops + 1) → edge target v → v ∉ target :: visited →
      (v, hops + 1) ∈ entries) :
    ∀ n v, Walk edge source v n → Within bound n →
      v ∈ target :: visited ∨
        ∃ entry ∈ pending ++ entries, entry.1 ∉ target :: visited ∧
          ∃ m, Walk edge entry.1 v m ∧ entry.2 + m ≤ n := by
  intro n
  induction n using Nat.strong_induction_on with
  | _ n ih =>
      -- the visited vertices are within the hops of the head of the queue
      have hnear : ∀ w ∈ target :: visited, ∃ d ≤ hops, Walk edge source w d := by
        intro w hw
        rcases List.mem_cons.mp hw with rfl | hw
        · exact ⟨hops, le_rfl, (h.walked (w, hops) (.head _)).1⟩
        · exact h.near w hw (target, hops) (.head _)
      have hthrough : ∀ v m, Walk edge target v m → hops + m ≤ n → Within bound n →
          v ∈ target :: visited ∨
            ∃ entry ∈ pending ++ entries, entry.1 ∉ target :: visited ∧
              ∃ m, Walk edge entry.1 v m ∧ entry.2 + m ≤ n := by
        intro v m hwalk hle hwithin
        cases m with
        | zero =>
            cases hwalk
            exact Or.inl (by simp)
        | succ m =>
            obtain ⟨w, hedge, hrest⟩ := hwalk.first
            by_cases hw : w ∈ target :: visited
            · obtain ⟨d, hd, hsource⟩ := hnear w hw
              rcases ih (d + m) (by omega) v (hsource.trans hrest)
                (hwithin.mono (by omega)) with hv | ⟨entry, hmember, hnew, k, hk, hsum⟩
              · exact Or.inl hv
              · exact Or.inr ⟨entry, hmember, hnew, k, hk, by omega⟩
            · exact Or.inr ⟨(w, hops + 1), List.mem_append.mpr (Or.inr
                (hentries w (hwithin.mono (by omega)) hedge hw)), hw, m, hrest,
                by simp only; omega⟩
      intro v hwalk hwithin
      rcases h.covered v n hwalk hwithin with hv | ⟨entry, hmember, hnew, m, hrest, hle⟩
      · exact Or.inl (List.mem_cons_of_mem _ hv)
      · by_cases htarget : entry.1 = target
        · -- the queue is sorted, so a later entry of the vertex has no fewer hops
          have hhops : hops ≤ entry.2 := by
            cases hmember with
            | head => exact le_rfl
            | tail _ hmember => exact List.rel_of_pairwise_cons h.sorted hmember
          exact hthrough v m (htarget ▸ hrest) (by omega) hwithin
        · cases hmember with
          | head => exact absurd rfl htarget
          | tail _ hmember =>
              refine Or.inr ⟨entry, List.mem_append.mpr (Or.inl hmember), ?_, m, hrest, hle⟩
              exact List.not_mem_cons_of_ne_of_not_mem htarget hnew

/-- A new vertex is visited: its successors that are not yet visited join the queue,
unless the bound is reached. -/
theorem visit {target : α} {hops : Nat} {entries : List (α × Nat)}
    (h : Searching edge bound source ((target, hops) :: pending) visited)
    (hhops : ∀ entry ∈ entries, entry.2 = hops + 1 ∧ Within bound (hops + 1) ∧
      edge target entry.1)
    (hentries : ∀ v, Within bound (hops + 1) → edge target v → v ∉ target :: visited →
      (v, hops + 1) ∈ entries) :
    Searching edge bound source (pending ++ entries) (target :: visited) := by
  have htarget := h.walked (target, hops) (.head _)
  have hlater : ∀ entry ∈ pending, hops ≤ entry.2 ∧ entry.2 ≤ hops + 1 := fun entry hentry =>
    ⟨List.rel_of_pairwise_cons h.sorted hentry,
      h.spread (target, hops) (.head _) entry (.tail _ hentry)⟩
  have hrange : ∀ entry ∈ pending ++ entries, hops ≤ entry.2 ∧ entry.2 ≤ hops + 1 := by
    intro entry hentry
    rcases List.mem_append.mp hentry with hentry | hentry
    · exact hlater entry hentry
    · have := (hhops entry hentry).1
      omega
  refine ⟨?_, ?_, ?_, ?_, ?_, fun v n => h.covered_visit hentries n v⟩
  · refine List.pairwise_append.mpr ⟨h.sorted.of_cons, ?_, ?_⟩
    · refine List.pairwise_iff_forall_sublist.mpr fun {a b} hsublist => ?_
      rw [(hhops a (hsublist.subset (by simp))).1, (hhops b (hsublist.subset (by simp))).1]
    · intro entry hentry other hother
      rw [(hhops other hother).1]
      exact (hlater entry hentry).2
  · intro entry hentry other hother
    have := (hrange entry hentry).1
    have := (hrange other hother).2
    omega
  · intro entry hentry
    rcases List.mem_append.mp hentry with hentry | hentry
    · exact h.walked entry (.tail _ hentry)
    · obtain ⟨hlength, hwithin, hedge⟩ := hhops entry hentry
      rw [hlength]
      exact ⟨htarget.1.snoc hedge, hwithin⟩
  · intro v hv entry hentry
    rcases List.mem_cons.mp hv with rfl | hv
    · exact ⟨hops, (hrange entry hentry).1, htarget.1⟩
    · obtain ⟨n, hn, hwalk⟩ := h.near v hv (target, hops) (.head _)
      exact ⟨n, le_trans hn (hrange entry hentry).1, hwalk⟩
  · intro v hv
    rcases List.mem_cons.mp hv with rfl | hv
    · exact ⟨hops, htarget⟩
    · exact h.found v hv

/-- A search whose queue is empty has visited exactly what a walk within the bound
reaches. -/
theorem complete (h : Searching edge bound source [] visited) (v : α) :
    v ∈ visited ↔ ∃ n, Walk edge source v n ∧ Within bound n := by
  constructor
  · exact h.found v
  · rintro ⟨n, hwalk, hwithin⟩
    rcases h.covered v n hwalk hwithin with hv | ⟨entry, hmember, _⟩
    · exact hv
    · exact absurd hmember List.not_mem_nil

end Searching

end MeshtasticLab.Foundation
