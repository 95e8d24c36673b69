/-
  Foundation/Scanner.lean --- leftmost scanners over a growing buffer.

  WHAT THIS FILE IS FOR.  An incremental parser sees its input in pieces.  Its
  whole behaviour is fixed by one question, asked of the symbols in front of it:
  drop the first symbol, emit a token of a known length, or wait for more input.
  A `Scanner` is that question together with the two facts that make the answer
  independent of where the input was cut: a decision to drop or to emit survives
  every extension of the input.

  Nothing in this file mentions a concrete format.
-/
import Mathlib.Data.List.Basic
import Mathlib.Tactic.Ring

set_option autoImplicit false

namespace MeshtasticLab.Foundation

/-- What a scanner decides about the symbols in front of it. -/
inductive Verdict (τ : Type) where
  /-- drop the first symbol, for the reason `tag` -/
  | skip (tag : τ)
  /-- the first `length` symbols are a token -/
  | emit (length : Nat)
  /-- the answer depends on symbols that have not arrived -/
  | wait
  deriving DecidableEq, Repr

/-- A leftmost scanner.  The proof fields say that a token is nonempty and
available, and that only `wait` can change when more symbols arrive. -/
structure Scanner (α τ : Type) where
  classify : List α → Verdict τ
  classify_nil : classify [] = .wait
  emit_pos : ∀ {xs : List α} {n : Nat}, classify xs = .emit n → 0 < n
  emit_le : ∀ {xs : List α} {n : Nat}, classify xs = .emit n → n ≤ xs.length
  skip_append : ∀ {xs : List α} {tag : τ} (more : List α),
    classify xs = .skip tag → classify (xs ++ more) = .skip tag
  emit_append : ∀ {xs : List α} {n : Nat} (more : List α),
    classify xs = .emit n → classify (xs ++ more) = .emit n

/-- One consumed stretch of the input. -/
inductive Piece (α τ : Type) where
  | token (raw : List α)
  | dropped (symbol : α) (tag : τ)
  deriving DecidableEq, Repr

namespace Piece

variable {α τ : Type}

/-- The symbols a piece stands for. -/
def raw : Piece α τ → List α
  | .token raw => raw
  | .dropped symbol _ => [symbol]

/-- The token of a piece, if it is one. -/
def token? : Piece α τ → Option (List α)
  | .token raw => some raw
  | .dropped _ _ => none

/-- The reason a piece was dropped, if it was. -/
def tag? : Piece α τ → Option τ
  | .token _ => none
  | .dropped _ tag => some tag

end Piece

namespace Scanner

variable {α τ : Type} (S : Scanner α τ)

/-! ## The scan -/

/-- Consume the input from the left until the scanner has to wait.  The result
is the list of consumed pieces and the symbols left over. -/
def scan : List α → List (Piece α τ) × List α
  | [] => ([], [])
  | x :: rest =>
      match _h : S.classify (x :: rest) with
      | .wait => ([], x :: rest)
      | .skip tag =>
          let tail := scan rest
          (.dropped x tag :: tail.1, tail.2)
      | .emit n =>
          let tail := scan ((x :: rest).drop n)
          (.token ((x :: rest).take n) :: tail.1, tail.2)
termination_by xs => xs.length
decreasing_by
  · simp
  · have hpos := S.emit_pos _h
    simp only [List.length_drop, List.length_cons]
    omega

variable {S}

theorem scan_wait {xs : List α} (h : S.classify xs = .wait) : S.scan xs = ([], xs) := by
  cases xs with
  | nil => rw [scan]
  | cons x rest =>
      rw [scan]
      split <;> simp_all

theorem scan_skip {x : α} {rest : List α} {tag : τ}
    (h : S.classify (x :: rest) = .skip tag) :
    S.scan (x :: rest) = (.dropped x tag :: (S.scan rest).1, (S.scan rest).2) := by
  rw [scan]
  split <;> simp_all

theorem scan_emit {xs : List α} {n : Nat} (h : S.classify xs = .emit n) :
    S.scan xs = (.token (xs.take n) :: (S.scan (xs.drop n)).1, (S.scan (xs.drop n)).2) := by
  cases xs with
  | nil => simp [S.classify_nil] at h
  | cons x rest =>
      rw [scan]
      split <;> simp_all

/-- The induction rule of a scan: one case for each verdict. -/
theorem scan_induction {P : List α → Prop}
    (wait : ∀ xs, S.classify xs = .wait → P xs)
    (skip : ∀ x rest tag, S.classify (x :: rest) = .skip tag → P rest → P (x :: rest))
    (emit : ∀ xs n, S.classify xs = .emit n → P (xs.drop n) → P xs) (xs : List α) :
    P xs := by
  induction hlen : xs.length using Nat.strong_induction_on generalizing xs with
  | _ len ih =>
      cases hverdict : S.classify xs with
      | wait => exact wait xs hverdict
      | emit n =>
          have hpos := S.emit_pos hverdict
          have hle := S.emit_le hverdict
          exact emit xs n hverdict
            (ih (xs.drop n).length (by rw [List.length_drop]; omega) _ rfl)
      | skip tag =>
          cases xs with
          | nil => simp [S.classify_nil] at hverdict
          | cons x rest =>
              exact skip x rest tag hverdict (ih rest.length (by simp [← hlen]) _ rfl)

/-! ## Independence of the cuts -/

/-- Scanning a concatenation is scanning the first part and then continuing on
whatever it left over. -/
theorem scan_append (xs ys : List α) :
    S.scan (xs ++ ys) =
      ((S.scan xs).1 ++ (S.scan ((S.scan xs).2 ++ ys)).1,
        (S.scan ((S.scan xs).2 ++ ys)).2) := by
  induction xs using scan_induction (S := S) with
  | wait xs h => simp [scan_wait h]
  | skip x rest tag h ih =>
      have happ : S.classify (x :: (rest ++ ys)) = .skip tag := S.skip_append ys h
      rw [List.cons_append, scan_skip happ, scan_skip h, ih]
      simp
  | emit xs n h ih =>
      have happ : S.classify (xs ++ ys) = .emit n := S.emit_append ys h
      have hle := S.emit_le h
      rw [scan_emit happ, scan_emit h, List.drop_append_of_le_length hle,
        List.take_append_of_le_length hle, ih]
      simp

/-! ## What a scan guarantees -/

/-- No symbol is lost: the pieces and the leftover spell the input. -/
theorem scan_spells (xs : List α) :
    (S.scan xs).1.flatMap Piece.raw ++ (S.scan xs).2 = xs := by
  induction xs using scan_induction (S := S) with
  | wait xs h => simp [scan_wait h]
  | skip x rest tag h ih => simp [scan_skip h, Piece.raw, ih]
  | emit xs n h ih => simp [scan_emit h, Piece.raw, ih]

/-- The leftover is a buffer on which the scanner really has to wait. -/
theorem classify_leftover (xs : List α) : S.classify (S.scan xs).2 = .wait := by
  induction xs using scan_induction (S := S) with
  | wait xs h => simpa [scan_wait h] using h
  | skip x rest tag h ih => simpa [scan_skip h] using ih
  | emit xs n h ih => simpa [scan_emit h] using ih

variable (S) in
/-- The scanner's own verdict at the place where `piece` was cut out. -/
def Licenses (piece : Piece α τ) (here : List α) : Prop :=
  match piece with
  | .token raw => S.classify here = .emit raw.length ∧ raw <+: here
  | .dropped symbol tag => S.classify here = .skip tag ∧ [symbol] <+: here

/-- Every piece was cut out where the scanner decided so: `before` are the
pieces to its left, so the scanner was looking at the input behind them. -/
theorem scan_licensed (xs : List α) {before after : List (Piece α τ)} {piece : Piece α τ}
    (hpieces : (S.scan xs).1 = before ++ piece :: after) :
    S.Licenses piece (xs.drop (before.flatMap Piece.raw).length) := by
  induction xs using scan_induction (S := S) generalizing before with
  | wait xs h => simp [scan_wait h] at hpieces
  | skip x rest tag h ih =>
      rw [scan_skip h] at hpieces
      cases before with
      | nil =>
          simp only [List.nil_append, List.cons.injEq] at hpieces
          obtain ⟨rfl, -⟩ := hpieces
          exact ⟨h, by simp⟩
      | cons first before =>
          simp only [List.cons_append, List.cons.injEq] at hpieces
          obtain ⟨rfl, htail⟩ := hpieces
          have hrest := ih htail
          simp only [List.flatMap_cons, List.length_append]
          rw [show (Piece.dropped x tag : Piece α τ).raw.length = 1 from rfl, Nat.add_comm,
            List.drop_succ_cons]
          exact hrest
  | emit xs n h ih =>
      have hle := S.emit_le h
      rw [scan_emit h] at hpieces
      cases before with
      | nil =>
          simp only [List.nil_append, List.cons.injEq] at hpieces
          obtain ⟨rfl, -⟩ := hpieces
          refine ⟨?_, by simpa using List.take_prefix n xs⟩
          simpa [List.length_take, Nat.min_eq_left hle] using h
      | cons first before =>
          simp only [List.cons_append, List.cons.injEq] at hpieces
          obtain ⟨rfl, htail⟩ := hpieces
          have hlen : (xs.take n).length = n := by simp [Nat.min_eq_left hle]
          have hrest := ih htail
          rw [List.drop_drop] at hrest
          simp only [List.flatMap_cons, List.length_append, Piece.raw, hlen]
          exact hrest

end Scanner

end MeshtasticLab.Foundation
