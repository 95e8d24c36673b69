/-
  Foundation/Utf8.lean --- the end of a text that fits in a number of bytes.

  WHAT THIS FILE IS FOR

  A program that cuts an encoded text to its last `n` bytes may cut inside a
  character.  Decoding that ignores errors drops the bytes left over from this
  character, since none of them can start one, and finds the characters after it
  whole: the longest end of the text whose encoding has at most `n` bytes.
-/
import Mathlib.Data.List.DropRight

set_option autoImplicit false

namespace MeshtasticLab.Foundation

/-- The UTF-8 encoding of a text. -/
def encodeUtf8 (chars : List Char) : List UInt8 := chars.flatMap String.utf8EncodeChar

/-- The character that the bytes start with. -/
def leadingChar? (bytes : List UInt8) : Option Char := bytes.toByteArray.utf8DecodeChar? 0

/-- Decoding that ignores errors, with the number of bytes that still belong to the last
character.  A byte that starts no character is dropped. -/
def decodeUtf8From : ℕ → List UInt8 → List Char
  | _, [] => []
  | skip + 1, _ :: rest => decodeUtf8From skip rest
  | 0, byte :: rest =>
      match leadingChar? (byte :: rest) with
      | some char => char :: decodeUtf8From (char.utf8Size - 1) rest
      | none => decodeUtf8From 0 rest

/-- Decoding that ignores errors. -/
def decodeUtf8Ignore (bytes : List UInt8) : List Char := decodeUtf8From 0 bytes

/-- The longest end of a text whose encoding has at most `n` bytes. -/
def fittingEnd (n : ℕ) : List Char → List Char
  | [] => []
  | char :: rest =>
      if (encodeUtf8 (char :: rest)).length ≤ n then char :: rest else fittingEnd n rest

/-! ## Encoding -/

theorem encodeUtf8_cons (char : Char) (rest : List Char) :
    encodeUtf8 (char :: rest) = String.utf8EncodeChar char ++ encodeUtf8 rest :=
  List.flatMap_cons

/-- A byte that starts no character of a text. -/
def Trails (byte : UInt8) : Prop := ¬byte.IsUTF8FirstByte

/-- After its first byte a character has only bytes that start none. -/
theorem trails_drop_utf8EncodeChar (char : Char) {count : ℕ} (hcount : 0 < count) :
    ∀ byte ∈ (String.utf8EncodeChar char).drop count, Trails byte := by
  intro byte hmember
  obtain ⟨i, hi, rfl⟩ := List.getElem_of_mem hmember
  rw [List.getElem_drop]
  intro hfirst
  have hzero := UInt8.isUTF8FirstByte_getElem_utf8EncodeChar.mp hfirst
  omega

/-! ## Decoding -/

theorem leadingChar?_utf8EncodeChar (char : Char) (rest : List UInt8) :
    leadingChar? (String.utf8EncodeChar char ++ rest) = some char := by
  unfold leadingChar?
  rw [List.toByteArray_append]
  exact ByteArray.utf8DecodeChar?_utf8EncodeChar_append

/-- No character starts with a byte that starts none. -/
theorem leadingChar?_of_trails {byte : UInt8} (htrails : Trails byte) (rest : List UInt8) :
    leadingChar? (byte :: rest) = none := by
  cases hleading : leadingChar? (byte :: rest) with
  | none => rfl
  | some char =>
      obtain ⟨later, hbytes⟩ := ByteArray.exists_of_utf8DecodeChar?_eq_some hleading
      have hlater : later = later.data.toList.toByteArray := by
        apply ByteArray.ext
        rw [List.data_toByteArray, Array.toArray_toList]
      rw [hlater, ← List.toByteArray_append, List.toByteArray_inj] at hbytes
      have hpositive : 0 < (String.utf8EncodeChar char).length := by
        rw [String.length_utf8EncodeChar]
        exact char.utf8Size_pos
      have hbyte : byte = (String.utf8EncodeChar char)[0] := by
        have hhead := congrArg (·[0]?) hbytes
        simpa only [List.getElem?_cons_zero, List.getElem?_append_left hpositive,
          List.getElem?_eq_getElem hpositive, Option.some.injEq] using hhead
      rw [hbyte] at htrails
      exact absurd (UInt8.isUTF8FirstByte_getElem_utf8EncodeChar.mpr rfl) htrails

/-- Skipping the bytes of a character leaves those after it. -/
theorem decodeUtf8From_append (bytes rest : List UInt8) :
    decodeUtf8From bytes.length (bytes ++ rest) = decodeUtf8From 0 rest := by
  induction bytes with
  | nil => rfl
  | cons byte bytes ih =>
      rw [List.length_cons, List.cons_append]
      exact ih

theorem decodeUtf8Ignore_cons (char : Char) (rest : List UInt8) :
    decodeUtf8Ignore (String.utf8EncodeChar char ++ rest) = char :: decodeUtf8Ignore rest := by
  have hlength := String.length_utf8EncodeChar char
  have hleading := leadingChar?_utf8EncodeChar char rest
  unfold decodeUtf8Ignore
  cases hbytes : String.utf8EncodeChar char with
  | nil =>
      rw [hbytes] at hlength
      exact absurd hlength.symm (Nat.ne_of_gt char.utf8Size_pos)
  | cons byte bytes =>
      rw [hbytes] at hlength hleading
      rw [List.cons_append] at hleading ⊢
      conv_lhs => unfold decodeUtf8From
      rw [hleading]
      dsimp only
      rw [← hlength, List.length_cons, Nat.add_sub_cancel, decodeUtf8From_append]

/-- Decoding reads back what was encoded. -/
theorem decodeUtf8Ignore_encodeUtf8 (chars : List Char) :
    decodeUtf8Ignore (encodeUtf8 chars) = chars := by
  induction chars with
  | nil => rfl
  | cons char rest ih => rw [encodeUtf8_cons, decodeUtf8Ignore_cons, ih]

/-- Decoding ignores bytes that start no character. -/
theorem decodeUtf8Ignore_append {bytes : List UInt8} (htrail : ∀ byte ∈ bytes, Trails byte)
    (rest : List UInt8) : decodeUtf8Ignore (bytes ++ rest) = decodeUtf8Ignore rest := by
  induction bytes with
  | nil => rfl
  | cons byte bytes ih =>
      rw [← ih fun other hother => htrail other (List.mem_cons_of_mem _ hother)]
      unfold decodeUtf8Ignore
      rw [List.cons_append]
      conv_lhs => unfold decodeUtf8From
      rw [leadingChar?_of_trails (htrail byte List.mem_cons_self)]

/-! ## The end that fits -/

theorem length_fittingEnd (n : ℕ) (chars : List Char) :
    (encodeUtf8 (fittingEnd n chars)).length ≤ n := by
  induction chars with
  | nil => exact Nat.zero_le _
  | cons char rest ih =>
      unfold fittingEnd
      split
      · next hfits => exact hfits
      · exact ih

theorem fittingEnd_of_fits {n : ℕ} {chars : List Char} (hfits : (encodeUtf8 chars).length ≤ n) :
    fittingEnd n chars = chars := by
  cases chars with
  | nil => rfl
  | cons char rest => exact if_pos hfits

/-- The last bytes of an encoded text are those left over from a character, and after
them the end of the text that fits. -/
theorem rtake_encodeUtf8 (n : ℕ) (chars : List Char) :
    ∃ leftover, (∀ byte ∈ leftover, Trails byte) ∧
      (encodeUtf8 chars).rtake n = leftover ++ encodeUtf8 (fittingEnd n chars) := by
  induction chars with
  | nil => exact ⟨[], by simp, by simp [encodeUtf8, fittingEnd]⟩
  | cons char rest ih =>
      unfold fittingEnd
      split
      · next hfits =>
          refine ⟨[], by simp, ?_⟩
          unfold List.rtake
          rw [Nat.sub_eq_zero_of_le hfits, List.drop_zero, List.nil_append]
      · next hlong =>
          obtain ⟨leftover, htrail, hrest⟩ := ih
          rw [encodeUtf8_cons, List.length_append] at hlong
          by_cases hfits : (encodeUtf8 rest).length ≤ n
          · -- The cut is inside this character.
            refine ⟨(String.utf8EncodeChar char).drop
              ((String.utf8EncodeChar char).length + (encodeUtf8 rest).length - n),
              trails_drop_utf8EncodeChar char (by omega), ?_⟩
            unfold List.rtake
            rw [encodeUtf8_cons, fittingEnd_of_fits hfits, List.length_append, List.drop_append,
              show (String.utf8EncodeChar char).length + (encodeUtf8 rest).length - n -
                (String.utf8EncodeChar char).length = 0 by omega, List.drop_zero]
          · refine ⟨leftover, htrail, ?_⟩
            rw [← hrest]
            unfold List.rtake
            rw [encodeUtf8_cons, List.length_append, List.drop_append,
              List.drop_eq_nil_of_le (by omega), List.nil_append]
            congr 1
            omega

/-- Cutting to the last bytes and decoding without errors leaves the end that fits. -/
theorem decodeUtf8Ignore_rtake (n : ℕ) (chars : List Char) :
    decodeUtf8Ignore ((encodeUtf8 chars).rtake n) = fittingEnd n chars := by
  obtain ⟨leftover, htrail, hsplit⟩ := rtake_encodeUtf8 n chars
  rw [hsplit, decodeUtf8Ignore_append htrail, decodeUtf8Ignore_encodeUtf8]

end MeshtasticLab.Foundation
