/-
  Traffic/Markers.lean --- the marker of a payload decodes to what was encoded.

  WHAT THIS FILE IS FOR

  `_submit` puts the run id and the sequence of a message in front of its padding
  and `_parse_identifier` reads them back.  Splitting inverts joining because no
  part before the last has a separator, and the integer syntax reads the decimal
  digits of a number as that number.  A longer number has no fewer digits, so the
  marker of the largest sequence is the longest one.
-/
import MeshtasticLab.Traffic.Identifier
import Mathlib.Algebra.Order.Ring.Nat
import Mathlib.Data.List.Basic

set_option autoImplicit false

namespace MeshtasticLab.Traffic

/-! ## Splitting -/

theorem splitBounded_zero (separator : Char) (text : List Char) :
    splitBounded separator 0 text = [text] := by
  cases text <;> rfl

/-- A part without the separator is split off whole. -/
theorem splitBounded_append {separator : Char} {part : List Char} (hpart : separator ∉ part)
    (bound : Nat) (rest : List Char) :
    splitBounded separator (bound + 1) (part ++ separator :: rest) =
      part :: splitBounded separator bound rest := by
  induction part with
  | nil => simp [splitBounded]
  | cons c part ih =>
      obtain ⟨hfirst, hrest⟩ := not_or.mp (mt List.mem_cons.mpr hpart)
      rw [List.cons_append, splitBounded, if_neg (Ne.symm hfirst), ih hrest]

/-! ## Decimal digits -/

theorem digitValue_of_isDigit {c : Char} (h : c.isDigit = true) :
    digitValue c = some (c.toNat - 48) := by
  have hrange : 48 ≤ c.toNat ∧ c.toNat ≤ 57 := Char.isDigit_iff_toNat.mp h
  unfold digitValue DECIMAL_DIGIT_BLOCKS
  rw [List.find?_cons_of_pos]
  · rfl
  · simp only [decide_eq_true_eq]
    omega

theorem isDigit_ne_underscore {c : Char} (h : c.isDigit = true) : c ≠ '_' := by
  rintro rfl
  cases h

/-- A literal of digits alone is read digit by digit. -/
theorem digits_of_isDigit {text : List Char} (hsome : text ≠ [])
    (hdigits : ∀ c ∈ text, c.isDigit = true) :
    digits text = some (text.map fun c => c.toNat - 48) := by
  induction text with
  | nil => exact absurd rfl hsome
  | cons c rest ih =>
      have hfirst := digitValue_of_isDigit (hdigits c (.head _))
      cases rest with
      | nil => simp [digits, hfirst]
      | cons d rest =>
          have hrest := ih (by simp) fun e he => hdigits e (.tail _ he)
          have hplain := isDigit_ne_underscore (hdigits d (.tail _ (.head _)))
          rw [digits]
          · rw [hfirst, hrest]
            rfl
          · simp
          · intro more hmore
            exact hplain (List.cons.inj hmore).1

/-- `int` of the decimal digits of a number is that number, when the interpreter converts
that many digits. -/
theorem parseInt_toDigits {n : Nat} (hlength : (Nat.toDigits 10 n).length ≤ MAX_INT_DIGITS) :
    parseInt (Nat.toDigits 10 n) = some n := by
  have hdigits : ∀ c ∈ Nat.toDigits 10 n, c.isDigit = true := fun c hc =>
    Nat.isDigit_of_mem_toDigits (by decide) (by decide) hc
  have hsome : Nat.toDigits 10 n ≠ [] := Nat.toDigits_ne_nil
  have hspace : ∀ {text : List Char}, (∀ c ∈ text, c.isDigit = true) →
      text.dropWhile isSpace = text := by
    intro text htext
    cases text with
    | nil => rfl
    | cons c rest =>
        have hrange : 48 ≤ c.toNat ∧ c.toNat ≤ 57 :=
          Char.isDigit_iff_toNat.mp (htext c (.head _))
        refine List.dropWhile_cons_of_neg ?_
        simp [isSpace]
        omega
  have hmagnitude : magnitude (Nat.toDigits 10 n) = some n := by
    unfold magnitude
    rw [digits_of_isDigit hsome hdigits]
    dsimp only
    rw [List.length_map, if_neg (by omega), List.foldl_map]
    have hfold : ∀ (text : List Char) (init : Nat),
        text.foldl (fun acc c => acc * 10 + (c.toNat - 48)) init =
          Nat.ofDigitChars 10 text init := by
      intro text
      induction text with
      | nil => intro init; simp
      | cons c rest ih =>
          intro init
          rw [List.foldl_cons, ih, Nat.ofDigitChars_cons, Nat.mul_comm]
          rfl
    rw [hfold, Nat.ofDigitChars_ten_toDigits]
  unfold parseInt
  rw [hspace hdigits, hspace (fun c hc => hdigits c (List.mem_reverse.mp hc)),
    List.reverse_reverse]
  split
  · next rest heq =>
      have := hdigits '+' (heq ▸ .head _)
      cases this
  · next rest heq =>
      have := hdigits '-' (heq ▸ .head _)
      cases this
  · rw [hmagnitude]
    rfl

/-- A larger number has no fewer digits. -/
theorem length_toDigits_mono {m n : Nat} (hle : m ≤ n) :
    (Nat.toDigits 10 m).length ≤ (Nat.toDigits 10 n).length := by
  have hpos : 0 < (Nat.toDigits 10 n).length := Nat.length_toDigits_pos
  refine (Nat.length_toDigits_le_iff (by decide) hpos).mpr ?_
  exact lt_of_le_of_lt hle ((Nat.length_toDigits_le_iff (by decide) hpos).mp le_rfl)

/-! ## Payloads -/

/-- The payload of `_submit`: the marker and its padding. -/
def paddedMarker (runId : String) (sequence padding : Nat) : List UInt8 :=
  (trafficMarker runId sequence).toUTF8.data.toList ++ List.replicate padding 120

theorem trafficMarker_toList (runId : String) (sequence : Nat) :
    (trafficMarker runId sequence).toList =
      TRAFFIC_PREFIX.toList ++
        ':' :: (runId.toList ++ ':' :: (Nat.toDigits 10 sequence ++ [':'])) := by
  simp [trafficMarker, TRAFFIC_PREFIX, toString]

/-- The padding is text. -/
theorem utf8_padding (padding : Nat) :
    (String.ofList (List.replicate padding 'x')).toUTF8.data.toList =
      List.replicate padding 120 := by
  have hencode : (String.ofList (List.replicate padding 'x')).toUTF8 =
      (List.replicate padding 'x').utf8Encode := String.toByteArray_ofList
  rw [hencode, List.utf8Encode, List.data_toByteArray, List.toList_toArray]
  clear hencode
  induction padding with
  | zero => rfl
  | succ n ih =>
      rw [List.replicate_succ, List.flatMap_cons, ih]
      rfl

theorem fromUTF8?_toUTF8 (text : String) : String.fromUTF8? text.toUTF8 = some text :=
  dif_pos text.isValidUTF8

theorem fromUTF8?_paddedMarker (runId : String) (sequence padding : Nat) :
    String.fromUTF8? ⟨(paddedMarker runId sequence padding).toArray⟩ =
      some (trafficMarker runId sequence ++ String.ofList (List.replicate padding 'x')) := by
  have hbytes : (⟨(paddedMarker runId sequence padding).toArray⟩ : ByteArray) =
      (trafficMarker runId sequence ++ String.ofList (List.replicate padding 'x')).toUTF8 := by
    apply ByteArray.ext
    apply Array.toList_inj.mp
    change _ = ((trafficMarker runId sequence).toUTF8 ++
      (String.ofList (List.replicate padding 'x')).toUTF8).data.toList
    rw [ByteArray.data_append, Array.toList_append, utf8_padding]
    rfl
  rw [hbytes, fromUTF8?_toUTF8]

/-- The marker of a payload decodes to the run id and the sequence that were encoded. -/
theorem parseIdentifier_paddedMarker {runId : String} (hrunId : ':' ∉ runId.toList)
    {sequence : Nat} (hlength : (Nat.toDigits 10 sequence).length ≤ MAX_INT_DIGITS)
    (padding : Nat) :
    parseIdentifier (paddedMarker runId sequence padding) = some (runId, (sequence : Int)) := by
  have hdigits : ':' ∉ Nat.toDigits 10 sequence := fun hmember => by
    have := Nat.isDigit_of_mem_toDigits (by decide) (by decide) hmember
    cases this
  unfold parseIdentifier
  rw [fromUTF8?_paddedMarker]
  dsimp only
  rw [String.toList_append, trafficMarker_toList]
  have hsplit : splitBounded ':' 3
      ((TRAFFIC_PREFIX.toList ++ ':' ::
        (runId.toList ++ ':' :: (Nat.toDigits 10 sequence ++ [':']))) ++
        (String.ofList (List.replicate padding 'x')).toList) =
      [TRAFFIC_PREFIX.toList, runId.toList, Nat.toDigits 10 sequence,
        List.replicate padding 'x'] := by
    simp only [List.append_assoc, List.cons_append, List.nil_append, String.toList_ofList]
    rw [splitBounded_append (by decide), splitBounded_append hrunId,
      splitBounded_append hdigits, splitBounded_zero]
  rw [hsplit]
  dsimp only
  rw [if_neg (not_not.mpr rfl), parseInt_toDigits hlength]
  simp

/-! ## Sizes -/

/-- Text of ASCII characters has as many bytes as characters. -/
theorem utf8ByteSize_of_ascii {text : String} (h : ∀ c ∈ text.toList, c.toNat < 128) :
    text.utf8ByteSize = text.length := by
  have hlength : ∀ chars : List Char, (∀ c ∈ chars, c.toNat < 128) →
      (chars.flatMap String.utf8EncodeChar).length = chars.length := by
    intro chars
    induction chars with
    | nil => exact fun _ => rfl
    | cons c rest ih =>
        intro hascii
        have hone : c.utf8Size = 1 := Char.utf8Size_eq_one_iff.mpr
          (UInt32.le_iff_toNat_le.mpr (Nat.le_of_lt_succ (hascii c (.head _))))
        rw [List.flatMap_cons, List.length_append, String.length_utf8EncodeChar, hone,
          ih fun d hd => hascii d (.tail _ hd), List.length_cons, Nat.add_comm]
  have hbytes : text.toByteArray = text.toList.utf8Encode := by
    rw [← String.toByteArray_ofList, String.ofList_toList]
  rw [← String.size_toByteArray, hbytes, List.utf8Encode, List.size_toByteArray,
    hlength _ h, String.length_toList]

/-- A run id of ASCII characters without a colon, as the text of a random UUID is. -/
def PlainRunId (runId : String) : Prop := ∀ c ∈ runId.toList, c.toNat < 128 ∧ c ≠ ':'

instance (runId : String) : Decidable (PlainRunId runId) :=
  List.decidableBAll (fun c : Char => c.toNat < 128 ∧ c ≠ ':') runId.toList

theorem PlainRunId.no_colon {runId : String} (h : PlainRunId runId) : ':' ∉ runId.toList :=
  fun hmember => (h ':' hmember).2 rfl

/-- The marker of a plain run id has as many bytes as characters. -/
theorem PlainRunId.markerSize {runId : String} (h : PlainRunId runId) (sequence : Nat) :
    (trafficMarker runId sequence).utf8ByteSize = (trafficMarker runId sequence).length := by
  refine utf8ByteSize_of_ascii fun c hc => ?_
  rw [trafficMarker_toList] at hc
  simp only [List.mem_append, List.mem_cons, List.not_mem_nil, or_false] at hc
  rcases hc with hprefix | rfl | hid | rfl | hdigit | rfl
  · have hascii : (TRAFFIC_PREFIX.toList.all fun c => c.toNat < 128) = true := by decide
    exact of_decide_eq_true (List.all_eq_true.mp hascii c hprefix)
  · decide
  · exact (h c hid).1
  · decide
  · have := Char.isDigit_iff_toNat.mp
      (Nat.isDigit_of_mem_toDigits (by decide) (by decide) hdigit)
    have hnine : '9'.toNat = 57 := rfl
    omega
  · decide

/-- The marker of the largest sequence is the longest. -/
theorem trafficMarker_length_mono (runId : String) {sequence maximum : Nat}
    (hle : sequence ≤ maximum) :
    (trafficMarker runId sequence).length ≤ (trafficMarker runId maximum).length := by
  rw [← String.length_toList, ← String.length_toList, trafficMarker_toList,
    trafficMarker_toList]
  simp only [List.length_append, List.length_cons]
  have := length_toDigits_mono hle
  omega

/-- A payload has the size that was asked for when the marker fits. -/
theorem length_paddedMarker {runId : String} {sequence payloadBytes : Nat}
    (hfits : (trafficMarker runId sequence).utf8ByteSize ≤ payloadBytes) :
    (paddedMarker runId sequence
      (payloadBytes - (trafficMarker runId sequence).utf8ByteSize)).length = payloadBytes := by
  have hbytes : (trafficMarker runId sequence).toUTF8.data.toList.length =
      (trafficMarker runId sequence).utf8ByteSize := rfl
  unfold paddedMarker
  rw [List.length_append, List.length_replicate, hbytes]
  omega

end MeshtasticLab.Traffic
