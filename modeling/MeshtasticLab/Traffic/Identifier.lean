/-
  Traffic/Identifier.lean --- the marker that correlates a payload with a message.

  Embeds `_parse_identifier` and the marker of `_submit` from
  `backend/app/traffic/controller.py`, with the parts of the language they rest
  on: a split at a separator with a bound, and the integer syntax of `int`, which
  takes white space around the number, a sign, single underscores between digits
  and the decimal digits of every script.
-/
import MeshtasticLab.Gateway.Packets

set_option autoImplicit false

namespace MeshtasticLab.Traffic

/-! ## Splitting and integers -/

/-- `text.split(separator, bound)`. -/
def splitBounded (separator : Char) : Nat → List Char → List (List Char)
  | _, [] => [[]]
  | 0, text => [text]
  | bound + 1, c :: rest =>
      if c = separator then [] :: splitBounded separator bound rest
      else
        match splitBounded separator (bound + 1) rest with
        | [] => [[c]]
        | first :: others => (c :: first) :: others

/-- The code points at which a block of ten decimal digits starts. -/
def DECIMAL_DIGIT_BLOCKS : List Nat :=
  [0x30, 0x660, 0x6f0, 0x7c0, 0x966, 0x9e6, 0xa66, 0xae6, 0xb66, 0xbe6, 0xc66, 0xce6, 0xd66,
    0xde6, 0xe50, 0xed0, 0xf20, 0x1040, 0x1090, 0x17e0, 0x1810, 0x1946, 0x19d0, 0x1a80, 0x1a90,
    0x1b50, 0x1bb0, 0x1c40, 0x1c50, 0xa620, 0xa8d0, 0xa900, 0xa9d0, 0xa9f0, 0xaa50, 0xabf0,
    0xff10, 0x104a0, 0x10d30, 0x11066, 0x110f0, 0x11136, 0x111d0, 0x112f0, 0x11450, 0x114d0,
    0x11650, 0x116c0, 0x11730, 0x118e0, 0x11950, 0x11c50, 0x11d50, 0x11da0, 0x11f50, 0x16a60,
    0x16ac0, 0x16b50, 0x1d7ce, 0x1d7d8, 0x1d7e2, 0x1d7ec, 0x1d7f6, 0x1e140, 0x1e2f0, 0x1e4f0,
    0x1e950, 0x1fbf0]

/-- The value of a decimal digit of any script. -/
def digitValue (c : Char) : Option Nat :=
  (DECIMAL_DIGIT_BLOCKS.find? fun start => start ≤ c.toNat ∧ c.toNat < start + 10).map
    fun start => c.toNat - start

/-- `c.isspace()`. -/
def isSpace (c : Char) : Bool :=
  let n := c.toNat
  (9 ≤ n && n ≤ 13) || n = 0x20 || n = 0x85 || n = 0xa0 || n = 0x1680 ||
    (0x2000 ≤ n && n ≤ 0x200a) || n = 0x2028 || n = 0x2029 || n = 0x202f || n = 0x205f ||
    n = 0x3000

/-- The digits of an integer literal; an underscore stands between two digits. -/
def digits : List Char → Option (List Nat)
  | [] => none
  | [c] => (digitValue c).map fun value => [value]
  | c :: '_' :: rest =>
      match digitValue c, digits rest with
      | some value, some values => some (value :: values)
      | _, _ => none
  | c :: rest =>
      match digitValue c, digits rest with
      | some value, some values => some (value :: values)
      | _, _ => none

/-- More digits than this raise, as the interpreter limits the conversion. -/
def MAX_INT_DIGITS : Nat := 4300

/-- The magnitude of an integer literal. -/
def magnitude (text : List Char) : Option Nat :=
  match digits text with
  | none => none
  | some values =>
      if MAX_INT_DIGITS < values.length then none
      else some (values.foldl (fun acc value => acc * 10 + value) 0)

/-- `int(text)`; `none` when it raises. -/
def parseInt (text : List Char) : Option Int :=
  match ((text.dropWhile isSpace).reverse.dropWhile isSpace).reverse with
  | '+' :: rest => (magnitude rest).map Int.ofNat
  | '-' :: rest => (magnitude rest).map fun value => -Int.ofNat value
  | rest => (magnitude rest).map Int.ofNat

/-! ## The marker -/

/-- `TRAFFIC_PREFIX`. -/
def TRAFFIC_PREFIX : String := "ML1"

/-- The text that starts the payload of a message. -/
def trafficMarker (runId : String) (sequence : Nat) : String :=
  s!"{TRAFFIC_PREFIX}:{runId}:{sequence}:"

/-- `_parse_identifier`. -/
def parseIdentifier (payload : List UInt8) : Option (String × Int) :=
  match String.fromUTF8? ⟨payload.toArray⟩ with
  | none => none
  | some text =>
      match splitBounded ':' 3 text.toList with
      | [marker, runId, sequence, _] =>
          if marker ≠ TRAFFIC_PREFIX.toList then none
          else (parseInt sequence).map fun value => (String.ofList runId, value)
      | _ => none

end MeshtasticLab.Traffic
