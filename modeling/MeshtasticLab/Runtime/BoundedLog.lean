/-
  Runtime/BoundedLog.lean --- the persisted output of a daemon.

  Embeds `_BoundedLogWriter` of `backend/app/runtime/processes.py` on the contents
  of the log file and its backup, for operations that do not fail.

  WHAT THIS FILE IS FOR

  The log file grows by whole lines until the next one does not fit; then it becomes
  the backup and a new file begins with this line.  What is kept is therefore an end
  of everything written, cut between two lines into the backup and the file.  A line
  that is longer than a file is cut itself, in front and between two characters.
-/
import MeshtasticLab.Foundation.Utf8

set_option autoImplicit false

namespace MeshtasticLab.Runtime

open MeshtasticLab.Foundation

/-- `data[-n:]`. -/
def sliceLast (data : List UInt8) (n : ℕ) : List UInt8 := if n = 0 then data else data.rtake n

/-- The byte of `\n`. -/
def NEWLINE : UInt8 := 10

/-- `_BoundedLogWriter` with the contents of its file and of the backup, when there is
one. -/
structure BoundedLogWriter where
  path : List UInt8
  backupPath : Option (List UInt8)
  maxBytes : ℕ
  size : ℕ
  deriving DecidableEq

namespace BoundedLogWriter

/-- `_trim_existing`. -/
def trimExisting (w : BoundedLogWriter) : BoundedLogWriter :=
  let tail := w.path.rtake w.maxBytes
  let tail :=
    match tail.findIdx? (· = NEWLINE) with
    | some firstNewline => tail.drop (firstNewline + 1)
    | none => []
  { w with path := tail, size := tail.length }

/-- `__init__`, on a file with this content. -/
def new (content : List UInt8) (backup : Option (List UInt8)) (maxBytes : ℕ) :
    BoundedLogWriter :=
  let w : BoundedLogWriter :=
    { path := content, backupPath := backup, maxBytes := maxBytes, size := content.length }
  if w.size > w.maxBytes then w.trimExisting else w

/-- `_rotate`. -/
def rotate (w : BoundedLogWriter) : BoundedLogWriter :=
  { w with path := [], backupPath := some w.path, size := 0 }

/-- The bytes that `write_line` writes. -/
def payload (w : BoundedLogWriter) (text : String) : List UInt8 :=
  let payload := encodeUtf8 (text ++ "\n").toList
  if payload.length > w.maxBytes then
    encodeUtf8 (decodeUtf8Ignore (sliceLast payload w.maxBytes))
  else payload

/-- Writing this line rotates. -/
def Rotates (w : BoundedLogWriter) (text : String) : Prop :=
  w.size ≠ 0 ∧ w.size + (w.payload text).length > w.maxBytes

instance (w : BoundedLogWriter) (text : String) : Decidable (w.Rotates text) :=
  inferInstanceAs (Decidable (_ ∧ _))

/-- `write_line`. -/
def writeLine (w : BoundedLogWriter) (text : String) : BoundedLogWriter :=
  let payload := w.payload text
  let w := if w.Rotates text then w.rotate else w
  { w with path := w.path ++ payload, size := w.size + payload.length }

/-- Lines written one after the other. -/
def writeLines (w : BoundedLogWriter) (lines : List String) : BoundedLogWriter :=
  lines.foldl writeLine w

/-- Writing these lines rotates at least once. -/
def rotated (w : BoundedLogWriter) : List String → Bool
  | [] => false
  | text :: rest => w.Rotates text || (w.writeLine text).rotated rest

/-! ## Lines -/

/-- What a log of at most this many bytes has of a line: the line with its end, or the
longest end of it whose encoding fits. -/
def record (maxBytes : ℕ) (text : String) : List UInt8 :=
  encodeUtf8 (fittingEnd maxBytes (text ++ "\n").toList)

theorem length_record (maxBytes : ℕ) (text : String) :
    (record maxBytes text).length ≤ maxBytes := length_fittingEnd _ _

/-- What is written is the line's record. -/
theorem payload_eq_record {w : BoundedLogWriter} (hmax : 0 < w.maxBytes) (text : String) :
    w.payload text = record w.maxBytes text := by
  unfold payload record
  dsimp only
  split
  · unfold sliceLast
    rw [if_neg (Nat.ne_of_gt hmax), decodeUtf8Ignore_rtake]
  · next hfits => rw [fittingEnd_of_fits (Nat.not_lt.mp hfits)]

/-- A record is the end of its line, and ends it. -/
theorem record_ends {maxBytes : ℕ} (hmax : 0 < maxBytes) (text : String) :
    ∃ kept, kept <:+ text.toList ∧ record maxBytes text = encodeUtf8 (kept ++ ['\n']) := by
  unfold record
  rw [String.toList_append, show "\n".toList = ['\n'] from rfl]
  generalize text.toList = chars
  induction chars with
  | nil => exact ⟨[], List.suffix_rfl, congrArg encodeUtf8 (fittingEnd_of_fits hmax)⟩
  | cons char rest ih =>
      rw [List.cons_append]
      unfold fittingEnd
      split
      · exact ⟨char :: rest, List.suffix_rfl, rfl⟩
      · obtain ⟨kept, hkept, hrecord⟩ := ih
        exact ⟨kept, hkept.trans (List.suffix_cons char rest), hrecord⟩

/-! ## Opening -/

/-- What is kept of a file that is too long comes after the end of one of its lines. -/
theorem new_trims (content : List UInt8) (backup : Option (List UInt8)) (maxBytes : ℕ) :
    ∃ cut, content = cut ++ (new content backup maxBytes).path ∧
      (cut = [] ∨ (new content backup maxBytes).path = [] ∨ cut.getLast? = some NEWLINE) := by
  unfold new
  dsimp only
  split
  · unfold trimExisting
    dsimp only
    split
    · next firstNewline hfound =>
        obtain ⟨hbound, hnewline, _⟩ := List.findIdx?_eq_some_iff_getElem.mp hfound
        have hsplit : content = content.take (content.length - maxBytes) ++
            content.rtake maxBytes := (List.take_append_drop _ content).symm
        refine ⟨content.take (content.length - maxBytes) ++
          (content.rtake maxBytes).take (firstNewline + 1), ?_, Or.inr (Or.inr ?_)⟩
        · rw [List.append_assoc, List.take_append_drop]
          exact hsplit
        · rw [List.take_succ_eq_append_getElem hbound, ← List.append_assoc,
            List.getLast?_append, List.getLast?_singleton, Option.some_or]
          exact congrArg some (of_decide_eq_true hnewline)
    · exact ⟨content, (List.append_nil content).symm, Or.inr (Or.inl rfl)⟩
  · exact ⟨[], rfl, Or.inl rfl⟩

theorem new_spec (content : List UInt8) (backup : Option (List UInt8)) (maxBytes : ℕ) :
    (new content backup maxBytes).size = (new content backup maxBytes).path.length ∧
      (new content backup maxBytes).path.length ≤ maxBytes ∧
      (new content backup maxBytes).backupPath = backup ∧
      (new content backup maxBytes).maxBytes = maxBytes := by
  unfold new
  dsimp only
  split
  · unfold trimExisting
    dsimp only
    refine ⟨rfl, ?_, rfl, rfl⟩
    have htail : (content.rtake maxBytes).length ≤ maxBytes := by
      unfold List.rtake
      rw [List.length_drop]
      omega
    split
    · rw [List.length_drop]
      exact (Nat.sub_le _ _).trans htail
    · exact Nat.zero_le _
  · next hfits => exact ⟨rfl, Nat.not_lt.mp hfits, rfl, rfl⟩

/-! ## Writing -/

/-- What a writer keeps of the chunks that went into its file: the last ones in the file
and, once it has rotated, some before them in the backup. -/
structure Retains (w : BoundedLogWriter) (backup : Option (List UInt8)) (rotated : Bool)
    (chunks dropped older newer : List (List UInt8)) : Prop where
  size : w.size = w.path.length
  bounded : w.path.length ≤ w.maxBytes
  split : chunks = dropped ++ older ++ newer
  file : w.path = newer.flatten
  kept : rotated = true → w.backupPath = some older.flatten ∧ older.flatten.length ≤ w.maxBytes
  fresh : rotated = false → w.backupPath = backup ∧ dropped = [] ∧ older = []

variable {w : BoundedLogWriter} {backup : Option (List UInt8)} {rotatedBefore : Bool}
  {chunks dropped older newer : List (List UInt8)}

theorem maxBytes_writeLine (w : BoundedLogWriter) (text : String) :
    (w.writeLine text).maxBytes = w.maxBytes := by
  unfold writeLine
  dsimp only
  split <;> rfl

theorem maxBytes_writeLines (w : BoundedLogWriter) (lines : List String) :
    (w.writeLines lines).maxBytes = w.maxBytes := by
  induction lines generalizing w with
  | nil => rfl
  | cons text rest ih => exact (ih (w.writeLine text)).trans (maxBytes_writeLine w text)

/-- A line goes whole to the end of the file, or begins the next one. -/
theorem Retains.writeLine (h : w.Retains backup rotatedBefore chunks dropped older newer)
    (hmax : 0 < w.maxBytes) (text : String) :
    ∃ dropped older newer, (w.writeLine text).Retains backup
      (rotatedBefore || w.Rotates text) (chunks ++ [record w.maxBytes text])
      dropped older newer := by
  have hlength := length_record w.maxBytes text
  by_cases hrotates : w.Rotates text
  · -- The file becomes the backup.
    refine ⟨dropped ++ older, newer, [record w.maxBytes text], ?_⟩
    have hwritten : w.writeLine text =
        { w with
          path := record w.maxBytes text
          backupPath := some w.path
          size := (record w.maxBytes text).length } := by
      unfold BoundedLogWriter.writeLine
      dsimp only
      rw [if_pos hrotates, payload_eq_record hmax]
      simp only [rotate, List.nil_append, Nat.zero_add]
    rw [hwritten]
    refine ⟨rfl, hlength, ?_, ?_, ?_, ?_⟩
    · rw [h.split]
    · simp
    · intro _
      exact ⟨congrArg some h.file, h.file ▸ h.bounded⟩
    · intro hnever
      simp [hrotates] at hnever
  · refine ⟨dropped, older, newer ++ [record w.maxBytes text], ?_⟩
    have hwritten : w.writeLine text =
        { w with
          path := w.path ++ record w.maxBytes text
          size := w.size + (record w.maxBytes text).length } := by
      unfold BoundedLogWriter.writeLine
      dsimp only
      rw [if_neg hrotates, payload_eq_record hmax]
    have hfits : w.path.length + (record w.maxBytes text).length ≤ w.maxBytes := by
      unfold Rotates at hrotates
      rw [payload_eq_record hmax, h.size] at hrotates
      omega
    rw [hwritten]
    refine ⟨?_, ?_, ?_, ?_, ?_, ?_⟩
    · simp [h.size]
    · simpa using hfits
    · rw [h.split, List.append_assoc]
    · simp [h.file]
    · simpa [hrotates] using h.kept
    · simpa [hrotates] using h.fresh

/-- Lines written one after the other go whole into the file or a later one. -/
theorem Retains.writeLines (h : w.Retains backup rotatedBefore chunks dropped older newer)
    (hmax : 0 < w.maxBytes) (lines : List String) :
    ∃ dropped older newer, (w.writeLines lines).Retains backup
      (rotatedBefore || w.rotated lines) (chunks ++ lines.map (record w.maxBytes))
      dropped older newer := by
  induction lines generalizing w rotatedBefore chunks dropped older newer with
  | nil =>
      refine ⟨dropped, older, newer, ?_⟩
      rw [List.map_nil, List.append_nil, rotated, Bool.or_false]
      exact h
  | cons text rest ih =>
      obtain ⟨dropped, older, newer, hone⟩ := h.writeLine hmax text
      have hsame := maxBytes_writeLine w text
      have hrest := ih hone (hsame ▸ hmax)
      rw [hsame, List.append_assoc, List.singleton_append, Bool.or_assoc] at hrest
      exact hrest

/-- For every content of the file and every sequence of lines the size that is tracked is
that of the file and at most the maximum, and of the trimmed content and the records of
the lines, none of them split, the last are in the file; the backup of a writer that has
rotated holds those right before them, and is bounded too. -/
theorem log_keeps_suffix (content : List UInt8) (backup : Option (List UInt8)) {maxBytes : ℕ}
    (hmax : 0 < maxBytes) (lines : List String) :
    ((new content backup maxBytes).writeLines lines).size =
        ((new content backup maxBytes).writeLines lines).path.length ∧
      ((new content backup maxBytes).writeLines lines).path.length ≤ maxBytes ∧
      ∃ dropped older newer,
        (new content backup maxBytes).path :: lines.map (record maxBytes) =
          dropped ++ older ++ newer ∧
        ((new content backup maxBytes).writeLines lines).path = newer.flatten ∧
        older.flatten ++ newer.flatten <:+
          (new content backup maxBytes).path ++ (lines.map (record maxBytes)).flatten ∧
        ((new content backup maxBytes).rotated lines = true →
          ((new content backup maxBytes).writeLines lines).backupPath = some older.flatten ∧
            older.flatten.length ≤ maxBytes) ∧
        ((new content backup maxBytes).rotated lines = false →
          ((new content backup maxBytes).writeLines lines).backupPath = backup ∧
            dropped = [] ∧ older = []) := by
  obtain ⟨hsize, hbounded, hbackup, hmaxBytes⟩ := new_spec content backup maxBytes
  have hopened : (new content backup maxBytes).Retains backup false
      [(new content backup maxBytes).path] [] [] [(new content backup maxBytes).path] :=
    { size := hsize
      bounded := hbounded.trans_eq hmaxBytes.symm
      split := rfl
      file := (List.append_nil _).symm
      kept := nofun
      fresh := fun _ => ⟨hbackup, rfl, rfl⟩ }
  obtain ⟨dropped, older, newer, h⟩ := hopened.writeLines (hmax.trans_eq hmaxBytes.symm) lines
  have hmaxWritten : ((new content backup maxBytes).writeLines lines).maxBytes = maxBytes :=
    (maxBytes_writeLines _ lines).trans hmaxBytes
  have hsplit := h.split
  rw [hmaxBytes, List.singleton_append] at hsplit
  have hrotated := h.kept
  have hbound := h.bounded
  rw [hmaxWritten] at hrotated hbound
  refine ⟨h.size, hbound, dropped, older, newer, hsplit, h.file, ?_, hrotated, h.fresh⟩
  refine ⟨dropped.flatten, ?_⟩
  have hflatten := congrArg List.flatten hsplit
  rw [List.flatten_cons, List.flatten_append, List.flatten_append] at hflatten
  rw [hflatten, List.append_assoc]

/-- A third line of five bytes begins a second file of at most ten. -/
theorem log_rotates_third_line :
    ((new (encodeUtf8 "1111\n2222\n".toList) none 10).writeLines ["3333"]).path.length ≤ 10 ∧
      ((new (encodeUtf8 "1111\n2222\n".toList) none 10).writeLines ["3333"]).backupPath =
        some (encodeUtf8 "1111\n2222\n".toList) := by
  refine ⟨?_, by decide +kernel⟩
  exact (log_keeps_suffix (encodeUtf8 "1111\n2222\n".toList) none (Nat.succ_pos 9)
    ["3333"]).2.1

end BoundedLogWriter

end MeshtasticLab.Runtime
