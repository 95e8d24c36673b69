/-
  Gateway/FramingGrammar.lean --- what the frame parser accepts.

  The grammar of the stream is a leftmost scanner: at each position either a
  header with an admissible length starts there, or it does not, or the bytes
  that would tell have not arrived.  `feed_eq_scan` says that the loop of
  `FrameParser.feed` computes exactly that scan; independence of the read
  boundaries and the shape of the accepted stream are then read off the scanner.
-/
import MeshtasticLab.Foundation.Scanner
import MeshtasticLab.Gateway.Framing

set_option autoImplicit false

namespace MeshtasticLab.Gateway

open MeshtasticLab.Foundation

/-! ## The grammar -/

/-- The verdict on the bytes in front of the parser.  A byte is skipped when no
admissible header starts at it; the tag says whether it started a header whose
length is too large. -/
def classify (maximum : Nat) : Bytes → Verdict Bool
  | [] => .wait
  | [a] => if a = magic0 then .wait else .skip false
  | a :: b :: rest =>
      if a = magic0 ∧ b = magic1 then
        match rest with
        | hi :: lo :: body =>
            if maximum < fromBytesBig [hi, lo] then .skip true
            else if body.length < fromBytesBig [hi, lo] then .wait
            else .emit (headerSize + fromBytesBig [hi, lo])
        | _ => .wait
      else .skip false

/-- A complete frame at the front of the buffer. -/
structure IsFrame (maximum : Nat) (raw : Bytes) : Prop where
  split : ∃ hi lo body, raw = magic0 :: magic1 :: hi :: lo :: body ∧
    body.length = fromBytesBig [hi, lo] ∧ fromBytesBig [hi, lo] ≤ maximum

/-- A header with an admissible length starts at the front of the buffer. -/
def HeaderAt (maximum : Nat) (here : Bytes) : Prop :=
  ∃ hi lo, [magic0, magic1, hi, lo] <+: here ∧ fromBytesBig [hi, lo] ≤ maximum

theorem classify_header (maximum : Nat) (hi lo : UInt8) (body : Bytes) :
    classify maximum (magic0 :: magic1 :: hi :: lo :: body) =
      if maximum < fromBytesBig [hi, lo] then .skip true
      else if body.length < fromBytesBig [hi, lo] then .wait
      else .emit (headerSize + fromBytesBig [hi, lo]) := by
  simp [classify]

/-- What each verdict says about the bytes it was passed on. -/
theorem classify_emit {maximum n : Nat} {here : Bytes}
    (h : classify maximum here = .emit n) :
    n ≤ here.length ∧ IsFrame maximum (here.take n) := by
  match here with
  | [] => simp [classify] at h
  | [a] => simp only [classify] at h; split at h <;> simp at h
  | [a, b] => simp only [classify] at h; split at h <;> simp at h
  | [a, b, c] => simp only [classify] at h; split at h <;> simp at h
  | a :: b :: hi :: lo :: body =>
      by_cases hab : a = magic0 ∧ b = magic1
      · obtain ⟨rfl, rfl⟩ := hab
        rw [classify_header] at h
        split at h
        · simp at h
        · rename_i hmax
          split at h
          · simp at h
          · rename_i hbody
            simp only [Verdict.emit.injEq] at h
            subst h
            refine ⟨by simp [headerSize]; omega, hi, lo,
              body.take (fromBytesBig [hi, lo]), ?_, ?_, by omega⟩
            · rw [headerSize, Nat.add_comm]; rfl
            · rw [List.length_take]; omega
      · simp [classify, hab] at h

/-- A skipped byte starts no admissible header, whatever bytes follow it. -/
theorem classify_skip {maximum : Nat} {here : Bytes} {tag : Bool}
    (h : classify maximum here = .skip tag) (more : Bytes) :
    ¬ HeaderAt maximum (here ++ more) := by
  rintro ⟨hi', lo', ⟨after, hafter⟩, hle⟩
  match here with
  | [] => simp [classify] at h
  | [a] =>
      simp only [List.cons_append, List.cons.injEq] at hafter
      simp [classify, ← hafter.1] at h
  | a :: b :: rest =>
      simp only [List.cons_append, List.cons.injEq] at hafter
      obtain ⟨rfl, rfl, hrest⟩ := hafter
      match rest with
      | [] => simp [classify] at h
      | [c] => simp [classify] at h
      | hi :: lo :: body =>
          simp only [List.cons_append, List.cons.injEq] at hrest
          obtain ⟨rfl, rfl, -⟩ := hrest
          rw [classify_header, if_neg (by omega)] at h
          split at h <;> simp at h

/-- The magic bytes followed by less than a whole frame: the length field is not
complete, or it is admissible and its payload is not complete. -/
def IncompleteFrame (maximum : Nat) (here : Bytes) : Prop :=
  magic <+: here ∧
    (here.length < headerSize ∨
      fromBytesBig ((here.drop 2).take 2) ≤ maximum ∧
        here.length < headerSize + fromBytesBig ((here.drop 2).take 2))

/-- The parser waits on nothing, on a lone first magic byte, or on an incomplete
frame. -/
theorem classify_wait {maximum : Nat} {here : Bytes} (h : classify maximum here = .wait) :
    here = [] ∨ here = [magic0] ∨ IncompleteFrame maximum here := by
  match here with
  | [] => exact .inl rfl
  | [a] =>
      simp only [classify] at h
      split at h
      · rename_i ha; exact .inr (.inl (by rw [ha]))
      · simp at h
  | a :: b :: rest =>
      by_cases hab : a = magic0 ∧ b = magic1
      · obtain ⟨rfl, rfl⟩ := hab
        refine .inr (.inr ⟨⟨rest, rfl⟩, ?_⟩)
        match rest with
        | [] => exact .inl (by simp [headerSize])
        | [hi] => exact .inl (by simp [headerSize])
        | hi :: lo :: body =>
            rw [classify_header] at h
            split at h
            · simp at h
            · rename_i hmax
              split at h
              · rename_i hbody
                refine .inr ⟨Nat.le_of_not_lt hmax, ?_⟩
                simp only [List.drop_succ_cons, List.drop_zero, List.take_succ_cons,
                  List.take_zero, List.length_cons, headerSize]
                omega
              · simp at h
      · simp [classify, hab] at h

/-- Appending bytes changes no verdict but `wait`. -/
theorem classify_append {maximum : Nat} {here : Bytes} (more : Bytes)
    (h : classify maximum here ≠ .wait) :
    classify maximum (here ++ more) = classify maximum here := by
  match here with
  | [] => exact absurd rfl h
  | [a] =>
      by_cases ha : a = magic0
      · exact absurd (by simp [classify, ha]) h
      · cases more with
        | nil => rfl
        | cons b rest => simp [classify, ha]
  | a :: b :: rest =>
      by_cases hab : a = magic0 ∧ b = magic1
      · obtain ⟨rfl, rfl⟩ := hab
        match rest with
        | [] => exact absurd (by simp [classify]) h
        | [hi] => exact absurd (by simp [classify]) h
        | hi :: lo :: body =>
            simp only [List.cons_append, classify_header] at h ⊢
            split
            · rfl
            · rename_i hmax
              rw [if_neg hmax] at h
              split at h
              · exact absurd rfl h
              · rename_i hbody
                rw [if_neg hbody, if_neg (by rw [List.length_append]; omega)]
      · simp [classify, hab]

/-- The grammar of the stream for one limit on the payload size. -/
def frameScanner (maximum : Nat) : Scanner UInt8 Bool where
  classify := classify maximum
  classify_nil := rfl
  emit_pos := by
    intro here n h
    obtain ⟨hle, hi, lo, body, hraw, -, -⟩ := classify_emit h
    have hlen := congrArg List.length hraw
    simp only [List.length_take, List.length_cons] at hlen
    omega
  emit_le := fun h => (classify_emit h).1
  skip_append := by
    intro here tag more h
    rw [classify_append more (by simp [h]), h]
  emit_append := by
    intro here n more h
    rw [classify_append more (by simp [h]), h]

/-! ## The loop computes the scan -/

/-- The `Frame` built from the raw bytes of a complete frame. -/
def frameOf (raw : Bytes) : Frame := { raw, payload := raw.drop headerSize }

/-- The frames among the consumed pieces. -/
def framesIn (pieces : List (Piece UInt8 Bool)) : List Frame :=
  (pieces.filterMap Piece.token?).map frameOf

/-- The number of dropped bytes among the consumed pieces. -/
def discardedIn (pieces : List (Piece UInt8 Bool)) : Nat :=
  pieces.countP fun piece => piece.tag?.isSome

/-- The number of bytes dropped at the start of an oversized header. -/
def oversizedIn (pieces : List (Piece UInt8 Bool)) : Nat :=
  pieces.countP fun piece => piece.tag? = some true

/-- The pieces of a stretch of noise. -/
def noise (bytes : Bytes) : List (Piece UInt8 Bool) :=
  bytes.map fun byte => .dropped byte false

@[simp] theorem framesIn_noise (bytes : Bytes) : framesIn (noise bytes) = [] := by
  induction bytes with
  | nil => rfl
  | cons byte rest ih => simp [framesIn, noise, Piece.token?]

@[simp] theorem discardedIn_noise (bytes : Bytes) :
    discardedIn (noise bytes) = bytes.length := by
  simp [discardedIn, noise, List.countP_map, Function.comp_def, Piece.tag?]

@[simp] theorem oversizedIn_noise (bytes : Bytes) : oversizedIn (noise bytes) = 0 := by
  simp [oversizedIn, noise, List.countP_map, Function.comp_def, Piece.tag?]

theorem framesIn_append (left right : List (Piece UInt8 Bool)) :
    framesIn (left ++ right) = framesIn left ++ framesIn right := by
  simp [framesIn]

theorem discardedIn_append (left right : List (Piece UInt8 Bool)) :
    discardedIn (left ++ right) = discardedIn left + discardedIn right := by
  simp [discardedIn]

theorem oversizedIn_append (left right : List (Piece UInt8 Bool)) :
    oversizedIn (left ++ right) = oversizedIn left + oversizedIn right := by
  simp [oversizedIn]

/-- A search that succeeds stops at the magic bytes. -/
theorem drop_findMagic {buffer : Bytes} {start : Nat} (h : findMagic buffer = some start) :
    start ≤ buffer.length ∧ ∃ rest, buffer.drop start = magic0 :: magic1 :: rest := by
  induction buffer generalizing start with
  | nil => simp [findMagic] at h
  | cons a tail ih =>
      cases tail with
      | nil => simp [findMagic] at h
      | cons b rest =>
          rw [findMagic] at h
          split at h
          · rename_i hab
            obtain rfl : 0 = start := by simpa using h
            exact ⟨Nat.zero_le _, rest, by simp [hab.1, hab.2]⟩
          · obtain ⟨inner, hinner, rfl⟩ := Option.map_eq_some_iff.mp h
            obtain ⟨hle, hdrop⟩ := ih hinner
            exact ⟨by simpa using hle, by simpa using hdrop⟩

/-- A search that finds the magic bytes passes over noise only. -/
theorem scan_of_findMagic_some (maximum : Nat) {buffer : Bytes} {start : Nat}
    (h : findMagic buffer = some start) :
    (frameScanner maximum).scan buffer =
      (noise (buffer.take start) ++ ((frameScanner maximum).scan (buffer.drop start)).1,
        ((frameScanner maximum).scan (buffer.drop start)).2) := by
  induction buffer generalizing start with
  | nil => simp [findMagic] at h
  | cons a tail ih =>
      cases tail with
      | nil => simp [findMagic] at h
      | cons b rest =>
          rw [findMagic] at h
          split at h
          · obtain rfl : 0 = start := by simpa using h
            simp [noise]
          · rename_i hab
            obtain ⟨inner, hinner, rfl⟩ := Option.map_eq_some_iff.mp h
            have hskip : (frameScanner maximum).classify (a :: b :: rest) = .skip false := by
              simp [frameScanner, classify, hab]
            rw [Scanner.scan_skip hskip, ih hinner]
            simp [noise]

/-- The number of trailing bytes a failed search keeps. -/
def keptAfter (buffer : Bytes) : Nat :=
  if buffer.getLast? = some magic0 then 1 else 0

/-- A search that fails passes over noise only, and keeps a final first magic
byte. -/
theorem scan_of_findMagic_none (maximum : Nat) {buffer : Bytes}
    (h : findMagic buffer = none) :
    (frameScanner maximum).scan buffer =
      (noise (buffer.take (buffer.length - keptAfter buffer)),
        buffer.drop (buffer.length - keptAfter buffer)) := by
  induction buffer with
  | nil => simp [Scanner.scan, noise]
  | cons a tail ih =>
      cases tail with
      | nil =>
          by_cases ha : a = magic0
          · have hwait : (frameScanner maximum).classify [a] = .wait := by
              simp [frameScanner, classify, ha]
            rw [Scanner.scan_wait hwait]
            simp [keptAfter, ha, noise]
          · have hskip : (frameScanner maximum).classify [a] = .skip false := by
              simp [frameScanner, classify, ha]
            rw [Scanner.scan_skip hskip]
            simp [Scanner.scan, keptAfter, ha, noise]
      | cons b rest =>
          rw [findMagic] at h
          split at h
          · simp at h
          · rename_i hab
            have hskip : (frameScanner maximum).classify (a :: b :: rest) = .skip false := by
              simp [frameScanner, classify, hab]
            have hkept : keptAfter (a :: b :: rest) = keptAfter (b :: rest) := by
              simp [keptAfter]
            have hlt : keptAfter (b :: rest) ≤ (b :: rest).length := by
              unfold keptAfter
              split <;> simp
            have hlen : (a :: b :: rest).length - keptAfter (a :: b :: rest) =
                ((b :: rest).length - keptAfter (b :: rest)) + 1 := by
              rw [hkept, List.length_cons]
              omega
            rw [Scanner.scan_skip hskip, ih (Option.map_eq_none_iff.mp h), hlen]
            simp [noise]

/-- The length field of a buffer that starts with the magic bytes, by the cases
of the loop body. -/
theorem classify_of_magic (maximum : Nat) (rest : Bytes) :
    classify maximum (magic0 :: magic1 :: rest) =
      if (magic0 :: magic1 :: rest).length < headerSize then .wait
      else if maximum < fromBytesBig (rest.take 2) then .skip true
      else if (magic0 :: magic1 :: rest).length < headerSize + fromBytesBig (rest.take 2)
        then .wait
      else .emit (headerSize + fromBytesBig (rest.take 2)) := by
  match rest with
  | [] => simp [classify, headerSize]
  | [hi] => simp [classify, headerSize]
  | hi :: lo :: body =>
      have hlen : ¬ (magic0 :: magic1 :: hi :: lo :: body).length < headerSize := by
        simp [headerSize]
      have hbody : (magic0 :: magic1 :: hi :: lo :: body).length <
          headerSize + fromBytesBig [hi, lo] ↔ body.length < fromBytesBig [hi, lo] := by
        simp only [List.length_cons, headerSize]
        omega
      rw [classify_header, if_neg hlen]
      simp only [List.take_succ_cons, List.take_zero, hbody]

/-- The parser after its buffer has been consumed as `scanned` tells. -/
def FrameParser.consumed (p : FrameParser)
    (scanned : List (Piece UInt8 Bool) × Bytes) : FrameParser :=
  { p with
    buffer := scanned.2
    discardedBytes := p.discardedBytes + discardedIn scanned.1
    oversizedFrames := p.oversizedFrames + oversizedIn scanned.1 }

/-- The loop of `feed` emits the tokens of the scan, counts its dropped bytes
and keeps what the scan left over. -/
theorem feedLoop_eq_scan (p : FrameParser) (frames : List Frame) :
    p.feedLoop frames =
      (frames ++ framesIn ((frameScanner p.maximumPayloadSize).scan p.buffer).1,
        p.consumed ((frameScanner p.maximumPayloadSize).scan p.buffer)) := by
  fun_induction FrameParser.feedLoop p frames with
  | case1 p frames hempty =>
      rw [hempty, Scanner.scan]
      simp [FrameParser.consumed, framesIn, discardedIn, oversizedIn, ← hempty]
  | case2 p frames hne hfind keep discarded =>
      -- no magic bytes: everything but a final first magic byte is noise
      rw [scan_of_findMagic_none _ hfind]
      have hkeep : keep = keptAfter p.buffer := by simp [keep, keptAfter]
      have hlen : 0 < p.buffer.length := List.length_pos_iff.mpr hne
      have hdrop : (if keptAfter p.buffer = 1 then p.buffer.drop (p.buffer.length - 1)
          else []) = p.buffer.drop (p.buffer.length - keptAfter p.buffer) := by
        unfold keptAfter
        split <;> simp
      simp only [framesIn_noise, List.append_nil, FrameParser.consumed, discardedIn_noise,
        oversizedIn_noise, Nat.add_zero, discarded, hkeep, hdrop, List.length_take]
      rw [Nat.min_eq_left (Nat.sub_le _ _)]
  | case3 p frames hne start hfind buffer discardedBytes hshort =>
      -- the magic bytes are there, the length field is not complete
      obtain ⟨hstart, rest, hrest⟩ := drop_findMagic hfind
      have hwait : (frameScanner p.maximumPayloadSize).classify (p.buffer.drop start) =
          .wait := by
        rw [hrest]
        exact (classify_of_magic _ rest).trans (if_pos (by rw [← hrest]; exact hshort))
      rw [scan_of_findMagic_some _ hfind, Scanner.scan_wait hwait]
      simp [FrameParser.consumed, buffer, discardedBytes, Nat.min_eq_left hstart]
  | case4 p frames hne start hfind buffer discardedBytes hlong payloadSize hsize ih =>
      -- an oversized length: only the first byte is given up
      obtain ⟨hstart, rest, hrest⟩ := drop_findMagic hfind
      have hpayload : payloadSize = fromBytesBig (rest.take 2) := by
        simp only [payloadSize, buffer, hrest]
        rfl
      have hskip : (frameScanner p.maximumPayloadSize).classify (magic0 :: magic1 :: rest) =
          .skip true :=
        (classify_of_magic _ rest).trans <| by
          rw [if_neg (by rw [← hrest]; exact hlong), if_pos (by rw [← hpayload]; exact hsize)]
      have htail : buffer.drop 1 = magic1 :: rest := by simp only [buffer, hrest]; rfl
      rw [ih, scan_of_findMagic_some _ hfind, hrest, Scanner.scan_skip hskip, htail]
      simp only [framesIn_append, framesIn_noise, List.nil_append, FrameParser.consumed,
        discardedIn_append, discardedIn_noise, oversizedIn_append, oversizedIn_noise,
        List.length_take, Nat.min_eq_left hstart, discardedBytes, Prod.mk.injEq,
        FrameParser.mk.injEq, true_and]
      refine ⟨rfl, ?_, ?_⟩ <;>
        simp only [discardedIn, oversizedIn, List.countP_cons, Piece.tag?, Option.isSome_some,
          decide_true, if_true] <;>
        omega
  | case5 p frames hne start hfind buffer discardedBytes hlong payloadSize hsize frameSize
      hshort =>
      -- an admissible length whose payload is not complete
      obtain ⟨hstart, rest, hrest⟩ := drop_findMagic hfind
      have hpayload : payloadSize = fromBytesBig (rest.take 2) := by
        simp only [payloadSize, buffer, hrest]
        rfl
      have hwait : (frameScanner p.maximumPayloadSize).classify (p.buffer.drop start) =
          .wait := by
        rw [hrest]
        refine (classify_of_magic _ rest).trans ?_
        rw [if_neg (by rw [← hrest]; exact hlong), if_neg (by rw [← hpayload]; exact hsize),
          if_pos (by rw [← hrest, ← hpayload]; exact hshort)]
      rw [scan_of_findMagic_some _ hfind, Scanner.scan_wait hwait]
      simp [FrameParser.consumed, buffer, discardedBytes, Nat.min_eq_left hstart]
  | case6 p frames hne start hfind buffer discardedBytes hlong payloadSize hsize frameSize
      hshort raw ih =>
      -- a complete frame
      obtain ⟨hstart, rest, hrest⟩ := drop_findMagic hfind
      have hpayload : payloadSize = fromBytesBig (rest.take 2) := by
        simp only [payloadSize, buffer, hrest]
        rfl
      have hemit : (frameScanner p.maximumPayloadSize).classify (p.buffer.drop start) =
          .emit frameSize := by
        rw [hrest]
        refine (classify_of_magic _ rest).trans ?_
        rw [if_neg (by rw [← hrest]; exact hlong), if_neg (by rw [← hpayload]; exact hsize),
          if_neg (by rw [← hrest, ← hpayload]; exact hshort), ← hpayload]
      rw [ih, scan_of_findMagic_some _ hfind, Scanner.scan_emit hemit]
      simp only [framesIn_append, framesIn_noise, List.nil_append, FrameParser.consumed,
        discardedIn_append, discardedIn_noise, oversizedIn_append, oversizedIn_noise,
        List.length_take, Nat.min_eq_left hstart, discardedBytes, Prod.mk.injEq,
        FrameParser.mk.injEq, true_and]
      refine ⟨by simp [framesIn, frameOf, Piece.token?, raw, buffer], rfl, ?_, ?_⟩
      · simp only [discardedIn, List.countP_cons, Piece.tag?, buffer, Option.isSome_none,
          Bool.false_eq_true, if_false, Nat.add_zero]
        omega
      · simp only [oversizedIn, List.countP_cons, Piece.tag?, buffer, reduceCtorEq, decide_false,
          Bool.false_eq_true, if_false, Nat.add_zero, Nat.zero_add]

/-- `feed` is one scan of the buffered bytes followed by the new data. -/
theorem feed_eq_scan (p : FrameParser) (data : Bytes) :
    p.feed data =
      (framesIn ((frameScanner p.maximumPayloadSize).scan (p.buffer ++ data)).1,
        p.consumed ((frameScanner p.maximumPayloadSize).scan (p.buffer ++ data))) := by
  rw [FrameParser.feed, feedLoop_eq_scan]
  rfl

/-! ## Independence of the read boundaries -/

/-- A parser whose loop has nothing left to do: every parser between two reads. -/
def FrameParser.Settled (p : FrameParser) : Prop :=
  classify p.maximumPayloadSize p.buffer = .wait

theorem new_settled (maximum : Nat) : (FrameParser.new maximum).Settled := rfl

theorem feed_settled (p : FrameParser) (data : Bytes) : (p.feed data).2.Settled := by
  rw [feed_eq_scan]
  exact Scanner.classify_leftover (S := frameScanner p.maximumPayloadSize) _

theorem feed_nil {p : FrameParser} (h : p.Settled) : p.feed [] = ([], p) := by
  have hwait : (frameScanner p.maximumPayloadSize).classify p.buffer = .wait := h
  rw [feed_eq_scan, List.append_nil, Scanner.scan_wait hwait]
  rfl

/-- Feeding a concatenation is feeding its two parts. -/
theorem feed_append (p : FrameParser) (left right : Bytes) :
    p.feed (left ++ right) =
      ((p.feed left).1 ++ ((p.feed left).2.feed right).1, ((p.feed left).2.feed right).2) := by
  simp only [feed_eq_scan, FrameParser.consumed]
  rw [← List.append_assoc, Scanner.scan_append]
  simp only [framesIn_append, discardedIn_append, oversizedIn_append, Nat.add_assoc]

theorem feedAll_of_settled {p : FrameParser} (h : p.Settled) (chunks : List Bytes) :
    p.feedAll chunks = p.feed chunks.flatten := by
  induction chunks generalizing p with
  | nil => exact (feed_nil h).symm
  | cons chunk rest ih =>
      rw [FrameParser.feedAll, List.flatten_cons, feed_append, ih (feed_settled p chunk)]

/-- However a byte string is cut into reads, a fresh parser emits the same
frames and ends in the same state: buffer, `discarded_bytes` and
`oversized_frames` included. -/
theorem feedAll_eq_feed_flatten (maximum : Nat) (chunks : List Bytes) :
    (FrameParser.new maximum).feedAll chunks =
      (FrameParser.new maximum).feed chunks.flatten :=
  feedAll_of_settled (new_settled maximum) chunks

/-- A frame cut inside its magic bytes, its length and its payload. -/
example : (FrameParser.new 512).feedAll [[0x94], [0xc3, 0], [], [2, 7], [8, 9]] =
    (FrameParser.new 512).feed [0x94, 0xc3, 0, 2, 7, 8, 9] := by
  rw [feedAll_of_settled (new_settled 512)]
  rfl

/-! ## What is accepted -/

/-- How a byte string `stream` was parsed: `pieces` are, from left to right, the
emitted frames and the discarded bytes, and the parser `p` is left behind. -/
structure Parsed (maximum : Nat) (stream : Bytes) (pieces : List (Piece UInt8 Bool))
    (frames : List Frame) (p : FrameParser) : Prop where
  /-- the pieces and the remaining buffer spell the stream -/
  spells : pieces.flatMap Piece.raw ++ p.buffer = stream
  /-- the emitted frames are the frames among the pieces, in order -/
  emitted : frames.map Frame.raw = pieces.filterMap Piece.token?
  /-- no byte is lost -/
  accounted : p.discardedBytes + (frames.map fun frame => frame.raw.length).sum +
    p.bufferedBytes = stream.length
  /-- the discarded bytes are the other pieces -/
  discarded : p.discardedBytes = discardedIn pieces
  /-- every frame is the magic bytes, an admissible length and its payload -/
  wellFormed : ∀ frame ∈ frames, ∃ hi lo,
    frame.raw = magic ++ [hi, lo] ++ frame.payload ∧
      frame.payload.length = fromBytesBig [hi, lo] ∧ fromBytesBig [hi, lo] ≤ maximum
  /-- a byte is discarded only where no admissible header starts -/
  noneSkipped : ∀ before symbol tag after, pieces = before ++ .dropped symbol tag :: after →
    ∀ more, ¬ HeaderAt maximum (stream.drop (before.flatMap Piece.raw).length ++ more)
  /-- the remaining buffer is nothing, a first magic byte or an incomplete frame -/
  leftover : p.buffer = [] ∨ p.buffer = [magic0] ∨ IncompleteFrame maximum p.buffer
  /-- the buffer stays bounded -/
  bounded : p.bufferedBytes ≤ maximum + 3

theorem token_isFrame {maximum : Nat} {stream raw : Bytes}
    (h : raw ∈ ((frameScanner maximum).scan stream).1.filterMap Piece.token?) :
    IsFrame maximum raw := by
  obtain ⟨piece, hpiece, htoken⟩ := List.mem_filterMap.mp h
  obtain ⟨before, after, hsplit⟩ := List.append_of_mem hpiece
  have hlicensed := Scanner.scan_licensed stream hsplit
  cases piece with
  | dropped symbol tag => simp [Piece.token?] at htoken
  | token raw' =>
      obtain rfl : raw' = raw := by simpa [Piece.token?] using htoken
      obtain ⟨hemit, hprefix⟩ := hlicensed
      have hframe := (classify_emit hemit).2
      rwa [← List.prefix_iff_eq_take.mp hprefix] at hframe

theorem length_flatMap_raw (pieces : List (Piece UInt8 Bool)) :
    (pieces.flatMap Piece.raw).length =
      discardedIn pieces + ((framesIn pieces).map fun frame => frame.raw.length).sum := by
  induction pieces with
  | nil => rfl
  | cons piece rest ih =>
      have hsplit : piece :: rest = [piece] ++ rest := rfl
      rw [List.flatMap_cons, List.length_append, ih, hsplit, discardedIn_append,
        framesIn_append, List.map_append, List.sum_append]
      cases piece with
      | token raw =>
          have hone : framesIn [.token raw] = [frameOf raw] := rfl
          have hzero : discardedIn [.token raw] = 0 := rfl
          simp only [hone, hzero, Piece.raw, frameOf, List.map_cons, List.map_nil,
            List.sum_cons, List.sum_nil]
          omega
      | dropped symbol tag =>
          have hnone : framesIn [.dropped symbol tag] = [] := rfl
          have hone : discardedIn [.dropped symbol tag] = 1 := rfl
          simp only [hnone, hone, Piece.raw, List.length_singleton, List.map_nil, List.sum_nil]
          omega

theorem incompleteFrame_length {maximum : Nat} {here : Bytes}
    (h : IncompleteFrame maximum here) : here.length ≤ maximum + 3 := by
  rcases h.2 with hshort | ⟨hle, hshort⟩ <;> simp only [headerSize] at hshort <;> omega

/-- A fresh parser accepts exactly its grammar, leftmost first, and loses no
byte.  That the loop terminates is the totality of `feed`. -/
theorem feed_parsed (maximum : Nat) (stream : Bytes) :
    ∃ pieces, Parsed maximum stream pieces ((FrameParser.new maximum).feed stream).1
      ((FrameParser.new maximum).feed stream).2 := by
  have hfeed : (FrameParser.new maximum).feed stream =
      (framesIn ((frameScanner maximum).scan stream).1,
        (FrameParser.new maximum).consumed ((frameScanner maximum).scan stream)) :=
    feed_eq_scan (FrameParser.new maximum) stream
  have hspells := Scanner.scan_spells (S := frameScanner maximum) stream
  have hleftover := classify_wait (Scanner.classify_leftover (S := frameScanner maximum) stream)
  have hdiscarded : ((FrameParser.new maximum).feed stream).2.discardedBytes =
      discardedIn ((frameScanner maximum).scan stream).1 := by
    rw [hfeed]
    exact Nat.zero_add _
  refine ⟨((frameScanner maximum).scan stream).1, ?_, ?_, ?_, hdiscarded, ?_, ?_, ?_, ?_⟩
  · rw [hfeed]
    exact hspells
  · rw [hfeed]
    simp [framesIn, frameOf, Function.comp_def]
  · have hlen := congrArg List.length hspells
    rw [List.length_append, length_flatMap_raw] at hlen
    rw [hdiscarded, hfeed]
    exact hlen
  · intro frame hframe
    rw [hfeed] at hframe
    obtain ⟨raw, hraw, rfl⟩ := List.mem_map.mp hframe
    obtain ⟨hi, lo, body, rfl, hbody, hle⟩ := token_isFrame hraw
    exact ⟨hi, lo, rfl, hbody, hle⟩
  · intro before symbol tag after hsplit more
    exact classify_skip (Scanner.scan_licensed stream hsplit).1 more
  · rw [hfeed]
    exact hleftover
  · rw [hfeed]
    change ((frameScanner maximum).scan stream).2.length ≤ maximum + 3
    rcases hleftover with hnil | hlone | hincomplete
    · rw [hnil]; simp
    · rw [hlone]; simp
    · exact incompleteFrame_length hincomplete

end MeshtasticLab.Gateway
