/-
  Gateway/NoisyStream.lean --- frames between stretches of noise.

  The encoder and the parser are inverse to each other on a noisy line: whatever
  bytes stand between the encoded frames, as long as they do not spell the magic
  bytes themselves, the parser emits the encoded frames and drops the rest.  The
  argument is one piece of the scan for each stretch: a search over noise stops
  exactly at the frame behind it, also when the noise ends in a first magic byte.
-/
import MeshtasticLab.Gateway.FramingGrammar

set_option autoImplicit false

namespace MeshtasticLab.Gateway

open MeshtasticLab.Foundation

/-! ## Noise -/

/-- Bytes in which the magic bytes do not occur. -/
def Clean (bytes : Bytes) : Prop := ¬ magic <:+: bytes

instance (bytes : Bytes) : Decidable (Clean bytes) :=
  inferInstanceAs (Decidable (¬ _))

theorem Clean.tail {byte : UInt8} {rest : Bytes} (h : Clean (byte :: rest)) : Clean rest :=
  fun hrest => h (hrest.trans (List.suffix_cons byte rest).isInfix)

theorem Clean.head {a b : UInt8} {rest : Bytes} (h : Clean (a :: b :: rest)) :
    ¬ (a = magic0 ∧ b = magic1) := by
  rintro ⟨rfl, rfl⟩
  exact h ⟨[], rest, rfl⟩

/-- A search over noise fails. -/
theorem findMagic_of_clean {bytes : Bytes} (h : Clean bytes) : findMagic bytes = none := by
  induction bytes with
  | nil => rfl
  | cons a tail ih =>
      cases tail with
      | nil => rfl
      | cons b rest => rw [findMagic, if_neg h.head, ih h.tail, Option.map_none]

/-- A search over noise stops at the magic bytes behind it.  A final first magic
byte of the noise does not pair with the byte that follows. -/
theorem findMagic_clean_append {bytes : Bytes} (h : Clean bytes) (rest : Bytes) :
    findMagic (bytes ++ magic0 :: magic1 :: rest) = some bytes.length := by
  induction bytes with
  | nil => simp [findMagic]
  | cons a tail ih =>
      have hrest := ih h.tail
      cases tail with
      | nil =>
          have hne : ¬ (a = magic0 ∧ magic0 = magic1) := by simp [magic0, magic1]
          rw [List.cons_append, List.nil_append] at *
          rw [findMagic, if_neg hne, hrest]
          rfl
      | cons b tail =>
          simp only [List.cons_append] at hrest ⊢
          rw [findMagic, if_neg h.head, hrest]
          rfl

/-! ## One encoded frame -/

/-- The two length bytes carry every admissible length. -/
theorem fromBytesBig_toBytesBig2 {n : Nat} (h : n < 65536) :
    fromBytesBig (toBytesBig2 n) = n := by
  have hhi : n / 256 % 256 = n / 256 := Nat.mod_eq_of_lt (by omega)
  simp only [fromBytesBig, toBytesBig2, List.foldl_cons, List.foldl_nil, UInt8.toNat_ofNat',
    Nat.mul_zero, Nat.zero_add]
  omega

theorem encodeFrame_of_le {payload : Bytes} (h : payload.length ≤ maxProtobufSize) :
    encodeFrame payload = some (magic ++ toBytesBig2 payload.length ++ payload) := by
  rw [encodeFrame, if_neg (Nat.not_lt.mpr h)]

theorem length_of_encodeFrame {payload raw : Bytes} (h : encodeFrame payload = some raw) :
    payload.length ≤ maxProtobufSize := by
  rw [encodeFrame] at h
  split at h
  · simp at h
  · omega

/-- The parser accepts an encoded frame whatever follows it. -/
theorem classify_encodeFrame {payload raw : Bytes} (h : encodeFrame payload = some raw)
    (rest : Bytes) :
    classify maxProtobufSize (raw ++ rest) = .emit raw.length := by
  have hle := length_of_encodeFrame h
  rw [encodeFrame_of_le hle, Option.some.injEq] at h
  have hlt : payload.length < 65536 := by simp only [maxProtobufSize] at hle; omega
  have hlength : fromBytesBig [UInt8.ofNat (payload.length / 256),
      UInt8.ofNat (payload.length % 256)] = payload.length :=
    fromBytesBig_toBytesBig2 hlt
  subst h
  simp only [magic, toBytesBig2, List.cons_append, List.nil_append, classify_header, hlength]
  rw [if_neg (Nat.not_lt.mpr hle), if_neg (by rw [List.length_append]; omega)]
  simp only [List.length_cons, headerSize]
  congr 1
  omega

theorem frameOf_encodeFrame {payload raw : Bytes} (h : encodeFrame payload = some raw) :
    frameOf raw = { raw, payload } := by
  rw [encodeFrame_of_le (length_of_encodeFrame h), Option.some.injEq] at h
  subst h
  rfl

/-- The scan of a stretch of noise and the frame behind it. -/
theorem scan_clean_encodeFrame {bytes payload raw : Bytes} (hclean : Clean bytes)
    (h : encodeFrame payload = some raw) (rest : Bytes) :
    (frameScanner maxProtobufSize).scan (bytes ++ raw ++ rest) =
      (noise bytes ++ .token raw :: ((frameScanner maxProtobufSize).scan rest).1,
        ((frameScanner maxProtobufSize).scan rest).2) := by
  have hraw := h
  rw [encodeFrame_of_le (length_of_encodeFrame h), Option.some.injEq] at hraw
  have hfind : findMagic (bytes ++ (raw ++ rest)) = some bytes.length := by
    rw [← hraw]
    exact findMagic_clean_append hclean _
  have hemit : (frameScanner maxProtobufSize).classify (raw ++ rest) = .emit raw.length :=
    classify_encodeFrame h rest
  rw [List.append_assoc, scan_of_findMagic_some _ hfind, List.take_left, List.drop_left,
    Scanner.scan_emit hemit, List.take_left, List.drop_left]

/-! ## The noisy stream -/

/-- The bytes on the line: each payload is encoded behind its noise, and more
noise trails.  `none` is the `ValueError` of `encode_frame`. -/
def noisyStream (trailing : Bytes) : List (Bytes × Bytes) → Option Bytes
  | [] => some trailing
  | (bytes, payload) :: rest => do
      let raw ← encodeFrame payload
      let more ← noisyStream trailing rest
      some (bytes ++ raw ++ more)

/-- The number of noise bytes on the line. -/
def noiseBytes (trailing : Bytes) (segments : List (Bytes × Bytes)) : Nat :=
  (segments.map fun segment => segment.1.length).sum + trailing.length

/-- The scan of a noisy stream emits its frames and drops its noise. -/
theorem scan_noisyStream {trailing : Bytes} (htrailing : Clean trailing)
    {segments : List (Bytes × Bytes)}
    (hclean : ∀ segment ∈ segments, Clean segment.1)
    (hsize : ∀ segment ∈ segments, segment.2.length ≤ maxProtobufSize) :
    ∃ stream, noisyStream trailing segments = some stream ∧
      (framesIn ((frameScanner maxProtobufSize).scan stream).1).map
          (fun frame => (some frame.raw, frame.payload)) =
        segments.map (fun segment => (encodeFrame segment.2, segment.2)) ∧
      discardedIn ((frameScanner maxProtobufSize).scan stream).1 + keptAfter trailing =
        noiseBytes trailing segments ∧
      oversizedIn ((frameScanner maxProtobufSize).scan stream).1 = 0 ∧
      ((frameScanner maxProtobufSize).scan stream).2 =
        trailing.drop (trailing.length - keptAfter trailing) := by
  induction segments with
  | nil =>
      have hkept : keptAfter trailing ≤ trailing.length := by
        unfold keptAfter
        split
        · rename_i hlast
          exact List.length_pos_iff.mpr (by rintro rfl; simp at hlast)
        · exact Nat.zero_le _
      refine ⟨trailing, rfl, ?_⟩
      rw [scan_of_findMagic_none _ (findMagic_of_clean htrailing)]
      simp only [framesIn_noise, discardedIn_noise, oversizedIn_noise, List.map_nil,
        noiseBytes, List.sum_nil, List.length_take, true_and, and_true]
      omega
  | cons segment rest ih =>
      obtain ⟨bytes, payload⟩ := segment
      have hfirst : Clean bytes := hclean _ List.mem_cons_self
      have hencode := encodeFrame_of_le (hsize _ List.mem_cons_self)
      obtain ⟨stream, hstream, hframes, hdiscarded, hoversized, hleft⟩ :=
        ih (fun s hs => hclean s (List.mem_cons_of_mem _ hs))
          (fun s hs => hsize s (List.mem_cons_of_mem _ hs))
      generalize hraw : magic ++ toBytesBig2 payload.length ++ payload = raw at hencode
      refine ⟨bytes ++ raw ++ stream, by simp [noisyStream, hencode, hstream], ?_⟩
      rw [scan_clean_encodeFrame hfirst hencode]
      have htoken : ∀ pieces : List (Piece UInt8 Bool),
          framesIn (.token raw :: pieces) = frameOf raw :: framesIn pieces ∧
          discardedIn (.token raw :: pieces) = discardedIn pieces ∧
          oversizedIn (.token raw :: pieces) = oversizedIn pieces := by
        intro pieces
        simp [framesIn, discardedIn, oversizedIn, Piece.token?, Piece.tag?]
      simp only [framesIn_append, framesIn_noise, discardedIn_append, discardedIn_noise,
        oversizedIn_append, oversizedIn_noise, htoken, List.nil_append, List.map_cons]
      refine ⟨?_, ?_, by rw [hoversized], hleft⟩
      · rw [hframes, frameOf_encodeFrame hencode, hencode]
      · simp only [noiseBytes, List.map_cons, List.sum_cons] at hdiscarded ⊢
        omega

/-- Frames survive noise: a fresh default parser fed with encoded frames between
stretches of noise, cut into reads anywhere, emits exactly the encoded frames
with their payloads, discards exactly the noise (a final first magic byte of the
trailing noise stays buffered), and counts no oversized frame. -/
theorem feedAll_noisyStream (trailing : Bytes) (segments : List (Bytes × Bytes))
    (htrailing : Clean trailing)
    (hclean : ∀ segment ∈ segments, Clean segment.1)
    (hsize : ∀ segment ∈ segments, segment.2.length ≤ maxProtobufSize) :
    ∃ stream frames, noisyStream trailing segments = some stream ∧
      frames.map (fun frame => (some frame.raw, frame.payload)) =
        segments.map (fun segment => (encodeFrame segment.2, segment.2)) ∧
      ∀ chunks : List Bytes, chunks.flatten = stream →
        (FrameParser.new maxProtobufSize).feedAll chunks =
          (frames,
            { buffer := if trailing.getLast? = some magic0 then [magic0] else []
              maximumPayloadSize := maxProtobufSize
              discardedBytes := noiseBytes trailing segments -
                (if trailing.getLast? = some magic0 then 1 else 0)
              oversizedFrames := 0 }) := by
  obtain ⟨stream, hstream, hframes, hdiscarded, hoversized, hleft⟩ :=
    scan_noisyStream htrailing hclean hsize
  refine ⟨stream, _, hstream, hframes, ?_⟩
  rintro chunks rfl
  have hbuffer : trailing.drop (trailing.length - keptAfter trailing) =
      if trailing.getLast? = some magic0 then [magic0] else [] := by
    unfold keptAfter
    split
    · rename_i hlast
      obtain ⟨front, rfl⟩ := List.getLast?_eq_some_iff.mp hlast
      simp
    · simp
  have hcount : discardedIn ((frameScanner maxProtobufSize).scan chunks.flatten).1 =
      noiseBytes trailing segments -
        (if trailing.getLast? = some magic0 then 1 else 0) := by
    rw [← hdiscarded, keptAfter]
    omega
  rw [feedAll_eq_feed_flatten, feed_eq_scan]
  simp only [FrameParser.new, FrameParser.consumed, List.nil_append, Nat.zero_add, hleft,
    hbuffer, hcount, hoversized]

/-- Noise that ends in a first magic byte, a payload that looks like a frame, and
trailing noise that ends in a first magic byte. -/
theorem feedAll_noisyStream_adjoining :
    ∃ stream frames, noisyStream [7, 0x94] [([0xc3, 0x94], [0x94, 0xc3, 0, 0])] = some stream ∧
      frames.map (fun frame => (some frame.raw, frame.payload)) =
        [([0xc3, 0x94], [0x94, 0xc3, 0, 0])].map
          (fun segment : Bytes × Bytes => (encodeFrame segment.2, segment.2)) ∧
      ∀ chunks : List Bytes, chunks.flatten = stream →
        (FrameParser.new maxProtobufSize).feedAll chunks =
          (frames,
            { buffer := [magic0]
              maximumPayloadSize := maxProtobufSize
              discardedBytes := 3
              oversizedFrames := 0 }) :=
  feedAll_noisyStream [7, 0x94] [([0xc3, 0x94], [0x94, 0xc3, 0, 0])] (by decide)
    (by decide) (by decide)

end MeshtasticLab.Gateway
