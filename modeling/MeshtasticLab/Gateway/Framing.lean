/-
  Gateway/Framing.lean --- the incremental frame parser of the Client API stream.

  Embeds `backend/app/gateway/framing.py`: the constants, `Frame`,
  `FrameParser.feed` and `encode_frame`.  The loop of `feed` is translated as it
  stands: search for the magic bytes, drop the prefix, check the length field,
  resynchronise one byte at a time after an oversized length.

  A Python `bytearray` is a `List UInt8` here; deleting a prefix is `List.drop`.
-/
import Mathlib.Data.List.Basic
import Mathlib.Tactic.Ring

set_option autoImplicit false

namespace MeshtasticLab.Gateway

/-- The bytes of a stream or a buffer. -/
abbrev Bytes : Type := List UInt8

/-- First byte of `MAGIC`. -/
def magic0 : UInt8 := 0x94

/-- Second byte of `MAGIC`. -/
def magic1 : UInt8 := 0xc3

/-- `MAGIC`. -/
def magic : Bytes := [magic0, magic1]

/-- `HEADER_SIZE`. -/
def headerSize : Nat := 4

/-- `MAX_PROTOBUF_SIZE`. -/
def maxProtobufSize : Nat := 512

/-- One complete framed protobuf, retaining its exact wire bytes. -/
structure Frame where
  raw : Bytes
  payload : Bytes
  deriving DecidableEq, Repr

/-- The parser object: its buffer, its limit and its two counters. -/
structure FrameParser where
  buffer : Bytes
  maximumPayloadSize : Nat
  discardedBytes : Nat
  oversizedFrames : Nat
  deriving DecidableEq, Repr

/-- `FrameParser.__init__`. -/
def FrameParser.new (maximumPayloadSize : Nat) : FrameParser where
  buffer := []
  maximumPayloadSize := maximumPayloadSize
  discardedBytes := 0
  oversizedFrames := 0

/-- The `buffered_bytes` property. -/
def FrameParser.bufferedBytes (p : FrameParser) : Nat := p.buffer.length

/-- `buffer.find(MAGIC)`: the first position at which the magic bytes occur. -/
def findMagic : Bytes → Option Nat
  | [] => none
  | [_] => none
  | a :: b :: rest =>
      if a = magic0 ∧ b = magic1 then some 0
      else (findMagic (b :: rest)).map (· + 1)

/-- `int.from_bytes(bytes, byteorder="big")`. -/
def fromBytesBig (bytes : Bytes) : Nat :=
  bytes.foldl (fun value byte => 256 * value + byte.toNat) 0

/-- `value.to_bytes(2, byteorder="big")` for a value below `2 ^ 16`. -/
def toBytesBig2 (value : Nat) : Bytes :=
  [UInt8.ofNat (value / 256), UInt8.ofNat (value % 256)]

/-- The `while` loop of `feed`, with the frames emitted so far. -/
def FrameParser.feedLoop (p : FrameParser) (frames : List Frame) :
    List Frame × FrameParser :=
  if p.buffer = [] then (frames, p)
  else
    match findMagic p.buffer with
    | none =>
        let keep := if p.buffer.getLast? = some magic0 then 1 else 0
        let discarded := p.buffer.length - keep
        (frames,
          { p with
            discardedBytes := p.discardedBytes + discarded
            buffer := if keep = 1 then p.buffer.drop (p.buffer.length - 1) else [] })
    | some start =>
        let buffer := p.buffer.drop start
        let discardedBytes := p.discardedBytes + start
        if buffer.length < headerSize then
          (frames, { p with buffer, discardedBytes })
        else
          let payloadSize := fromBytesBig ((buffer.drop 2).take 2)
          if p.maximumPayloadSize < payloadSize then
            feedLoop
              { p with
                buffer := buffer.drop 1
                discardedBytes := discardedBytes + 1
                oversizedFrames := p.oversizedFrames + 1 } frames
          else
            let frameSize := headerSize + payloadSize
            if buffer.length < frameSize then
              (frames, { p with buffer, discardedBytes })
            else
              let raw := buffer.take frameSize
              feedLoop { p with buffer := buffer.drop frameSize, discardedBytes }
                (frames ++ [{ raw, payload := raw.drop headerSize }])
termination_by p.buffer.length
decreasing_by
  -- both recursive calls delete at least one byte of a buffer that has a header
  all_goals
    simp +zetaDelta only [headerSize, List.length_drop] at *
    omega

/-- `FrameParser.feed`. -/
def FrameParser.feed (p : FrameParser) (data : Bytes) : List Frame × FrameParser :=
  feedLoop { p with buffer := p.buffer ++ data } []

/-- Feed several chunks one after another, collecting the frames of each call. -/
def FrameParser.feedAll (p : FrameParser) : List Bytes → List Frame × FrameParser
  | [] => ([], p)
  | chunk :: rest =>
      let first := p.feed chunk
      let more := feedAll first.2 rest
      (first.1 ++ more.1, more.2)

/-- `encode_frame`; `none` is the `ValueError` of an oversized payload. -/
def encodeFrame (payload : Bytes) : Option Bytes :=
  if maxProtobufSize < payload.length then none
  else some (magic ++ toBytesBig2 payload.length ++ payload)

end MeshtasticLab.Gateway
