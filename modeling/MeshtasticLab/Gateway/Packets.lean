/-
  Gateway/Packets.lean --- the packets exchanged with a node's firmware.

  The Meshtastic message types are generated code outside the repository.  This
  file has the records with the fields that the application reads, and `Protobuf`
  stands for the decoders and encoders of the generated code: what they return
  depends on the bytes only, and nothing else is assumed of them here.
-/
import Mathlib.Data.Rat.Defs

set_option autoImplicit false

namespace MeshtasticLab.Gateway

/-- The port numbers of `portnums_pb2` that the application names. -/
def UNKNOWN_APP : Nat := 0
def TEXT_MESSAGE_APP : Nat := 1
def ROUTING_APP : Nat := 5
def SIMULATOR_APP : Nat := 69

/-- The values of `Routing.Error` that the application names. -/
def ROUTING_ERROR_NONE : Int := 0
def ROUTING_ERROR_RATE_LIMIT_EXCEEDED : Int := 38

/-- `mesh_pb2.Data`. -/
structure Data where
  portnum : Nat := UNKNOWN_APP
  payload : List UInt8 := []
  requestId : Nat := 0
  deriving DecidableEq, Repr

/-- The `payload_variant` of a mesh packet. -/
inductive PayloadVariant where
  | unset
  | decoded (data : Gateway.Data)
  | encrypted (bytes : List UInt8)
  deriving DecidableEq, Repr

/-- `mesh_pb2.MeshPacket`; `other` are the fields that the application never names,
which are copied with the rest. -/
structure MeshPacket where
  from_ : Nat := 0
  to_ : Nat := 0
  id : Nat := 0
  payload : PayloadVariant := .unset
  rxTime : Nat := 0
  wantAck : Bool := false
  hopLimit : Nat := 0
  hopStart : Nat := 0
  rxRssi : Int := 0
  rxSnr : ℚ := 0
  other : List UInt8 := []
  deriving DecidableEq, Repr

/-- `packet.decoded`, which reads as an empty message when another variant is set. -/
def MeshPacket.decoded (packet : MeshPacket) : Data :=
  match packet.payload with
  | .decoded data => data
  | _ => {}

/-- `mesh_pb2.QueueStatus`. -/
structure QueueStatus where
  meshPacketId : Nat
  res : Int
  deriving DecidableEq, Repr

/-- `mesh_pb2.FromRadio`; the other variants carry nothing a run reads. -/
inductive FromRadio where
  | queueStatus (status : QueueStatus)
  | packet (packet : MeshPacket)
  | other
  deriving DecidableEq, Repr

/-- The generated code: `Routing.ParseFromString` with the error reason it finds,
`Compressed.ParseFromString`, `Routing.Error.Name`, the serialized size of a `Data`,
and what a `float` field holds of a number that is assigned to it.  A parser without a
result raised. -/
structure Protobuf where
  parseRouting : List UInt8 → Option Int
  parseCompressed : List UInt8 → Option (Nat × List UInt8)
  routingErrorName : Int → Option String
  dataSize : Data → Nat
  floatField : ℚ → ℚ := id

/-- `mesh_packet_port_number`. -/
def meshPacketPortNumber (pb : Protobuf) (packet : MeshPacket) : Option Nat :=
  match packet.payload with
  | .decoded data =>
      if data.portnum ≠ SIMULATOR_APP then some data.portnum
      else
        match pb.parseCompressed data.payload with
        | none => some SIMULATOR_APP
        | some (portnum, _) => some portnum
  | _ => none

end MeshtasticLab.Gateway
