/-
  Metrics/Airtime.lean --- LoRa airtime of a packet.

  Embeds `backend/app/metrics/airtime.py`, with its floating-point arithmetic
  read as exact.
-/
import MeshtasticLab.Gateway.Packets
import MeshtasticLab.Models.Scenario
import Mathlib.Data.Rat.Floor

set_option autoImplicit false

namespace MeshtasticLab.Metrics

open MeshtasticLab.Gateway MeshtasticLab.Models

def MESH_PACKET_HEADER_BYTES : Nat := 16
def MAX_RETRANSMISSION_CONTENTION_SLOTS : Nat := 2 ^ 8 + 2 * 8 + 2 ^ 5
def RETRANSMISSION_PROCESSING_TIME_MS : Nat := 4500
def SLOT_FIXED_OVERHEAD_MS : ℚ := 76 / 10

/-- `ModemParameters`. -/
structure ModemParameters where
  bandwidthKhz : ℚ
  spreadingFactor : Nat
  codingRate : Nat
  deriving DecidableEq, Repr

/-- `MODEM_PARAMETERS`. -/
def MODEM_PARAMETERS : ModemPreset → ModemParameters
  | .shortTurbo => ⟨500, 7, 5⟩
  | .shortFast => ⟨250, 7, 5⟩
  | .shortSlow => ⟨250, 8, 5⟩
  | .mediumFast => ⟨250, 9, 5⟩
  | .mediumSlow => ⟨250, 10, 5⟩
  | .longTurbo => ⟨500, 11, 8⟩
  | .longModerate => ⟨125, 11, 8⟩
  | .longSlow => ⟨125, 12, 8⟩
  | .longFast => ⟨250, 11, 5⟩

/-- `airtime_ms`, with its default of sixteen preamble symbols. -/
def airtimeMs (payloadLength : Nat) (preset : ModemPreset) : Nat :=
  let params := MODEM_PARAMETERS preset
  let bandwidthHz := params.bandwidthKhz * 1000
  let symbolTime : ℚ := 2 ^ params.spreadingFactor / bandwidthHz
  let lowDataRateOptimization : Nat := if 16 / 1000 < symbolTime then 1 else 0
  let preambleTime := (16 + 17 / 4) * symbolTime
  let numerator : ℚ := 8 * payloadLength - 4 * params.spreadingFactor + 28 + 16
  let denominator : ℚ := 4 * (params.spreadingFactor - 2 * lowDataRateOptimization)
  let payloadSymbols : ℚ := 8 + max ⌈numerator / denominator * params.codingRate⌉ 0
  ⌊(preambleTime + payloadSymbols * symbolTime) * 1000⌋.toNat

/-- `maximum_retransmission_delay_ms`. -/
def maximumRetransmissionDelayMs (payloadLength : Nat) (preset : ModemPreset) : Nat :=
  let params := MODEM_PARAMETERS preset
  let symbolTimeMs : ℚ := 2 ^ params.spreadingFactor / params.bandwidthKhz
  let slotTimeMs := (5 / 2) * symbolTimeMs + SLOT_FIXED_OVERHEAD_MS
  ⌈2 * (airtimeMs payloadLength preset : ℚ)
    + MAX_RETRANSMISSION_CONTENTION_SLOTS * slotTimeMs
    + RETRANSMISSION_PROCESSING_TIME_MS⌉.toNat

/-- `mesh_packet_payload_length`; `none` when the wrapped packet does not parse. -/
def meshPacketPayloadLength (pb : Protobuf) (packet : MeshPacket) : Option Nat :=
  match packet.payload with
  | .encrypted bytes => some (bytes.length + MESH_PACKET_HEADER_BYTES)
  | .unset => some MESH_PACKET_HEADER_BYTES
  | .decoded data =>
      if data.portnum ≠ SIMULATOR_APP then some (pb.dataSize data + MESH_PACKET_HEADER_BYTES)
      else
        match pb.parseCompressed data.payload with
        | none => none
        | some (portnum, bytes) =>
            if portnum = UNKNOWN_APP then some (bytes.length + MESH_PACKET_HEADER_BYTES)
            else
              some (pb.dataSize { data with portnum := portnum, payload := bytes }
                + MESH_PACKET_HEADER_BYTES)

end MeshtasticLab.Metrics
