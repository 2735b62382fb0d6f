import OwlCommon.WorldModel.Frame

/-!
# The aggregator protocols

The sample messages between a sensor and an aggregator (`sensor_aggregator_protocol.cpp`) and the
subscription and sample messages between an aggregator and a solver (`sample_data.cpp`, namespace
`aggregator_solver`). The encoders are `finishMessage` of named pushes; the sensor's sample starts
its count at zero with nothing after the length field, the solver's messages start it at one for
the type byte they push first.

The decoders take the number of bytes the caller received, an `unsigned int`, beside the buffer.
They check the length field against it, and the solver's decoders the type; unlike the world model
decoders, none of them tests the out-of-range flag afterwards. The sample decoders then size the
sense data as `length - reader.cur_index` in `unsigned int` arithmetic and fill that many bytes
while they fit in the buffer.

`SampleData sample;` leaves every field but `sense_data` uninitialised; a sample that fails the
check is modelled with those fields zero (`SampleData.invalid`).
-/

namespace OwlCommon

open Wire BuffReader

/-- `Timestamp`, an `int64_t`. -/
abbrev Timestamp := Int64

/-- `SampleData`: a packet from a transmitter seen by a receiver. -/
structure SampleData where
  /-- The physical layer. -/
  physical_layer : UInt8
  /-- The transmitter. -/
  tx_id : UInt128
  /-- The receiver. -/
  rx_id : UInt128
  /-- When the receiver saw the packet. -/
  rx_timestamp : Timestamp
  /-- The received signal strength, by its bits. -/
  rss : Float32
  /-- The packet's payload. -/
  sense_data : Buffer
  /-- Whether the decoder filled the sample. -/
  valid : Bool
deriving DecidableEq, Repr

/-- The sample a decoder returns when its check fails. -/
def SampleData.invalid : SampleData := ⟨0, ⟨0, 0⟩, ⟨0, 0⟩, ⟨0⟩, ⟨0⟩, [], false⟩

/-- What both `makeSampleMsg` push after their header: the fixed fields, then the sense data when
there is any. -/
def samplePushes (sample : SampleData) : List Push :=
  [pushBackVal sample.physical_layer, pushBackVal sample.tx_id, pushBackVal sample.rx_id,
    pushBackVal sample.rx_timestamp, pushBackVal sample.rss] ++
    if 0 < sample.sense_data.length then [.container sample.sense_data] else []

/-- The fixed fields of a sample, read in order. -/
def readSampleFields : StateM BuffReader (UInt8 × UInt128 × UInt128 × Timestamp × Float32) := do
  let physical_layer ← readPrimitive UInt8
  let tx_id ← readPrimitive UInt128
  let rx_id ← readPrimitive UInt128
  let rx_timestamp ← readPrimitive Timestamp
  let rss ← readPrimitive Float32
  return (physical_layer, tx_id, rx_id, rx_timestamp, rss)

/-- What both `decodeSampleMsg` do once the check passed: the fixed fields, then
`unsigned int left = length - reader.cur_index` zero bytes overwritten while they fit. -/
def readSampleBody (length : UInt32) (reader : BuffReader) : SampleData :=
  let ((physical_layer, tx_id, rx_id, rx_timestamp, rss), reader) := readSampleFields reader
  let left := length - reader.cur_index
  let (sense_data, _) := readPrimitiveContainer UInt8 (List.replicate left.toNat 0) reader
  ⟨physical_layer, tx_id, rx_id, rx_timestamp, rss, sense_data, true⟩

namespace SensorAggregator

/-- `sensor_aggregator::makeHandshakeMsg`. -/
def makeHandshakeMsg : Buffer := WorldModel.makeHandshake "GRAIL sensor protocol"

/-- `sensor_aggregator::makeSampleMsg`. -/
def makeSampleMsg (sample : SampleData) : Buffer := finishMessage 0 [] (samplePushes sample)

/-- `sensor_aggregator::decodeSampleMsg`. -/
def decodeSampleMsg (buff : Buffer) (length : UInt32) : SampleData :=
  if 4 < length.toNat then
    let (entire_length, reader) := readPrimitive UInt32 (init buff)
    if entire_length + 4 = length then readSampleBody length reader else SampleData.invalid
  else SampleData.invalid

end SensorAggregator

namespace AggregatorSolver

/-- `aggregator_solver::MessageID`, an unscoped `enum` read from one byte. -/
structure MessageID where
  /-- The byte on the wire. -/
  val : UInt8
deriving DecidableEq, Repr

namespace MessageID

/-- `aggregator_solver::MessageID::keep_alive`, the byte 0. -/
def keep_alive : MessageID := ⟨0⟩

/-- `aggregator_solver::MessageID::certificate`, the byte 1. -/
def certificate : MessageID := ⟨1⟩

/-- `aggregator_solver::MessageID::ack_certificate`, the byte 2. -/
def ack_certificate : MessageID := ⟨2⟩

/-- `aggregator_solver::MessageID::subscription_request`, the byte 3. -/
def subscription_request : MessageID := ⟨3⟩

/-- `aggregator_solver::MessageID::subscription_response`, the byte 4. -/
def subscription_response : MessageID := ⟨4⟩

/-- `aggregator_solver::MessageID::device_position`, the byte 5. -/
def device_position : MessageID := ⟨5⟩

/-- `aggregator_solver::MessageID::server_sample`, the byte 6. -/
def server_sample : MessageID := ⟨6⟩

/-- `aggregator_solver::MessageID::buffer_overrun`, the byte 7. -/
def buffer_overrun : MessageID := ⟨7⟩

end MessageID

/-- A message type goes over the wire as its byte. -/
instance : Wire MessageID where
  width := 1
  toNat m := m.val.toNat
  ofNat n := ⟨UInt8.ofNat n⟩
  toNat_lt m := m.val.toNat_lt_size
  ofNat_toNat m := congrArg MessageID.mk (Wire.ofNat_toNat m.val)
  toNat_ofNat _ h := UInt8.toNat_ofNat_of_lt h

/-- A message type takes one byte. -/
@[simp] theorem width_messageID : width MessageID = 1 := rfl

/-- A message type's bytes are its byte. -/
@[simp] theorem toBytes_messageID (m : MessageID) : toBytes m = [m.val] := toBytes_uint8 m.val

/-- `aggregator_solver::Transmitter`: a base id and a mask, for a range of transmitters. -/
structure Transmitter where
  /-- The base id. -/
  base_id : UInt128
  /-- The bits of an id that must match the base id. -/
  mask : UInt128
deriving DecidableEq, Repr

/-- `aggregator_solver::Rule`. -/
structure Rule where
  /-- The physical layer. -/
  physical_layer : UInt8
  /-- The transmitters. -/
  txers : List Transmitter
  /-- The update interval, in milliseconds. -/
  update_interval : UInt64
deriving DecidableEq, Repr

/-- `aggregator_solver::Subscription`. -/
abbrev Subscription := List Rule

/-- `aggregator_solver::makeHandshakeMsg`. -/
def makeHandshakeMsg : Buffer := WorldModel.makeHandshake "GRAIL solver protocol"

/-! ## Subscriptions -/

/-- What `makeSubscribeReqMsg` pushes for one rule. -/
def rulePushes (rule : Rule) : List Push :=
  pushBackVal rule.physical_layer :: pushBackVal (UInt32.ofNat rule.txers.length) ::
    ((rule.txers.map fun txer => [pushBackVal txer.base_id, pushBackVal txer.mask]).flatten ++
      [pushBackVal rule.update_interval])

/-- What `makeSubscribeReqMsg` pushes after the type byte. -/
def subscriptionPushes (rules : Subscription) : List Push :=
  pushBackVal (UInt32.ofNat rules.length) :: (rules.map rulePushes).flatten

/-- `aggregator_solver::makeSubscribeReqMsg`: the count starts at one for the type byte. -/
def makeSubscribeReqMsg (rules : Subscription) : Buffer :=
  finishMessage 1 [MessageID.subscription_request.val] (subscriptionPushes rules)

/-- The inner loop body of `decodeSubscribeMsg`. -/
def readTransmitter : StateM BuffReader Transmitter := do
  let base_id ← readPrimitive UInt128
  let mask ← readPrimitive UInt128
  return ⟨base_id, mask⟩

/-- The outer loop body of `decodeSubscribeMsg`. -/
def readRule : StateM BuffReader Rule := do
  let physical_layer ← readPrimitive UInt8
  let num_txers ← readPrimitive UInt32
  let txers ← readN readTransmitter num_txers.toNat
  let update_interval ← readPrimitive UInt64
  return ⟨physical_layer, txers, update_interval⟩

/-- The reads of `decodeSubscribeMsg` after the check. -/
def readSubscription : StateM BuffReader Subscription := do
  let num_rules ← readPrimitive UInt32
  let rules ← readN readRule num_rules.toNat
  return rules

/-- `aggregator_solver::decodeSubscribeMsg`: a request or a response, with no test of the flag. -/
def decodeSubscribeMsg (buff : Buffer) (length : UInt32) : Subscription :=
  if 4 < length.toNat then
    let ((entire_length, msg_type), reader) := WorldModel.readHeader MessageID (init buff)
    if entire_length + 4 = length ∧
        (MessageID.subscription_request = msg_type ∨ MessageID.subscription_response = msg_type) then
      (readSubscription reader).1
    else []
  else []

/-! ## Samples -/

/-- `aggregator_solver::makeSampleMsg`. -/
def makeSampleMsg (sample : SampleData) : Buffer :=
  finishMessage 1 [MessageID.server_sample.val] (samplePushes sample)

/-- `aggregator_solver::decodeSampleMsg`: the sensor's decoder with a type byte after the length. -/
def decodeSampleMsg (buff : Buffer) (length : UInt32) : SampleData :=
  if 4 < length.toNat then
    let ((entire_length, msg_type), reader) := WorldModel.readHeader MessageID (init buff)
    if entire_length + 4 = length ∧ MessageID.server_sample = msg_type then
      readSampleBody length reader
    else SampleData.invalid
  else SampleData.invalid

end AggregatorSolver

end OwlCommon
