import OwlCommon.WorldModel.Frame
import OwlCommon.NetBuffer.Host

/-!
# The client face of the world model protocol

The messages between a client and the world model (`world_model_protocol.{hpp,cpp}`, namespace
`world_model::client`). Every encoder is `finishMessage` of its pushes, the message type first;
the pushes after the type are named (`requestPushes`, ...) so that the soundness statements can
speak of them. Most decoders are `decodeFrame` of their payload's reads, written as a
`StateM BuffReader` block in the order of the source's reads. `decodeSnapshotRequest` returns the
ticket it read even when a later read went out of range, and the ticket and URI search decoders
return what they read without looking at the flag; these three keep their own bodies over
`readFrame`.

Three decoders reuse another by patching byte 4 of the caller's buffer (`decodeRangeRequest`,
`decodeStreamRequest`, `decodeOriginAliasMsg`); the patched buffer is returned beside the result.
`decodeOriginPreference` loops while the cursor is short of the end, which need not terminate:
it is modelled with fuel, `none` meaning that the loop was still running when the fuel ran out,
and with the order in which the two reads of a pair are evaluated as a parameter, since C++
leaves the order of a call's arguments unspecified.
-/

namespace OwlCommon.WorldModel

open Wire BuffReader

/-- `grail_time`: milliseconds since 1970, an `int64_t`. -/
abbrev GrailTime := Int64

/-- `URI`: a `std::u16string`. -/
abbrev URI := U16String

/-- `AliasedAttribute`: an attribute with its name and origin replaced by aliases. -/
structure AliasedAttribute where
  /-- The alias of the attribute's name. -/
  name_alias : UInt32
  /-- When the value was created. -/
  creation_date : GrailTime
  /-- When the value expired, or zero. -/
  expiration_date : GrailTime
  /-- The alias of the attribute's origin. -/
  origin_alias : UInt32
  /-- The value. -/
  data : Buffer
deriving DecidableEq, Repr

/-- `AliasedWorldData`: an object and some of its aliased attributes. -/
structure AliasedWorldData where
  /-- The object's URI. -/
  object_uri : URI
  /-- Its attributes. -/
  attributes : List AliasedAttribute
deriving DecidableEq, Repr, Inhabited

namespace Client

/-- `client::MessageID`, an `enum class` over `uint8_t`: every byte is one. -/
structure MessageID where
  /-- The byte on the wire. -/
  val : UInt8
deriving DecidableEq, Repr

namespace MessageID

/-- `client::MessageID::keep_alive`, the byte 0. -/
def keep_alive : MessageID := ⟨0⟩

/-- `client::MessageID::snapshot_request`, the byte 1. -/
def snapshot_request : MessageID := ⟨1⟩

/-- `client::MessageID::range_request`, the byte 2. -/
def range_request : MessageID := ⟨2⟩

/-- `client::MessageID::stream_request`, the byte 3. -/
def stream_request : MessageID := ⟨3⟩

/-- `client::MessageID::attribute_alias`, the byte 4. -/
def attribute_alias : MessageID := ⟨4⟩

/-- `client::MessageID::origin_alias`, the byte 5. -/
def origin_alias : MessageID := ⟨5⟩

/-- `client::MessageID::request_complete`, the byte 6. -/
def request_complete : MessageID := ⟨6⟩

/-- `client::MessageID::cancel_request`, the byte 7. -/
def cancel_request : MessageID := ⟨7⟩

/-- `client::MessageID::data_response`, the byte 8. -/
def data_response : MessageID := ⟨8⟩

/-- `client::MessageID::uri_search`, the byte 9. -/
def uri_search : MessageID := ⟨9⟩

/-- `client::MessageID::uri_response`, the byte 10. -/
def uri_response : MessageID := ⟨10⟩

/-- `client::MessageID::origin_preference`, the byte 11. -/
def origin_preference : MessageID := ⟨11⟩

end MessageID

/-- A message type goes over the wire as its byte. -/
instance : Wire MessageID where
  width := 1
  toNat m := m.val.toNat
  ofNat n := ⟨UInt8.ofNat n⟩
  toNat_lt m := m.val.toNat_lt_size
  ofNat_toNat m := congrArg MessageID.mk (Wire.ofNat_toNat m.val)
  toNat_ofNat _ h := UInt8.toNat_ofNat_of_lt h

/-- A message type takes one byte. -/
@[simp] theorem width_messageID : width MessageID = 1 := rfl

/-- Stored as its one `uint8_t`. -/
instance : Layout MessageID := ⟨[1]⟩

/-- A message type's bytes are its byte. -/
@[simp] theorem toBytes_messageID (m : MessageID) : toBytes m = [m.val] := toBytes_uint8 m.val

/-- `client::AliasType`: an alias and the string it stands for. -/
structure AliasType where
  /-- The alias. -/
  «alias» : UInt32
  /-- The string. -/
  type : U16String
deriving DecidableEq, Repr

/-- `client::Request`, the payload of the snapshot, range and stream requests. -/
structure Request where
  /-- The object URI, possibly a regular expression. -/
  object_uri : URI
  /-- The attribute patterns. -/
  attributes : List URI
  /-- The start time. -/
  start : GrailTime
  /-- The stop time, or the update period of a stream. -/
  stop_period : GrailTime
deriving DecidableEq, Repr

/-- `client::Request()`, value-initialised: empty strings and zero times. -/
instance : Inhabited Request := ⟨⟨[], [], ⟨0⟩, ⟨0⟩⟩⟩

/-- A `client::Request` that is default-initialised (`client::Request request;`,
`Request empty;`): empty strings, and times nothing has written. C++ leaves those times
indeterminate; the model takes the values they hold, `(start, stop_period)`, as given by the
environment, so that what is proved of a decoder holds whatever they are. -/
def Request.uninitialised (times : GrailTime × GrailTime) : Request := ⟨[], [], times.1, times.2⟩

/-! ## Handshake and keep-alive -/

/-- `client::makeHandshakeMsg`. -/
def makeHandshakeMsg : Buffer := makeHandshake "GRAIL client protocol"

/-- `client::makeKeepAlive`: the length one, then the type. The length is pushed before the type's
byte is added to it and is never written again. -/
def makeKeepAlive : Buffer := toBytes (1 : UInt32) ++ toBytes MessageID.keep_alive

/-! ## Requests -/

/-- What `makeSnapshotRequest` pushes after the message type. -/
def requestPushes (request : Request) (ticket : UInt32) : List Push :=
  pushBackVal ticket :: .sizedUTF16 request.object_uri ::
    pushBackVal (UInt32.ofNat request.attributes.length) ::
      ((request.attributes.map fun attr => [.sizedUTF16 attr]).flatten ++
        [pushBackVal request.start, pushBackVal request.stop_period])

/-- `client::makeSnapshotRequest`. -/
def makeSnapshotRequest (request : Request) (ticket : UInt32) : Buffer :=
  finishMessage 0 [] (pushBackVal MessageID.snapshot_request :: requestPushes request ticket)

/-- `client::makeRangeRequest`: a snapshot request with byte 4 set to `range_request`. -/
def makeRangeRequest (request : Request) (ticket : UInt32) : Buffer :=
  (makeSnapshotRequest request ticket).set 4 MessageID.range_request.val

/-- `client::makeStreamRequest`: a snapshot request with byte 4 set to `stream_request`. -/
def makeStreamRequest (request : Request) (ticket : UInt32) : Buffer :=
  (makeSnapshotRequest request ticket).set 4 MessageID.stream_request.val

/-- The reads of `decodeSnapshotRequest` after the check. -/
def readRequest : StateM BuffReader (Request × UInt32) := do
  let ticket ← readPrimitive UInt32
  let object_uri ← readSizedUTF16
  let total_attributes ← readPrimitive UInt32
  let attributes ← readN readSizedUTF16 total_attributes.toNat
  let start ← readPrimitive GrailTime
  let stop_period ← readPrimitive GrailTime
  return (⟨object_uri, attributes, start, stop_period⟩, ticket)

/-- `client::decodeSnapshotRequest`, `times` being what the uninitialised times of its local
`request` hold. On an out-of-range read it returns `Request()` with the ticket it read; when the
check fails, that `request` with the ticket zero. -/
def decodeSnapshotRequest (times : GrailTime × GrailTime) (buff : Buffer) : Request × UInt32 :=
  let ((request, ticket), reader) :=
    readFrame MessageID.snapshot_request readRequest (Request.uninitialised times, 0) buff
  if reader.out_of_range then (default, ticket) else (request, ticket)

/-- `decodeRangeRequest` and `decodeStreamRequest`, for the type `msg_type`: when the buffer has
five bytes and byte 4 is `msg_type`, patch it to `snapshot_request` and decode the snapshot request;
otherwise return a default-initialised `empty` with the ticket zero. The buffer, patched or not, is
returned too. `times` is what the uninitialised times of the request returned hold: one call
returns at most one such request. -/
def decodePatchedRequest (msg_type : MessageID) (times : GrailTime × GrailTime) (buff : Buffer) :
    (Request × UInt32) × Buffer :=
  if 5 ≤ buff.length ∧ buff.getD 4 0 = msg_type.val then
    let buff := buff.set 4 MessageID.snapshot_request.val
    (decodeSnapshotRequest times buff, buff)
  else ((Request.uninitialised times, 0), buff)

/-- `client::decodeRangeRequest`. -/
def decodeRangeRequest (times : GrailTime × GrailTime) (buff : Buffer) :
    (Request × UInt32) × Buffer :=
  decodePatchedRequest MessageID.range_request times buff

/-- `client::decodeStreamRequest`. -/
def decodeStreamRequest (times : GrailTime × GrailTime) (buff : Buffer) :
    (Request × UInt32) × Buffer :=
  decodePatchedRequest MessageID.stream_request times buff

/-! ## Aliases -/

/-- What `makeAttrAliasMsg` pushes after the message type. -/
def aliasPushes (aliases : List AliasType) : List Push :=
  pushBackVal (UInt32.ofNat aliases.length) ::
    (aliases.map fun a => [pushBackVal a.«alias», .sizedUTF16 a.type]).flatten

/-- `client::makeAttrAliasMsg`. -/
def makeAttrAliasMsg (attribute_aliases : List AliasType) : Buffer :=
  finishMessage 0 [] (pushBackVal MessageID.attribute_alias :: aliasPushes attribute_aliases)

/-- `client::makeOriginAliasMsg`: an attribute alias message with byte 4 set to `origin_alias`. -/
def makeOriginAliasMsg (origin_aliases : List AliasType) : Buffer :=
  (makeAttrAliasMsg origin_aliases).set 4 MessageID.origin_alias.val

/-- The loop body of `decodeAttrAliasMsg`: an alias, then its string. -/
def readAliasType : StateM BuffReader AliasType := do
  let a ← readPrimitive UInt32
  let type ← readSizedUTF16
  return ⟨a, type⟩

/-- The reads of `decodeAttrAliasMsg` after the check. -/
def readAliases : StateM BuffReader (List AliasType) := do
  let total_attributes ← readPrimitive UInt32
  let aliases ← readN readAliasType total_attributes.toNat
  return aliases

/-- `client::decodeAttrAliasMsg`. -/
def decodeAttrAliasMsg (buff : Buffer) : List AliasType :=
  decodeFrame MessageID.attribute_alias readAliases [] buff

/-- `client::decodeOriginAliasMsg`: patches byte 4 to `attribute_alias` and decodes the attribute
alias message; returns the patched buffer too. -/
def decodeOriginAliasMsg (buff : Buffer) : List AliasType × Buffer :=
  if 5 < buff.length ∧ buff.getD 4 0 = MessageID.origin_alias.val then
    let buff := buff.set 4 MessageID.attribute_alias.val
    (decodeAttrAliasMsg buff, buff)
  else ([], buff)

/-! ## Request completion and cancellation -/

/-- `makeRequestComplete` and `makeCancelRequest`: the length five, the type, the ticket. -/
def makeTicketMsg (msg_type : MessageID) (ticket_number : UInt32) : Buffer :=
  toBytes (5 : UInt32) ++ toBytes msg_type ++ toBytes ticket_number

/-- `client::makeRequestComplete`. -/
def makeRequestComplete (ticket_number : UInt32) : Buffer :=
  makeTicketMsg MessageID.request_complete ticket_number

/-- `client::makeCancelRequest`. -/
def makeCancelRequest (ticket_number : UInt32) : Buffer :=
  makeTicketMsg MessageID.cancel_request ticket_number

/-- `decodeRequestComplete` and `decodeCancelRequest`: after the check, the ticket as read (zero if
it is not there); zero when the check fails. -/
def decodeTicketMsg (expected : MessageID) (buff : Buffer) : UInt32 :=
  (readFrame expected (readPrimitive UInt32) 0 buff).1

/-- `client::decodeRequestComplete`. -/
def decodeRequestComplete (buff : Buffer) : UInt32 := decodeTicketMsg MessageID.request_complete buff

/-- `client::decodeCancelRequest`. -/
def decodeCancelRequest (buff : Buffer) : UInt32 := decodeTicketMsg MessageID.cancel_request buff

/-! ## Data -/

/-- What `makeDataMessage` pushes for one attribute. -/
def attributePushes (attr : AliasedAttribute) : List Push :=
  [pushBackVal attr.name_alias, pushBackVal attr.creation_date, pushBackVal attr.expiration_date,
    pushBackVal attr.origin_alias, .sizedContainer attr.data]

/-- What `makeDataMessage` pushes after the message type. -/
def dataPushes (wd : AliasedWorldData) (ticket : UInt32) : List Push :=
  [.sizedUTF16 wd.object_uri, pushBackVal ticket, pushBackVal (UInt32.ofNat wd.attributes.length)] ++
    (wd.attributes.map attributePushes).flatten

/-- `client::makeDataMessage`. -/
def makeDataMessage (wd : AliasedWorldData) (ticket : UInt32) : Buffer :=
  finishMessage 0 [] (pushBackVal MessageID.data_response :: dataPushes wd ticket)

/-- The loop body of `decodeDataMessage`: one attribute. -/
def readAliasedAttribute : StateM BuffReader AliasedAttribute := do
  let name_alias ← readPrimitive UInt32
  let creation_date ← readPrimitive GrailTime
  let expiration_date ← readPrimitive GrailTime
  let origin_alias ← readPrimitive UInt32
  let data ← readSizedVector UInt8
  return ⟨name_alias, creation_date, expiration_date, origin_alias, data⟩

/-- The reads of `decodeDataMessage` after the check. -/
def readWorldData : StateM BuffReader (AliasedWorldData × UInt32) := do
  let object_uri ← readSizedUTF16
  let ticket_number ← readPrimitive UInt32
  let total_attributes ← readPrimitive UInt32
  let attributes ← readN readAliasedAttribute total_attributes.toNat
  return (⟨object_uri, attributes⟩, ticket_number)

/-- `client::decodeDataMessage`. -/
def decodeDataMessage (buff : Buffer) : AliasedWorldData × UInt32 :=
  decodeFrame MessageID.data_response readWorldData (default, 0) buff

/-! ## URI search -/

/-- `client::makeURISearch`. -/
def makeURISearch (uri : URI) : Buffer :=
  finishMessage 0 [] [pushBackVal MessageID.uri_search, .utf16 uri]

/-- `client::decodeURISearch`: the rest of the frame, in whole code units. -/
def decodeURISearch (buff : Buffer) : URI :=
  (readFrame MessageID.uri_search readTailUTF16 [] buff).1

/-- `client::makeURISearchResponse`: the URIs as sized strings, with no count before them. -/
def makeURISearchResponse (uris : List URI) : Buffer :=
  finishMessage 0 [] (pushBackVal MessageID.uri_response :: uris.map .sizedUTF16)

/-- The reads of `decodeURISearchResponse` after the check: a `uint32_t` count, then that many
sized strings. -/
def readURIs : StateM BuffReader (List URI) := do
  let total_uris ← readPrimitive UInt32
  let uris ← readN readSizedUTF16 total_uris.toNat
  return uris

/-- `client::decodeURISearchResponse`. -/
def decodeURISearchResponse (buff : Buffer) : List URI :=
  decodeFrame MessageID.uri_response readURIs [] buff

/-! ## Origin preferences -/

/-- What `makeOriginPreference` pushes for one pair: the origin as a sized string, then its
weight. -/
def weightPushes (w : U16String × Int32) : List Push := [.sizedUTF16 w.1, pushBackVal w.2]

/-- `client::makeOriginPreference`. -/
def makeOriginPreference (weights : List (U16String × Int32)) : Buffer :=
  finishMessage 0 [] (pushBackVal MessageID.origin_preference :: (weights.map weightPushes).flatten)

/-- The order in which a call's two arguments are evaluated, which C++ leaves to the compiler. -/
inductive EvalOrder
  /-- The first argument first. -/
  | leftToRight
  /-- The second argument first. -/
  | rightToLeft
deriving DecidableEq, Repr

/-- `std::make_pair(reader.readSizedUTF16(), reader.readPrimitive<int32_t>())`, its arguments
evaluated in the order `order`. -/
def readWeight : EvalOrder → StateM BuffReader (U16String × Int32)
  | .leftToRight => do
    let origin ← readSizedUTF16
    let weight ← readPrimitive Int32
    return (origin, weight)
  | .rightToLeft => do
    let weight ← readPrimitive Int32
    let origin ← readSizedUTF16
    return (origin, weight)

/-- The `while (reader.cur_index < buff.size())` loop of `decodeOriginPreference`, for at most
`fuel` more tests of its condition: the pairs it has pushed and the reader once the condition
fails, or `none` if it has not failed by then. -/
def weightLoop (order : EvalOrder) (buff : Buffer) :
    Nat → List (U16String × Int32) → BuffReader → Option (List (U16String × Int32) × BuffReader)
  | 0, _, _ => none
  | fuel + 1, weights, reader =>
    if reader.cur_index.toNat < buff.length then
      let (w, reader) := readWeight order reader
      weightLoop order buff fuel (weights ++ [w]) reader
    else some (weights, reader)

/-- `client::decodeOriginPreference`, when its loop ends within `fuel` tests; `none` otherwise. -/
def decodeOriginPreference (order : EvalOrder) (fuel : Nat) (buff : Buffer) :
    Option (List (U16String × Int32)) :=
  let ((total_length, msg_type), reader) := readHeader MessageID (init buff)
  let result :=
    if lengthMatches buff total_length ∧ MessageID.origin_preference = msg_type then
      weightLoop order buff fuel [] reader
    else some ([], reader)
  result.map fun (weights, reader) => if reader.out_of_range then [] else weights

end Client

end OwlCommon.WorldModel
