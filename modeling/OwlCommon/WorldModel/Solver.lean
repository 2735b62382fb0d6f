import OwlCommon.WorldModel.Client

/-!
# The solver face of the world model protocol

The messages between a solver and the world model (`world_model_protocol.{hpp,cpp}`, namespace
`world_model::solver`), in the form of `Client.lean`: each encoder is `finishMessage` of named
pushes, and most decoders are `decodeFrame` of a `StateM BuffReader` block.

Two decoders depart from that shape. `decodeTypeAnnounceMsg` reads the origin after the check's
block, so it reads it whether or not the check passed. `decodeStopOnDemand` checks the frame
itself, then patches byte 4 to `start_on_demand` and decodes the start message; the patched
buffer is returned beside the result. The URI and attribute messages end with an origin that
fills the rest of the frame, read by `readTailUTF16`.
-/

namespace OwlCommon.WorldModel

open Wire BuffReader

namespace Solver

/-- `solver::MessageID`, an `enum class` over `uint8_t`: every byte is one. -/
structure MessageID where
  /-- The byte on the wire. -/
  val : UInt8
deriving DecidableEq, Repr

namespace MessageID

/-- `solver::MessageID::keep_alive`, the byte 0. -/
def keep_alive : MessageID := ⟨0⟩

/-- `solver::MessageID::type_announce`, the byte 1. -/
def type_announce : MessageID := ⟨1⟩

/-- `solver::MessageID::start_on_demand`, the byte 2. -/
def start_on_demand : MessageID := ⟨2⟩

/-- `solver::MessageID::stop_on_demand`, the byte 3. -/
def stop_on_demand : MessageID := ⟨3⟩

/-- `solver::MessageID::solver_data`, the byte 4. -/
def solver_data : MessageID := ⟨4⟩

/-- `solver::MessageID::create_uri`, the byte 5. -/
def create_uri : MessageID := ⟨5⟩

/-- `solver::MessageID::expire_uri`, the byte 6. -/
def expire_uri : MessageID := ⟨6⟩

/-- `solver::MessageID::delete_uri`, the byte 7. -/
def delete_uri : MessageID := ⟨7⟩

/-- `solver::MessageID::expire_attribute`, the byte 8. -/
def expire_attribute : MessageID := ⟨8⟩

/-- `solver::MessageID::delete_attribute`, the byte 9. -/
def delete_attribute : MessageID := ⟨9⟩

end MessageID

/-- A message type goes over the wire as its byte. -/
instance : Wire MessageID where
  width := 1
  toNat m := m.val.toNat
  ofNat n := ⟨UInt8.ofNat n⟩
  toNat_lt m := m.val.toNat_lt_size
  ofNat_toNat m := congrArg MessageID.mk (Wire.ofNat_toNat m.val)
  toNat_ofNat _ h := UInt8.toNat_ofNat_of_lt h

/-- A message type takes one byte. -/
@[simp] theorem width_messageID : width MessageID = 1 := rfl

/-- Stored as its one `uint8_t`. -/
instance : Layout MessageID := ⟨[1]⟩

/-- A message type's bytes are its byte. -/
@[simp] theorem toBytes_messageID (m : MessageID) : toBytes m = [m.val] := toBytes_uint8 m.val

/-- `solver::AliasType`: an alias, the type it stands for, and whether the solver makes that type
only on demand. -/
structure AliasType where
  /-- The alias. -/
  «alias» : UInt32
  /-- The type's name. -/
  type : U16String
  /-- Whether the type is made only on demand. -/
  on_demand : Bool
deriving DecidableEq, Repr

/-- `solver::SolutionData`: one value a solver sends. -/
structure SolutionData where
  /-- The alias of the value's type. -/
  type_alias : UInt32
  /-- When the value was made. -/
  time : GrailTime
  /-- The object the value is about. -/
  target : URI
  /-- The value. -/
  data : Buffer
deriving DecidableEq, Repr

/-- The aliases and attribute patterns of the on-demand messages. -/
abbrev OnDemand := List (UInt32 × List U16String)

/-! ## Handshake and keep-alive -/

/-- `solver::makeHandshakeMsg`. -/
def makeHandshakeMsg : Buffer := makeHandshake "GRAIL world model protocol"

/-- `solver::makeKeepAlive`, as the client's. -/
def makeKeepAlive : Buffer := toBytes (1 : UInt32) ++ toBytes MessageID.keep_alive

/-! ## Type announcements -/

/-- What `makeTypeAnnounceMsg` pushes for one alias; `decodeTypeAnnounceMsg` reads the flag back
as `on_demand != 0`. -/
def aliasTypePushes (a : AliasType) : List Push :=
  [pushBackVal a.«alias», .sizedUTF16 a.type, .flag a.on_demand .nonzero]

/-- What `makeTypeAnnounceMsg` pushes after the message type. -/
def typeAnnouncePushes (type_alias : List AliasType) (origin : U16String) : List Push :=
  pushBackVal (UInt32.ofNat type_alias.length) ::
    ((type_alias.map aliasTypePushes).flatten ++ [.utf16 origin])

/-- `solver::makeTypeAnnounceMsg`. -/
def makeTypeAnnounceMsg (type_alias : List AliasType) (origin : U16String) : Buffer :=
  finishMessage 0 [] (pushBackVal MessageID.type_announce :: typeAnnouncePushes type_alias origin)

/-- The loop body of `decodeTypeAnnounceMsg`: an alias, its type, and the byte `on_demand != 0`. -/
def readAliasType : StateM BuffReader AliasType := do
  let a ← readPrimitive UInt32
  let type ← readSizedUTF16
  let on_demand ← readPrimitive UInt8
  return ⟨a, type, on_demand != 0⟩

/-- The reads of `decodeTypeAnnounceMsg` inside the check. -/
def readAliases : StateM BuffReader (List AliasType) := do
  let total_aliases ← readPrimitive UInt32
  let aliases ← readN readAliasType total_aliases.toNat
  return aliases

/-- `solver::decodeTypeAnnounceMsg`: the aliases when the check passes, and then, whether or not it
passed, the rest of the buffer as the origin. -/
def decodeTypeAnnounceMsg (buff : Buffer) : List AliasType × U16String :=
  let (aliases, reader) := readFrame MessageID.type_announce readAliases [] buff
  let (origin, reader) := readTailUTF16 reader
  if reader.out_of_range then ([], []) else (aliases, origin)

/-! ## On-demand requests -/

/-- What `makeStartOnDemand` pushes for one alias: the alias, the count and its patterns. -/
def onDemandAliasPushes (a : UInt32 × List U16String) : List Push :=
  pushBackVal a.1 :: pushBackVal (UInt32.ofNat a.2.length) ::
    (a.2.map fun attr => [.sizedUTF16 attr]).flatten

/-- What `makeStartOnDemand` pushes after the message type. -/
def onDemandPushes (aliases : OnDemand) : List Push :=
  pushBackVal (UInt32.ofNat aliases.length) :: (aliases.map onDemandAliasPushes).flatten

/-- `solver::makeStartOnDemand`. -/
def makeStartOnDemand (aliases : OnDemand) : Buffer :=
  finishMessage 0 [] (pushBackVal MessageID.start_on_demand :: onDemandPushes aliases)

/-- `solver::makeStopOnDemand`: a start message with byte 4 set to `stop_on_demand`. -/
def makeStopOnDemand (aliases : OnDemand) : Buffer :=
  (makeStartOnDemand aliases).set 4 MessageID.stop_on_demand.val

/-- The outer loop body of `decodeStartOnDemand`: an alias and its attribute patterns. -/
def readOnDemandAlias : StateM BuffReader (UInt32 × List U16String) := do
  let cur_alias ← readPrimitive UInt32
  let total_attribs ← readPrimitive UInt32
  let attribs ← readN readSizedUTF16 total_attribs.toNat
  return (cur_alias, attribs)

/-- The reads of `decodeStartOnDemand` after the check. -/
def readOnDemand : StateM BuffReader OnDemand := do
  let total_aliases ← readPrimitive UInt32
  let aliases ← readN readOnDemandAlias total_aliases.toNat
  return aliases

/-- `solver::decodeStartOnDemand`. -/
def decodeStartOnDemand (buff : Buffer) : OnDemand :=
  decodeFrame MessageID.start_on_demand readOnDemand [] buff

/-- `solver::decodeStopOnDemand`: checks the frame as a stop message, then patches byte 4 to
`start_on_demand` and decodes a start message; returns the patched buffer too. -/
def decodeStopOnDemand (buff : Buffer) : OnDemand × Buffer :=
  let ((total_length, msg_type), _) := readHeader MessageID (init buff)
  if lengthMatches buff total_length ∧ msg_type = MessageID.stop_on_demand then
    let buff := buff.set 4 MessageID.start_on_demand.val
    (decodeStartOnDemand buff, buff)
  else ([], buff)

/-! ## Solutions -/

/-- What `makeSolutionMsg` pushes for one solution. -/
def solutionPushes (soln : SolutionData) : List Push :=
  [pushBackVal soln.type_alias, pushBackVal soln.time, .sizedUTF16 soln.target,
    .sizedContainer soln.data]

/-- What `makeSolutionMsg` pushes after the message type; `decodeSolutionMsg` reads the flag back
as `create_uris == 1`. -/
def solutionMsgPushes (create_uris : Bool) (solutions : List SolutionData) : List Push :=
  .flag create_uris .one :: pushBackVal (UInt32.ofNat solutions.length) ::
    (solutions.map solutionPushes).flatten

/-- `solver::makeSolutionMsg`. -/
def makeSolutionMsg (create_uris : Bool) (solutions : List SolutionData) : Buffer :=
  finishMessage 0 [] (pushBackVal MessageID.solver_data :: solutionMsgPushes create_uris solutions)

/-- The loop body of `decodeSolutionMsg`; the first two fields by `convertPrimitive`, which is
`readPrimitive` into a variable. -/
def readSolution : StateM BuffReader SolutionData := do
  let type_alias ← readPrimitive UInt32
  let time ← readPrimitive GrailTime
  let target ← readSizedUTF16
  let data ← readSizedVector UInt8
  return ⟨type_alias, time, target, data⟩

/-- The reads of `decodeSolutionMsg` after the check: the byte `== 1`, the count, the solutions. -/
def readSolutions : StateM BuffReader (Bool × List SolutionData) := do
  let create_uris := (← readPrimitive UInt8) == 1
  let num_solns ← readPrimitive UInt32
  let solutions ← readN readSolution num_solns.toNat
  return (create_uris, solutions)

/-- `solver::decodeSolutionMsg`. -/
def decodeSolutionMsg (buff : Buffer) : Bool × List SolutionData :=
  decodeFrame MessageID.solver_data readSolutions (false, []) buff

/-! ## URIs and attributes -/

/-- What `makeCreateURI` and `makeExpireURI` push after the message type. -/
def uriTimePushes (uri : URI) (time : GrailTime) (origin : U16String) : List Push :=
  [.sizedUTF16 uri, pushBackVal time, .utf16 origin]

/-- `solver::makeCreateURI`. -/
def makeCreateURI (new_uri : URI) (creation : GrailTime) (origin : U16String) : Buffer :=
  finishMessage 0 [] (pushBackVal MessageID.create_uri :: uriTimePushes new_uri creation origin)

/-- `solver::makeExpireURI`. -/
def makeExpireURI (uri : URI) (expiration : GrailTime) (origin : U16String) : Buffer :=
  finishMessage 0 [] (pushBackVal MessageID.expire_uri :: uriTimePushes uri expiration origin)

/-- The reads of `decodeCreateURI` and `decodeExpireURI` after the check. -/
def readURITime : StateM BuffReader (URI × GrailTime × U16String) := do
  let uri ← readSizedUTF16
  let time ← readPrimitive GrailTime
  let origin ← readTailUTF16
  return (uri, time, origin)

/-- `solver::decodeCreateURI`; it tests the flag inside the check's block, which returns the same
as `decodeFrame`'s test after it. -/
def decodeCreateURI (buff : Buffer) : URI × GrailTime × U16String :=
  decodeFrame MessageID.create_uri readURITime ([], ⟨0⟩, []) buff

/-- `solver::decodeExpireURI`. -/
def decodeExpireURI (buff : Buffer) : URI × GrailTime × U16String :=
  decodeFrame MessageID.expire_uri readURITime ([], ⟨0⟩, []) buff

/-- What `makeExpireAttribute` pushes after the message type. -/
def expireAttributePushes (uri : URI) (attr origin : U16String) (expiration : GrailTime) :
    List Push :=
  [.sizedUTF16 uri, .sizedUTF16 attr, pushBackVal expiration, .utf16 origin]

/-- `solver::makeExpireAttribute`. -/
def makeExpireAttribute (uri : URI) (attr origin : U16String) (expiration : GrailTime) :
    Buffer :=
  finishMessage 0 [] (pushBackVal MessageID.expire_attribute ::
    expireAttributePushes uri attr origin expiration)

/-- The reads of `decodeExpireAttribute` after the check. -/
def readExpireAttribute : StateM BuffReader (URI × U16String × GrailTime × U16String) := do
  let uri ← readSizedUTF16
  let attr ← readSizedUTF16
  let expired ← readPrimitive GrailTime
  let origin ← readTailUTF16
  return (uri, attr, expired, origin)

/-- `solver::decodeExpireAttribute`. -/
def decodeExpireAttribute (buff : Buffer) : URI × U16String × GrailTime × U16String :=
  decodeFrame MessageID.expire_attribute readExpireAttribute ([], [], ⟨0⟩, []) buff

/-- What `makeDeleteURI` pushes after the message type. -/
def deleteURIPushes (uri : URI) (origin : U16String) : List Push :=
  [.sizedUTF16 uri, .utf16 origin]

/-- `solver::makeDeleteURI`. -/
def makeDeleteURI (uri : URI) (origin : U16String) : Buffer :=
  finishMessage 0 [] (pushBackVal MessageID.delete_uri :: deleteURIPushes uri origin)

/-- The reads of `decodeDeleteURI` after the check. -/
def readDeleteURI : StateM BuffReader (URI × U16String) := do
  let uri ← readSizedUTF16
  let origin ← readTailUTF16
  return (uri, origin)

/-- `solver::decodeDeleteURI`. -/
def decodeDeleteURI (buff : Buffer) : URI × U16String :=
  decodeFrame MessageID.delete_uri readDeleteURI ([], []) buff

/-- What `makeDeleteAttribute` pushes after the message type. -/
def deleteAttributePushes (uri : URI) (attr origin : U16String) : List Push :=
  [.sizedUTF16 uri, .sizedUTF16 attr, .utf16 origin]

/-- `solver::makeDeleteAttribute`. -/
def makeDeleteAttribute (uri : URI) (attr origin : U16String) : Buffer :=
  finishMessage 0 [] (pushBackVal MessageID.delete_attribute :: deleteAttributePushes uri attr origin)

/-- The reads of `decodeDeleteAttribute` after the check. -/
def readDeleteAttribute : StateM BuffReader (URI × U16String × U16String) := do
  let uri ← readSizedUTF16
  let attr ← readSizedUTF16
  let origin ← readTailUTF16
  return (uri, attr, origin)

/-- `solver::decodeDeleteAttribute`. -/
def decodeDeleteAttribute (buff : Buffer) : URI × U16String × U16String :=
  decodeFrame MessageID.delete_attribute readDeleteAttribute ([], [], []) buff

end Solver

end OwlCommon.WorldModel
