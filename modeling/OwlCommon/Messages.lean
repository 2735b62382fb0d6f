import OwlCommon.WorldModel.ClientCodec
import OwlCommon.WorldModel.SolverCodec
import OwlCommon.Aggregator.Codec

/-!
# Every message kind

The laws over every message kind that has both an encoder and a decoder: the world model's client
and solver faces, and the aggregator's faces to sensors and to solvers.

An encoder writes the frame's length less four into its first four bytes, in `uint32_t`, so the
field is right whenever that length fits in 32 bits (`finishMessage_framed`). The decoders compare
`buff.size()` with `total_length + 4`, the sum again in `uint32_t`, so they take a frame back only
when it is shorter than `2 ^ 32` bytes, and every decoder then returns what its encoder was given
(`messages_roundTrip`), the samples marked valid. For a frame of `2 ^ 32` to `2 ^ 32 + 3` bytes,
whose length field is right, the sum wraps and the check fails: a URI search of `2 ^ 31 - 2` code
units makes a frame of `2 ^ 32 + 1` bytes, which its decoder rejects (`decodeURISearch_long_frame`).

Conversely, a world model decoder that returns something other than its failure values was given
a frame whose length field is its length less four, whose type byte is the decoder's, and whose
payload starts with the encoder's pushes of the value returned, as the reads accept them
(`decoders_check_frames`): a flag is any byte the decoder's comparison maps to it, a sized string
of odd byte length is read as its length halved, and a sized vector is cut at the end of the
buffer without the flag. Two decoders return more than that: `decodeSnapshotRequest` returns the
ticket it read when a later read went out of range, and `decodeTypeAnnounceMsg` reads the origin
whether or not the header checked out; the law holds of them when their request is neither
failure value and when they return an alias or the header is right. So the payload need not be
what the encoder writes (`decoders_accept_unwritten_frames`).

Beneath all of these, every wire type moves as its big-endian bytes whatever the host's byte order
(`wire_types_host_independent`).
-/

namespace OwlCommon

open Wire WorldModel WorldModel.Client

/-- The frame's length field is its length less four. -/
def Framed (F : Buffer) : Prop := beNat (F.take 4) + 4 = F.length

/-- `decode` takes back `back v` from the frame `make v` when the frame is shorter than `2 ^ 32`
bytes, and the frame's length field is its length less four whenever that fits in 32 bits. -/
def RoundTrips {α β : Type} (make : α → Buffer) (decode : Buffer → β) (back : α → β) : Prop :=
  ∀ v, ((make v).length < 2 ^ 32 + 4 → Framed (make v)) ∧
    ((make v).length < 2 ^ 32 → decode (make v) = back v)

/-- A decoder that returns something other than `failure` was given a frame of type `expected`
whose payload starts with the pushes of what it returned. -/
def DecoderSound {ID β : Type} [Wire ID] (expected : ID) (decode : Buffer → β) (failure : β)
    (pushes : β → List Push) : Prop :=
  ∀ buff, decode buff ≠ failure → AcceptedFrame expected (pushes (decode buff)) buff

/-! ## The length field -/

/-- `finishMessage` writes the frame's length less four whenever that fits in 32 bits. -/
theorem finishMessage_framed (ps : List Push) (h : (finishMessage 0 [] ps).length < 2 ^ 32 + 4) :
    Framed (finishMessage 0 [] ps) := by
  have h4 : 4 ≤ (finishMessage 0 [] ps).length := by
    rw [finishMessage_eq]
    simp
  rw [Framed, finishMessage_take_four, toBytes, beNat_beBytes]
  show ((finishMessage 0 [] ps).length - 4) % 2 ^ 32 % 256 ^ 4 + 4 = _
  omega

/-- A frame that `finishMessage` built, under another name. -/
theorem framed_of_eq {F : Buffer} {ps : List Push} (hF : F = finishMessage 0 [] ps)
    (h : F.length < 2 ^ 32 + 4) : Framed F :=
  hF ▸ finishMessage_framed ps (hF ▸ h)

/-- Writing a type over byte 4 keeps the length field. -/
theorem Framed.set_four {F : Buffer} (h : Framed F) (x : UInt8) : Framed (F.set 4 x) := by
  rw [Framed, take_set_four, List.length_set]
  exact h

/-- The ticket messages write their constant length five, which is their length less four. -/
theorem makeTicketMsg_framed (msg_type : MessageID) (ticket_number : UInt32) :
    Framed (makeTicketMsg msg_type ticket_number) := by
  rw [Framed, makeTicketMsg, List.append_assoc,
    List.take_left' (by simp : (toBytes (5 : UInt32)).length = 4)]
  simp only [List.length_append, length_toBytes, width_uint32, width_messageID]
  rfl

/-- A URI search is the header and the URI's code units. -/
theorem makeURISearch_length (uri : URI) : (makeURISearch uri).length = 5 + 2 * uri.length := by
  rw [makeURISearch, length_finishMessage]
  simp only [Push.bytesOf_cons, Push.bytes_utf16, Push.bytesOf_nil, List.append_nil,
    length_utf16Bytes, width_messageID]

/-! ## Round trips -/

/-- Every encoder's frame has its length less four in its length field when that fits in
32 bits, and every decoder takes back what the encoder was given when the frame is shorter than
`2 ^ 32` bytes: the value itself, and a sample marked valid; whatever the uninitialised times of
the client's request decoders hold. -/
theorem messages_roundTrip (times : GrailTime × GrailTime) :
    RoundTrips (fun v : Request × UInt32 => makeSnapshotRequest v.1 v.2)
      (decodeSnapshotRequest times) id ∧
    RoundTrips (fun v : Request × UInt32 => makeRangeRequest v.1 v.2)
      (fun F => (decodeRangeRequest times F).1) id ∧
    RoundTrips (fun v : Request × UInt32 => makeStreamRequest v.1 v.2)
      (fun F => (decodeStreamRequest times F).1) id ∧
    RoundTrips makeAttrAliasMsg decodeAttrAliasMsg id ∧
    RoundTrips makeOriginAliasMsg (fun F => (decodeOriginAliasMsg F).1) id ∧
    RoundTrips makeRequestComplete decodeRequestComplete id ∧
    RoundTrips makeCancelRequest decodeCancelRequest id ∧
    RoundTrips (fun v : AliasedWorldData × UInt32 => makeDataMessage v.1 v.2) decodeDataMessage id ∧
    RoundTrips makeURISearch decodeURISearch id ∧
    RoundTrips (fun v : List Solver.AliasType × U16String => Solver.makeTypeAnnounceMsg v.1 v.2)
      Solver.decodeTypeAnnounceMsg id ∧
    RoundTrips Solver.makeStartOnDemand Solver.decodeStartOnDemand id ∧
    RoundTrips Solver.makeStopOnDemand (fun F => (Solver.decodeStopOnDemand F).1) id ∧
    RoundTrips (fun v : Bool × List Solver.SolutionData => Solver.makeSolutionMsg v.1 v.2)
      Solver.decodeSolutionMsg id ∧
    RoundTrips (fun v : URI × GrailTime × U16String => Solver.makeCreateURI v.1 v.2.1 v.2.2)
      Solver.decodeCreateURI id ∧
    RoundTrips (fun v : URI × GrailTime × U16String => Solver.makeExpireURI v.1 v.2.1 v.2.2)
      Solver.decodeExpireURI id ∧
    RoundTrips (fun v : URI × U16String × GrailTime × U16String =>
      Solver.makeExpireAttribute v.1 v.2.1 v.2.2.2 v.2.2.1) Solver.decodeExpireAttribute id ∧
    RoundTrips (fun v : URI × U16String => Solver.makeDeleteURI v.1 v.2) Solver.decodeDeleteURI id ∧
    RoundTrips (fun v : URI × U16String × U16String => Solver.makeDeleteAttribute v.1 v.2.1 v.2.2)
      Solver.decodeDeleteAttribute id ∧
    RoundTrips SensorAggregator.makeSampleMsg
      (fun F => SensorAggregator.decodeSampleMsg F (UInt32.ofNat F.length))
      (fun sample => { sample with valid := true }) ∧
    RoundTrips AggregatorSolver.makeSubscribeReqMsg
      (fun F => AggregatorSolver.decodeSubscribeMsg F (UInt32.ofNat F.length)) id ∧
    RoundTrips AggregatorSolver.makeSampleMsg
      (fun F => AggregatorSolver.decodeSampleMsg F (UInt32.ofNat F.length))
      (fun sample => { sample with valid := true }) :=
  ⟨fun v => ⟨framed_of_eq rfl, decodeSnapshotRequest_makeSnapshotRequest times v.1 v.2⟩,
    fun v => ⟨fun h => (framed_of_eq rfl (List.length_set .. ▸ h)).set_four _,
      fun h => congrArg Prod.fst (decodePatchedRequest_makeSnapshotRequest _ times v.1 v.2 h)⟩,
    fun v => ⟨fun h => (framed_of_eq rfl (List.length_set .. ▸ h)).set_four _,
      fun h => congrArg Prod.fst (decodePatchedRequest_makeSnapshotRequest _ times v.1 v.2 h)⟩,
    fun v => ⟨framed_of_eq rfl, decodeAttrAliasMsg_makeAttrAliasMsg v⟩,
    fun v => ⟨fun h => (framed_of_eq rfl (List.length_set .. ▸ h)).set_four _,
      fun h => congrArg Prod.fst (decodeOriginAliasMsg_makeOriginAliasMsg v h)⟩,
    fun v => ⟨fun _ => makeTicketMsg_framed _ v, fun _ => decodeTicketMsg_makeTicketMsg _ v⟩,
    fun v => ⟨fun _ => makeTicketMsg_framed _ v, fun _ => decodeTicketMsg_makeTicketMsg _ v⟩,
    fun v => ⟨framed_of_eq rfl, decodeDataMessage_makeDataMessage v.1 v.2⟩,
    fun v => ⟨framed_of_eq rfl, decodeURISearch_makeURISearch v⟩,
    fun v => ⟨framed_of_eq rfl, Solver.decodeTypeAnnounceMsg_makeTypeAnnounceMsg v.1 v.2⟩,
    fun v => ⟨framed_of_eq rfl, Solver.decodeStartOnDemand_makeStartOnDemand v⟩,
    fun v => ⟨fun h => (framed_of_eq rfl (List.length_set .. ▸ h)).set_four _,
      fun h => congrArg Prod.fst (Solver.decodeStopOnDemand_makeStopOnDemand v h)⟩,
    fun v => ⟨framed_of_eq rfl, Solver.decodeSolutionMsg_makeSolutionMsg v.1 v.2⟩,
    fun v => ⟨framed_of_eq rfl, Solver.decodeCreateURI_makeCreateURI v.1 v.2.1 v.2.2⟩,
    fun v => ⟨framed_of_eq rfl, Solver.decodeExpireURI_makeExpireURI v.1 v.2.1 v.2.2⟩,
    fun v => ⟨framed_of_eq rfl,
      Solver.decodeExpireAttribute_makeExpireAttribute v.1 v.2.1 v.2.2.2 v.2.2.1⟩,
    fun v => ⟨framed_of_eq rfl, Solver.decodeDeleteURI_makeDeleteURI v.1 v.2⟩,
    fun v => ⟨framed_of_eq rfl, Solver.decodeDeleteAttribute_makeDeleteAttribute v.1 v.2.1 v.2.2⟩,
    fun v => ⟨framed_of_eq rfl, SensorAggregator.decodeSampleMsg_makeSampleMsg v⟩,
    fun v => ⟨framed_of_eq (AggregatorSolver.finishMessage_one _ _),
      AggregatorSolver.decodeSubscribeMsg_makeSubscribeReqMsg v⟩,
    fun v => ⟨framed_of_eq (AggregatorSolver.finishMessage_one _ _),
      AggregatorSolver.decodeSampleMsg_makeSampleMsg v⟩⟩

/-- A URI search of `2 ^ 31 - 2` code units: a frame of `2 ^ 32 + 1` bytes whose length field is
right, and which its decoder rejects, since `total_length + 4` wraps to `1`. -/
theorem decodeURISearch_long_frame :
    (makeURISearch (List.replicate (2 ^ 31 - 2) 0)).length = 2 ^ 32 + 1 ∧
      Framed (makeURISearch (List.replicate (2 ^ 31 - 2) 0)) ∧
      decodeURISearch (makeURISearch (List.replicate (2 ^ 31 - 2) 0)) = [] := by
  have hl : (makeURISearch (List.replicate (2 ^ 31 - 2) 0)).length = 2 ^ 32 + 1 := by
    have h := makeURISearch_length (List.replicate (2 ^ 31 - 2) 0)
    rw [List.length_replicate] at h
    omega
  refine ⟨hl, framed_of_eq rfl (by rw [hl]; omega), ?_⟩
  rw [decodeURISearch, readFrame_eq (by decide), if_neg fun h => absurd h.1 (by rw [hl]; omega)]

/-! ## What the decoders accept -/

/-- A world model decoder that returns something other than its failure values was given a frame
whose length field is its length less four, whose type byte is the decoder's, and whose payload
starts with the encoder's pushes of the value returned, as the reads accept them; for the
snapshot, range and stream requests, when the request returned is neither `Request()` nor the
default-initialised one, and for the type announcement, when it returns an alias or its header is
right. -/
theorem decoders_check_frames (times : GrailTime × GrailTime) :
    (∀ buff, (decodeSnapshotRequest times buff).1 ≠ default →
      (decodeSnapshotRequest times buff).1 ≠ Request.uninitialised times →
      AcceptedFrame MessageID.snapshot_request
        (requestPushes (decodeSnapshotRequest times buff).1 (decodeSnapshotRequest times buff).2)
        buff) ∧
    (∀ buff, (decodeRangeRequest times buff).1.1 ≠ default →
      (decodeRangeRequest times buff).1.1 ≠ Request.uninitialised times →
      AcceptedFrame MessageID.range_request
        (requestPushes (decodeRangeRequest times buff).1.1 (decodeRangeRequest times buff).1.2)
        buff) ∧
    (∀ buff, (decodeStreamRequest times buff).1.1 ≠ default →
      (decodeStreamRequest times buff).1.1 ≠ Request.uninitialised times →
      AcceptedFrame MessageID.stream_request
        (requestPushes (decodeStreamRequest times buff).1.1 (decodeStreamRequest times buff).1.2)
        buff) ∧
    DecoderSound MessageID.attribute_alias decodeAttrAliasMsg [] aliasPushes ∧
    DecoderSound MessageID.origin_alias (fun buff => (decodeOriginAliasMsg buff).1) [] aliasPushes ∧
    DecoderSound MessageID.request_complete decodeRequestComplete 0 (fun t => [pushBackVal t]) ∧
    DecoderSound MessageID.cancel_request decodeCancelRequest 0 (fun t => [pushBackVal t]) ∧
    DecoderSound MessageID.data_response decodeDataMessage (default, 0)
      (fun v => dataPushes v.1 v.2) ∧
    DecoderSound MessageID.uri_search decodeURISearch [] (fun uri => [.utf16 uri]) ∧
    (∀ buff, (Solver.decodeTypeAnnounceMsg buff).1 ≠ [] ∨ (Solver.decodeTypeAnnounceMsg buff ≠ ([], []) ∧
        buff.length < 2 ^ 32 ∧ beNat (buff.take 4) + 4 = buff.length ∧
        (buff.drop 4).take 1 = toBytes Solver.MessageID.type_announce) →
      AcceptedFrame Solver.MessageID.type_announce (Solver.typeAnnouncePushes
        (Solver.decodeTypeAnnounceMsg buff).1 (Solver.decodeTypeAnnounceMsg buff).2) buff) ∧
    DecoderSound Solver.MessageID.start_on_demand Solver.decodeStartOnDemand [] Solver.onDemandPushes ∧
    DecoderSound Solver.MessageID.stop_on_demand (fun buff => (Solver.decodeStopOnDemand buff).1) []
      Solver.onDemandPushes ∧
    DecoderSound Solver.MessageID.solver_data Solver.decodeSolutionMsg (false, [])
      (fun v => Solver.solutionMsgPushes v.1 v.2) ∧
    DecoderSound Solver.MessageID.create_uri Solver.decodeCreateURI ([], ⟨0⟩, [])
      (fun v => Solver.uriTimePushes v.1 v.2.1 v.2.2) ∧
    DecoderSound Solver.MessageID.expire_uri Solver.decodeExpireURI ([], ⟨0⟩, [])
      (fun v => Solver.uriTimePushes v.1 v.2.1 v.2.2) ∧
    DecoderSound Solver.MessageID.expire_attribute Solver.decodeExpireAttribute ([], [], ⟨0⟩, [])
      (fun v => Solver.expireAttributePushes v.1 v.2.1 v.2.2.2 v.2.2.1) ∧
    DecoderSound Solver.MessageID.delete_uri Solver.decodeDeleteURI ([], [])
      (fun v => Solver.deleteURIPushes v.1 v.2) ∧
    DecoderSound Solver.MessageID.delete_attribute Solver.decodeDeleteAttribute ([], [], [])
      (fun v => Solver.deleteAttributePushes v.1 v.2.1 v.2.2) :=
  ⟨fun _ => decodeSnapshotRequest_sound, fun _ => decodePatchedRequest_sound,
    fun _ => decodePatchedRequest_sound, fun _ => decodeAttrAliasMsg_sound,
    fun _ => decodeOriginAliasMsg_sound, fun _ => decodeTicketMsg_sound (by decide),
    fun _ => decodeTicketMsg_sound (by decide), fun _ => decodeDataMessage_sound,
    fun _ => decodeURISearch_sound,
    fun buff hc => Solver.decodeTypeAnnounceMsg_sound
      (hc.elim (fun h e => h (congrArg Prod.fst e)) (·.1))
      (hc.imp_right fun h => h.2),
    fun _ => Solver.decodeStartOnDemand_sound, fun _ => Solver.decodeStopOnDemand_sound,
    fun _ => Solver.decodeSolutionMsg_sound, fun _ => Solver.decodeCreateURI_sound,
    fun _ => Solver.decodeExpireURI_sound, fun _ => Solver.decodeExpireAttribute_sound,
    fun _ => Solver.decodeDeleteURI_sound, fun _ => Solver.decodeDeleteAttribute_sound⟩

/-- Four frames the decoders accept that their encoders do not write: a URI deletion whose URI
has an odd byte length, read as the empty URI; a solution whose data's length field is two with one
byte behind it, read as that byte; a snapshot request whose ticket is there but whose request is
not, returned with the ticket; and a type announcement whose length field is wrong, returned with
its origin. -/
theorem decoders_accept_unwritten_frames :
    Solver.decodeDeleteURI [0, 0, 0, 7, 7, 0, 0, 0, 1, 0, 65] = ([], [65]) ∧
      ¬ (Solver.makeDeleteURI [] [65]).drop 4 <+: ([0, 0, 0, 7, 7, 0, 0, 0, 1, 0, 65] : Buffer).drop 4 ∧
    Solver.decodeSolutionMsg [0, 0, 0, 27, 4, 1, 0, 0, 0, 1, 0, 0, 0, 3, 0, 0, 0, 0, 0, 0, 0, 0,
        0, 0, 0, 0, 0, 0, 0, 2, 7] = (true, [⟨3, ⟨0⟩, [], [7]⟩]) ∧
      ¬ (Solver.makeSolutionMsg true [⟨3, ⟨0⟩, [], [7]⟩]).drop 4 <+:
        ([0, 0, 0, 27, 4, 1, 0, 0, 0, 1, 0, 0, 0, 3, 0, 0, 0, 0, 0, 0, 0, 0, 0, 0, 0, 0, 0, 0, 0, 2,
          7] : Buffer).drop 4 ∧
    decodeSnapshotRequest (⟨0⟩, ⟨0⟩) [0, 0, 0, 5, 1, 0, 0, 0, 9] = (default, 9) ∧
      ¬ (makeSnapshotRequest default 9).drop 4 <+: ([0, 0, 0, 5, 1, 0, 0, 0, 9] : Buffer).drop 4 ∧
    Solver.decodeTypeAnnounceMsg [0, 0, 0, 0, 1, 0, 65] = ([], [65]) ∧
      ¬ (Solver.makeTypeAnnounceMsg [] [65]).drop 4 <+: ([0, 0, 0, 0, 1, 0, 65] : Buffer).drop 4 := by
  decide

/-! ## Every wire type, on either host -/

/-- Every type that `pushBackVal` and `readPrimitive` are used with goes out as its big-endian
bytes and comes back from them on a little-endian and on a big-endian host alike, the 128-bit
value as the bytes of its upper half and then those of its lower half. The aggregator's
`MessageID`, an unscoped enum, is not among them: the code writes it and reads it as an
`unsigned char`. -/
theorem wire_types_host_independent :
    HostIndependent UInt8 ∧ HostIndependent Client.MessageID ∧ HostIndependent Solver.MessageID ∧
      HostIndependent UInt16 ∧ HostIndependent UInt32 ∧ HostIndependent Int32 ∧
      HostIndependent UInt64 ∧ HostIndependent Int64 ∧ HostIndependent Float32 ∧
      HostIndependent UInt128 ∧ ∀ x : UInt128, toBytes x = toBytes x.upper ++ toBytes x.lower :=
  ⟨hostIndependent_of_convertible (by decide), hostIndependent_of_convertible (by decide),
    hostIndependent_of_convertible (by decide), hostIndependent_of_convertible (by decide),
    hostIndependent_of_convertible (by decide), hostIndependent_of_convertible (by decide),
    hostIndependent_of_convertible (by decide), hostIndependent_of_convertible (by decide),
    hostIndependent_of_convertible (by decide), hostIndependent_of_convertible (by decide),
    UInt128.toBytes_eq⟩

end OwlCommon
