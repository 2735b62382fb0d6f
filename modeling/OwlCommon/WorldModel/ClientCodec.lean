import OwlCommon.WorldModel.Client

/-!
# The client face: round trips, and what the decoders accept

Each payload's reads take back what its pushes write (`readRequest_reads`, ...), so each client
message that `finishMessage` builds and that is shorter than `2 ^ 32` bytes decodes to what it
was built from (`decodeSnapshotRequest_makeSnapshotRequest`, ...). In the other direction each
payload's reads parse as the pushes of what they return (`readRequest_parsesAs`, ...), so a
result other than the decoder's failure value comes from an `AcceptedFrame`: a frame whose
length field, type and payload are those the encoder writes for that result, up to what the
reads accept (`decodeSnapshotRequest_sound`, ...).

`decodeSnapshotRequest` returns the ticket it read beside `Request()` when a later read goes out of
range, and a default-initialised request, whose times are whatever the storage held, when the check
fails; so its soundness, and that of the range and stream requests, is stated for results whose
request is neither.
-/

namespace OwlCommon.WorldModel.Client

open Wire BuffReader

/-! ## Payloads read back -/

/-- A request and its ticket are read back from their pushes' bytes. -/
theorem readRequest_reads (request : Request) (ticket : UInt32) :
    Reads readRequest (request, ticket) (Push.bytesOf (requestPushes request ticket)) :=
  Reads.of_eq ((readPrimitive_reads ticket).seq ((readSizedUTF16_reads _).seq
    (Reads.count (fun a _ => readSizedUTF16_reads a)
      Push.bytes_sizedUTF16_ne_nil
      ((readPrimitive_reads _).seq ((readPrimitive_reads _).seq (reads_ret _))))))
    (by simp [requestPushes, Push.bytesOf_flatten_map])

/-- An alias is read back from its number's bytes and its sized name. -/
theorem readAliasType_reads (a : AliasType) :
    Reads readAliasType a (Push.bytesOf [pushBackVal a.«alias», .sizedUTF16 a.type]) :=
  Reads.of_eq ((readPrimitive_reads _).seq ((readSizedUTF16_reads _).seq (reads_ret _))) (by simp)

/-- Aliases are read back from their bytes behind their count. -/
theorem readAliases_reads (aliases : List AliasType) :
    Reads readAliases aliases (Push.bytesOf (aliasPushes aliases)) :=
  Reads.of_eq (Reads.count (fun a _ => readAliasType_reads a)
    (fun _ => Push.bytesOf_cons_ne_nil (Push.bytes_pushBackVal_ne_nil (by decide) _) _) (reads_ret aliases))
    (by simp [aliasPushes, Push.bytesOf_flatten_map])

/-- An attribute is read back from its pushes' bytes. -/
theorem readAliasedAttribute_reads (attr : AliasedAttribute) :
    Reads readAliasedAttribute attr (Push.bytesOf (attributePushes attr)) :=
  Reads.of_eq ((readPrimitive_reads _).seq ((readPrimitive_reads _).seq ((readPrimitive_reads _).seq
    ((readPrimitive_reads _).seq ((readSizedVector_reads _).seq (reads_ret _))))))
    (by simp [attributePushes])

/-- A data response and its ticket are read back from their pushes' bytes. -/
theorem readWorldData_reads (wd : AliasedWorldData) (ticket : UInt32) :
    Reads readWorldData (wd, ticket) (Push.bytesOf (dataPushes wd ticket)) :=
  Reads.of_eq ((readSizedUTF16_reads _).seq ((readPrimitive_reads _).seq
    (Reads.count (fun a _ => readAliasedAttribute_reads a)
      (fun _ => Push.bytesOf_cons_ne_nil (Push.bytes_pushBackVal_ne_nil (by decide) _) _) (reads_ret _))))
    (by simp [dataPushes, Push.bytesOf_flatten_map])

/-! ## Messages decode to what they were made from -/

/-- A snapshot request shorter than `2 ^ 32` bytes decodes to its request and ticket. -/
theorem decodeSnapshotRequest_makeSnapshotRequest (times : GrailTime × GrailTime) (request : Request)
    (ticket : UInt32) (h : (makeSnapshotRequest request ticket).length < 2 ^ 32) :
    decodeSnapshotRequest times (makeSnapshotRequest request ticket) = (request, ticket) := by
  rw [makeSnapshotRequest] at h ⊢
  rw [decodeSnapshotRequest, readFrame_finishMessage _ _ (readRequest_reads request ticket).toEnd h]
  rfl

/-- A range or stream request, with its type patched back, is the snapshot request. -/
theorem makeSnapshotRequest_set_set (request : Request) (ticket : UInt32) (id : UInt8) :
    ((makeSnapshotRequest request ticket).set 4 id).set 4 MessageID.snapshot_request.val =
      makeSnapshotRequest request ticket := by
  rw [List.set_set, makeSnapshotRequest, finishMessage_set_four (toBytes_messageID _)]

/-- A snapshot request whose byte 4 is set to `msg_type`, decoded for that type, gives its request
and ticket, and is patched back into the snapshot request: so range and stream requests decode to
what they were made from. -/
theorem decodePatchedRequest_makeSnapshotRequest (msg_type : MessageID) (times : GrailTime × GrailTime)
    (request : Request) (ticket : UInt32)
    (h : ((makeSnapshotRequest request ticket).set 4 msg_type.val).length < 2 ^ 32) :
    decodePatchedRequest msg_type times ((makeSnapshotRequest request ticket).set 4 msg_type.val) =
      ((request, ticket), makeSnapshotRequest request ticket) := by
  have h5 := (finishMessage_cons_five (toBytes_messageID MessageID.snapshot_request)
    (requestPushes request ticket)).1
  rw [List.length_set] at h
  rw [decodePatchedRequest, List.length_set, getD_set_four (by exact h5), if_pos ⟨h5, rfl⟩]
  dsimp only
  rw [makeSnapshotRequest_set_set, decodeSnapshotRequest_makeSnapshotRequest _ _ _ h]

/-- An attribute alias message decodes to its aliases. -/
theorem decodeAttrAliasMsg_makeAttrAliasMsg (aliases : List AliasType)
    (h : (makeAttrAliasMsg aliases).length < 2 ^ 32) :
    decodeAttrAliasMsg (makeAttrAliasMsg aliases) = aliases :=
  decodeFrame_finishMessage _ _ (readAliases_reads aliases).toEnd h

/-- An origin alias message decodes to its aliases, and is patched into the attribute alias
message. -/
theorem decodeOriginAliasMsg_makeOriginAliasMsg (aliases : List AliasType)
    (h : (makeOriginAliasMsg aliases).length < 2 ^ 32) :
    decodeOriginAliasMsg (makeOriginAliasMsg aliases) = (aliases, makeAttrAliasMsg aliases) := by
  have h5 := (finishMessage_cons_five (toBytes_messageID MessageID.attribute_alias)
    (aliasPushes aliases)).1
  have hset : (makeAttrAliasMsg aliases).set 4 MessageID.attribute_alias.val = makeAttrAliasMsg aliases :=
    finishMessage_set_four (toBytes_messageID _) _
  rw [makeOriginAliasMsg, List.length_set] at h
  have h6 : 5 < (makeAttrAliasMsg aliases).length := by
    rw [makeAttrAliasMsg, finishMessage_eq]
    simp [aliasPushes]
    omega
  rw [decodeOriginAliasMsg, makeOriginAliasMsg, List.length_set, getD_set_four (by exact h5), if_pos
    ⟨h6, rfl⟩]
  dsimp only
  rw [List.set_set, hset, decodeAttrAliasMsg_makeAttrAliasMsg _ h]

/-- The ticket messages are `finishMessage` of the type and the ticket: their constant length five
is what `finishMessage` counts. -/
theorem makeTicketMsg_eq (msg_type : MessageID) (ticket_number : UInt32) :
    makeTicketMsg msg_type ticket_number =
      finishMessage 0 [] [pushBackVal msg_type, pushBackVal ticket_number] := by
  rw [finishMessage_eq]
  rfl

/-- A request completion or cancellation decodes to its ticket. -/
theorem decodeTicketMsg_makeTicketMsg (msg_type : MessageID) (ticket_number : UInt32) :
    decodeTicketMsg msg_type (makeTicketMsg msg_type ticket_number) = ticket_number := by
  rw [decodeTicketMsg, makeTicketMsg_eq, readFrame_finishMessage _ _
    (ReadsEnd.of_eq (readPrimitive_reads ticket_number).toEnd (by simp)) (by
      rw [← makeTicketMsg_eq, makeTicketMsg]; simp)]

/-- A data response decodes to its world data and ticket. -/
theorem decodeDataMessage_makeDataMessage (wd : AliasedWorldData) (ticket : UInt32)
    (h : (makeDataMessage wd ticket).length < 2 ^ 32) :
    decodeDataMessage (makeDataMessage wd ticket) = (wd, ticket) :=
  decodeFrame_finishMessage _ _ (readWorldData_reads wd ticket).toEnd h

/-- A URI search decodes to its URI. -/
theorem decodeURISearch_makeURISearch (uri : URI) (h : (makeURISearch uri).length < 2 ^ 32) :
    decodeURISearch (makeURISearch uri) = uri := by
  rw [decodeURISearch, makeURISearch, readFrame_finishMessage _ _
    (ReadsEnd.of_eq (readTailUTF16_readsEnd uri) (by simp [Push.bytes])) h]

/-! ## Payloads parse as the pushes of what they return -/

/-- Whatever the buffer holds, the request read parses as its pushes. -/
theorem readRequest_parsesAs : ParsesAs readRequest (fun v => requestPushes v.1 v.2) :=
  ParsesAs.congr (ParsesAs.seq (fun v => v.2) readPrimitive_parsesAs (fun _ =>
    ParsesAs.seq (fun v => v.1.object_uri) readSizedUTF16_parsesAs (fun _ =>
      ParsesAs.count (fun v => v.1.attributes) readSizedUTF16_parsesAs (fun _ =>
        ParsesAs.seq (fun v => v.1.start) readPrimitive_parsesAs (fun _ =>
          ParsesAs.seq (fun v => v.1.stop_period) readPrimitive_parsesAs (fun _ => parsesAs_ret _)
            fun _ _ => rfl) fun _ _ => rfl) fun _ _ => rfl) fun _ _ => rfl) fun _ _ => rfl)
    fun _ => by simp [requestPushes]

/-- Whatever the buffer holds, the alias read parses as its pushes. -/
theorem readAliasType_parsesAs :
    ParsesAs readAliasType (fun a => [pushBackVal a.«alias», .sizedUTF16 a.type]) :=
  ParsesAs.congr (ParsesAs.seq (fun a => a.«alias») readPrimitive_parsesAs (fun _ =>
    ParsesAs.seq (fun a => a.type) readSizedUTF16_parsesAs (fun _ => parsesAs_ret _)
      fun _ _ => rfl) fun _ _ => rfl) fun _ => rfl

/-- Whatever the buffer holds, the aliases read parse as their pushes. -/
theorem readAliases_parsesAs : ParsesAs readAliases aliasPushes :=
  ParsesAs.congr (ParsesAs.count id readAliasType_parsesAs (fun _ => parsesAs_ret _) fun _ _ => rfl)
    fun _ => by simp [aliasPushes]

/-- Whatever the buffer holds, the attribute read parses as its pushes. -/
theorem readAliasedAttribute_parsesAs : ParsesAs readAliasedAttribute attributePushes :=
  ParsesAs.congr (ParsesAs.seq (fun a => a.name_alias) readPrimitive_parsesAs (fun _ =>
    ParsesAs.seq (fun a => a.creation_date) readPrimitive_parsesAs (fun _ =>
      ParsesAs.seq (fun a => a.expiration_date) readPrimitive_parsesAs (fun _ =>
        ParsesAs.seq (fun a => a.origin_alias) readPrimitive_parsesAs (fun _ =>
          ParsesAs.seq (fun a => a.data) readSizedVector_parsesAs (fun _ => parsesAs_ret _)
            fun _ _ => rfl) fun _ _ => rfl) fun _ _ => rfl) fun _ _ => rfl) fun _ _ => rfl)
    fun _ => rfl

/-- Whatever the buffer holds, the data response read parses as its pushes. -/
theorem readWorldData_parsesAs : ParsesAs readWorldData (fun v => dataPushes v.1 v.2) :=
  ParsesAs.congr (ParsesAs.seq (fun v : AliasedWorldData × UInt32 => v.1.object_uri)
    readSizedUTF16_parsesAs (fun _ =>
    ParsesAs.seq (fun v : AliasedWorldData × UInt32 => v.2) readPrimitive_parsesAs (fun _ =>
      ParsesAs.count (fun v : AliasedWorldData × UInt32 => v.1.attributes) readAliasedAttribute_parsesAs
        (fun _ => parsesAs_ret _) fun _ _ => rfl) fun _ _ => rfl) fun _ _ => rfl)
    fun _ => by simp [dataPushes]

/-! ## What the decoders accept -/

/-- A snapshot request decoded to a request other than `Request()` and the default-initialised one
was a frame of its type whose payload starts with the ticket and the request. -/
theorem decodeSnapshotRequest_sound {times : GrailTime × GrailTime} {buff : Buffer}
    (h : (decodeSnapshotRequest times buff).1 ≠ default)
    (hu : (decodeSnapshotRequest times buff).1 ≠ Request.uninitialised times) :
    AcceptedFrame MessageID.snapshot_request
      (requestPushes (decodeSnapshotRequest times buff).1 (decodeSnapshotRequest times buff).2)
      buff := by
  simp only [decodeSnapshotRequest] at h hu ⊢
  rcases hr : readFrame MessageID.snapshot_request readRequest (Request.uninitialised times, 0) buff
    with ⟨⟨request, ticket⟩, r⟩
  rw [hr] at h hu
  cases hoor : r.out_of_range
  · simp only [hoor, Bool.false_eq_true, if_false] at hu ⊢
    have := readFrame_sound readRequest_parsesAs (by rw [hr]; exact hoor)
      (by rw [hr]; exact fun e => hu (congrArg Prod.fst e))
    rwa [hr] at this
  · simp only [hoor, if_true] at h
    exact absurd rfl h

/-- Byte 4 of a buffer of at least five bytes, as the bytes of a message type. -/
theorem drop_four_take {buff : Buffer} {m : MessageID} (h5 : 5 ≤ buff.length) (hm : buff.getD 4 0 = m.val) :
    (buff.drop 4).take (width MessageID) = toBytes m := by
  rw [width_messageID, take_one_drop_four h5, hm, toBytes_messageID]

/-- A range or stream request decoded to a request other than `Request()` and the
default-initialised one was a frame of its own type, byte 4 being checked before it is patched. -/
theorem decodePatchedRequest_sound {msg_type : MessageID} {times : GrailTime × GrailTime}
    {buff : Buffer} (h : (decodePatchedRequest msg_type times buff).1.1 ≠ default)
    (hu : (decodePatchedRequest msg_type times buff).1.1 ≠ Request.uninitialised times) :
    AcceptedFrame msg_type (requestPushes (decodePatchedRequest msg_type times buff).1.1
      (decodePatchedRequest msg_type times buff).1.2) buff := by
  unfold decodePatchedRequest at h hu ⊢
  by_cases hg : 5 ≤ buff.length ∧ buff.getD 4 0 = msg_type.val
  · rw [if_pos hg] at h hu ⊢
    exact (decodeSnapshotRequest_sound h hu).of_set_four rfl (drop_four_take hg.1 hg.2)
  · rw [if_neg hg] at hu
    exact absurd rfl hu

/-- Aliases decoded from a buffer come from an attribute alias frame that holds them. -/
theorem decodeAttrAliasMsg_sound {buff : Buffer} (h : decodeAttrAliasMsg buff ≠ []) :
    AcceptedFrame MessageID.attribute_alias (aliasPushes (decodeAttrAliasMsg buff)) buff :=
  decodeFrame_sound readAliases_parsesAs h

/-- Aliases decoded as origin aliases come from an origin alias frame that holds them. -/
theorem decodeOriginAliasMsg_sound {buff : Buffer} (h : (decodeOriginAliasMsg buff).1 ≠ []) :
    AcceptedFrame MessageID.origin_alias (aliasPushes (decodeOriginAliasMsg buff).1) buff := by
  unfold decodeOriginAliasMsg at h ⊢
  by_cases hg : 5 < buff.length ∧ buff.getD 4 0 = MessageID.origin_alias.val
  · rw [if_pos hg] at h ⊢
    exact (decodeAttrAliasMsg_sound h).of_set_four rfl (drop_four_take (Nat.le_of_lt hg.1) hg.2)
  · rw [if_neg hg] at h
    exact absurd rfl h

/-- A nonzero ticket comes from a frame of the expected type that holds it. -/
theorem decodeTicketMsg_sound {msg_type : MessageID} (hz : msg_type ≠ zero) {buff : Buffer}
    (h : decodeTicketMsg msg_type buff ≠ 0) :
    AcceptedFrame msg_type [pushBackVal (decodeTicketMsg msg_type buff)] buff := by
  have e := readFrame_eq hz (readPrimitive UInt32) 0 buff
  unfold decodeTicketMsg at h ⊢
  split at e
  · rename_i hc
    refine readFrame_sound readPrimitive_parsesAs ?_ h
    rw [e, readPrimitive_atPos_of_ne (by omega) (by rw [e] at h; exact h)]
    rfl
  · rw [e] at h
    exact absurd rfl h

/-- World data other than the failure value comes from a data response frame that holds it. -/
theorem decodeDataMessage_sound {buff : Buffer} (h : decodeDataMessage buff ≠ (default, 0)) :
    AcceptedFrame MessageID.data_response
      (dataPushes (decodeDataMessage buff).1 (decodeDataMessage buff).2) buff :=
  decodeFrame_sound readWorldData_parsesAs h

/-- A nonempty URI comes from a URI search frame whose payload is its code units. -/
theorem decodeURISearch_sound {buff : Buffer} (h : decodeURISearch buff ≠ []) :
    AcceptedFrame MessageID.uri_search [.utf16 (decodeURISearch buff)] buff := by
  have e := readFrame_eq (by decide : MessageID.uri_search ≠ zero) readTailUTF16 [] buff
  unfold decodeURISearch at h ⊢
  split at e
  · rename_i hc
    refine readFrame_sound readTailUTF16_parsesAs ?_ h
    rw [e, readTailUTF16_atPos hc.1 hc.2.1]
    rfl
  · rw [e] at h
    exact absurd rfl h

/-! ## The URI search response

`decodeURISearchResponse` reads a count and then that many sized strings, while
`makeURISearchResponse` writes the sized strings with no count before them. The decoder takes
back the counted form, and what it accepts is that form; the encoder's output is read with the
first string's length field as the count. -/

/-- URIs are read back from their sized strings behind their count. -/
theorem readURIs_reads (uris : List URI) :
    Reads readURIs uris (Push.bytesOf (pushBackVal (UInt32.ofNat uris.length) ::
      (uris.map fun uri => [.sizedUTF16 uri]).flatten)) :=
  Reads.of_eq (Reads.count (fun u _ => readSizedUTF16_reads u)
    Push.bytes_sizedUTF16_ne_nil (reads_ret _))
    (by simp [Push.bytesOf_flatten_map])

/-- A response with the count before the URIs decodes to the URIs. -/
theorem decodeURISearchResponse_counted (uris : List URI)
    (h : (finishMessage 0 [] (pushBackVal MessageID.uri_response ::
      pushBackVal (UInt32.ofNat uris.length) :: (uris.map fun uri => [.sizedUTF16 uri]).flatten)).length <
      2 ^ 32) :
    decodeURISearchResponse (finishMessage 0 [] (pushBackVal MessageID.uri_response ::
      pushBackVal (UInt32.ofNat uris.length) :: (uris.map fun uri => [.sizedUTF16 uri]).flatten)) =
      uris :=
  decodeFrame_finishMessage _ _ (readURIs_reads uris).toEnd h

/-- The counted response to `["a"]` decodes to it. -/
theorem decodeURISearchResponse_counted_a :
    decodeURISearchResponse (finishMessage 0 [] (pushBackVal MessageID.uri_response ::
      pushBackVal (UInt32.ofNat ([[97]] : List URI).length) ::
        (([[97]] : List URI).map fun uri => [.sizedUTF16 uri]).flatten)) = [[97]] :=
  decodeURISearchResponse_counted [[97]] (by decide)

/-- Whatever the buffer holds, the URIs read parse as their pushes. -/
theorem readURIs_parsesAs : ParsesAs readURIs (fun uris => pushBackVal (UInt32.ofNat uris.length) ::
    (uris.map fun uri => [.sizedUTF16 uri]).flatten) :=
  ParsesAs.congr (ParsesAs.count id readSizedUTF16_parsesAs (fun _ => parsesAs_ret _) fun _ _ => rfl)
    fun _ => by simp

/-- A nonempty result comes from a counted response. -/
theorem decodeURISearchResponse_sound {buff : Buffer} (h : decodeURISearchResponse buff ≠ []) :
    AcceptedFrame MessageID.uri_response (pushBackVal (UInt32.ofNat (decodeURISearchResponse buff).length) ::
      ((decodeURISearchResponse buff).map fun uri => [.sizedUTF16 uri]).flatten) buff :=
  decodeFrame_sound readURIs_parsesAs h

/-- The counted response to `["a"]`, `[0, 0, 0, 11, 10, 0, 0, 0, 1, 0, 0, 0, 2, 0, 97]`, is
accepted as such. -/
theorem decodeURISearchResponse_sound_a :
    decodeURISearchResponse [0, 0, 0, 11, 10, 0, 0, 0, 1, 0, 0, 0, 2, 0, 97] ≠ [] ∧
      AcceptedFrame MessageID.uri_response
        (pushBackVal (UInt32.ofNat (decodeURISearchResponse
          [0, 0, 0, 11, 10, 0, 0, 0, 1, 0, 0, 0, 2, 0, 97]).length) ::
          ((decodeURISearchResponse [0, 0, 0, 11, 10, 0, 0, 0, 1, 0, 0, 0, 2, 0, 97]).map
            fun uri => [.sizedUTF16 uri]).flatten)
        [0, 0, 0, 11, 10, 0, 0, 0, 1, 0, 0, 0, 2, 0, 97] :=
  have h : decodeURISearchResponse [0, 0, 0, 11, 10, 0, 0, 0, 1, 0, 0, 0, 2, 0, 97] ≠ [] := by
    decide
  ⟨h, decodeURISearchResponse_sound h⟩

/-- The response to `["a"]` is `[0, 0, 0, 7, 10, 0, 0, 0, 2, 0, 97]`: its decoder reads the count
two from the string's length field, and the next length field does not fit. -/
theorem decodeURISearchResponse_makeURISearchResponse_a :
    decodeURISearchResponse (makeURISearchResponse [[97]]) = [] := by
  decide

end OwlCommon.WorldModel.Client
