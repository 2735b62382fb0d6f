import OwlCommon.WorldModel.Solver

/-!
# The solver face: round trips, and what the decoders accept

The solver messages in the form of `ClientCodec.lean`: each payload's reads take back what its
pushes write, so each message shorter than `2 ^ 32` bytes decodes to what it was built from; and
each payload's reads parse as the pushes of what they return, so a result other than the
decoder's failure value comes from an `AcceptedFrame`.

A flag goes out as the byte one or zero. `decodeTypeAnnounceMsg` takes it back as `!= 0` and
`decodeSolutionMsg` as `== 1`; both give the flag back (`FlagRead.test_flag_byte`), and each
accepts the bytes its comparison maps to the flag it returns.

`decodeTypeAnnounceMsg` reads its origin whether or not the check passed, so its soundness is
stated for results whose check passed: those with an alias, and those from a frame whose header
is right.
-/

namespace OwlCommon.WorldModel.Solver

open Wire BuffReader

/-! ## Payloads read back -/

/-- An alias, its type and its flag read back. -/
theorem readAliasType_reads (a : AliasType) :
    Reads readAliasType a (Push.bytesOf (aliasTypePushes a)) :=
  Reads.of_eq ((readPrimitive_reads _).seq ((readSizedUTF16_reads _).seq
    ((readPrimitive_reads (if a.on_demand then (1 : UInt8) else 0)).seq
      (reads_ret_of_eq (congrArg (AliasType.mk a.«alias» a.type) (FlagRead.nonzero.test_flag_byte a.on_demand))))))
    (by simp [aliasTypePushes])

/-- The count and the aliases read back; the origin after them is read apart. -/
theorem readAliases_reads (type_alias : List AliasType) :
    Reads readAliases type_alias (Push.bytesOf (pushBackVal (UInt32.ofNat type_alias.length) ::
      (type_alias.map aliasTypePushes).flatten)) :=
  Reads.of_eq (Reads.count (fun a _ => readAliasType_reads a)
    (fun _ => Push.bytesOf_cons_ne_nil (Push.bytes_pushBackVal_ne_nil (by decide) _) _) (reads_ret _))
    (by simp [Push.bytesOf_flatten_map])

/-- An alias and its attribute patterns read back. -/
theorem readOnDemandAlias_reads (a : UInt32 × List U16String) :
    Reads readOnDemandAlias a (Push.bytesOf (onDemandAliasPushes a)) :=
  Reads.of_eq ((readPrimitive_reads _).seq (Reads.count (fun s _ => readSizedUTF16_reads s)
    Push.bytes_sizedUTF16_ne_nil (reads_ret _)))
    (by simp [onDemandAliasPushes, Push.bytesOf_flatten_map])

/-- On-demand aliases are read back from their pushes' bytes. -/
theorem readOnDemand_reads (aliases : OnDemand) :
    Reads readOnDemand aliases (Push.bytesOf (onDemandPushes aliases)) :=
  Reads.of_eq (Reads.count (fun a _ => readOnDemandAlias_reads a)
    (fun _ => Push.bytesOf_cons_ne_nil (Push.bytes_pushBackVal_ne_nil (by decide) _) _) (reads_ret _))
    (by simp [onDemandPushes, Push.bytesOf_flatten_map])

/-- A solution is read back from its pushes' bytes. -/
theorem readSolution_reads (soln : SolutionData) :
    Reads readSolution soln (Push.bytesOf (solutionPushes soln)) :=
  Reads.of_eq ((readPrimitive_reads _).seq ((readPrimitive_reads _).seq
    ((readSizedUTF16_reads _).seq ((readSizedVector_reads _).seq (reads_ret _)))))
    (by simp [solutionPushes])

/-- The flag and the solutions are read back from their pushes' bytes. -/
theorem readSolutions_reads (create_uris : Bool) (solutions : List SolutionData) :
    Reads readSolutions (create_uris, solutions)
      (Push.bytesOf (solutionMsgPushes create_uris solutions)) :=
  Reads.of_eq ((readPrimitive_reads (if create_uris then (1 : UInt8) else 0)).seq
    (Reads.count (fun s _ => readSolution_reads s)
      (fun _ => Push.bytesOf_cons_ne_nil (Push.bytes_pushBackVal_ne_nil (by decide) _) _)
      (reads_ret_of_eq (congrArg (Prod.mk · solutions) (FlagRead.one.test_flag_byte create_uris)))))
    (by simp [solutionMsgPushes, Push.bytesOf_flatten_map])

/-- The tail messages' reads run to the end of the buffer. -/
theorem readURITime_readsEnd (uri : URI) (time : GrailTime) (origin : U16String) :
    ReadsEnd readURITime (uri, time, origin) (Push.bytesOf (uriTimePushes uri time origin)) :=
  ReadsEnd.of_eq ((readSizedUTF16_reads _).seqEnd ((readPrimitive_reads _).seqEnd
    ((readTailUTF16_readsEnd origin).seq (reads_ret _)))) (by simp [uriTimePushes])

/-- An expiration of an attribute is read back from its pushes' bytes, which end the buffer. -/
theorem readExpireAttribute_readsEnd (uri : URI) (attr origin : U16String) (expiration : GrailTime) :
    ReadsEnd readExpireAttribute (uri, attr, expiration, origin)
      (Push.bytesOf (expireAttributePushes uri attr origin expiration)) :=
  ReadsEnd.of_eq ((readSizedUTF16_reads _).seqEnd ((readSizedUTF16_reads _).seqEnd
    ((readPrimitive_reads _).seqEnd ((readTailUTF16_readsEnd origin).seq (reads_ret _)))))
    (by simp [expireAttributePushes])

/-- A deletion of a URI is read back from its pushes' bytes, which end the buffer. -/
theorem readDeleteURI_readsEnd (uri : URI) (origin : U16String) :
    ReadsEnd readDeleteURI (uri, origin) (Push.bytesOf (deleteURIPushes uri origin)) :=
  ReadsEnd.of_eq ((readSizedUTF16_reads _).seqEnd ((readTailUTF16_readsEnd origin).seq
    (reads_ret _))) (by simp [deleteURIPushes])

/-- A deletion of an attribute is read back from its pushes' bytes, which end the buffer. -/
theorem readDeleteAttribute_readsEnd (uri : URI) (attr origin : U16String) :
    ReadsEnd readDeleteAttribute (uri, attr, origin) (Push.bytesOf (deleteAttributePushes uri attr origin)) :=
  ReadsEnd.of_eq ((readSizedUTF16_reads _).seqEnd ((readSizedUTF16_reads _).seqEnd
    ((readTailUTF16_readsEnd origin).seq (reads_ret _)))) (by simp [deleteAttributePushes])

/-! ## Messages decode to what they were made from -/

/-- The type announcement's origin is read after the aliases, from where they end. -/
theorem decodeTypeAnnounceMsg_makeTypeAnnounceMsg (type_alias : List AliasType) (origin : U16String)
    (h : (makeTypeAnnounceMsg type_alias origin).length < 2 ^ 32) :
    decodeTypeAnnounceMsg (makeTypeAnnounceMsg type_alias origin) = (type_alias, origin) := by
  have hsplit : typeAnnouncePushes type_alias origin = (pushBackVal (UInt32.ofNat type_alias.length) ::
      (type_alias.map aliasTypePushes).flatten) ++ [.utf16 origin] := rfl
  rw [makeTypeAnnounceMsg, hsplit] at h ⊢
  have htail := readTailUTF16_readsEnd origin _
    (4 + width MessageID + (Push.bytesOf (pushBackVal (UInt32.ofNat type_alias.length) ::
      (type_alias.map aliasTypePushes).flatten)).length) false h
    (by rw [length_finishMessage, Push.bytesOf_append, List.length_append]; omega)
    (by rw [drop_finishMessage_append]; simp)
  simp only [decodeTypeAnnounceMsg, readFrame_finishMessage_append _ _ (readAliases_reads type_alias) h,
    htail, atPos_out_of_range, Bool.false_eq_true, if_false]

/-- A start on demand message decodes to its aliases and patterns. -/
theorem decodeStartOnDemand_makeStartOnDemand (aliases : OnDemand)
    (h : (makeStartOnDemand aliases).length < 2 ^ 32) :
    decodeStartOnDemand (makeStartOnDemand aliases) = aliases :=
  decodeFrame_finishMessage _ _ (readOnDemand_reads aliases).toEnd h

/-- A stop message passes its own check, and with its type patched back it is the start message. -/
theorem decodeStopOnDemand_makeStopOnDemand (aliases : OnDemand)
    (h : (makeStopOnDemand aliases).length < 2 ^ 32) :
    decodeStopOnDemand (makeStopOnDemand aliases) = (aliases, makeStartOnDemand aliases) := by
  have hcons := finishMessage_cons (toBytes_messageID MessageID.start_on_demand) (onDemandPushes aliases)
  rw [makeStopOnDemand, List.length_set] at h
  have hlen := lengthMatches_finishMessage _ h
  have hset : (makeStartOnDemand aliases).set 4 MessageID.stop_on_demand.val =
      toBytes (Push.total 0 (pushBackVal MessageID.start_on_demand :: onDemandPushes aliases)) ++
        [MessageID.stop_on_demand.val] ++ Push.bytesOf (onDemandPushes aliases) := by
    rw [makeStartOnDemand, hcons, set_four, List.append_assoc]
    rfl
  have hhead := readHeader_reads (Push.total 0 (pushBackVal MessageID.start_on_demand ::
    onDemandPushes aliases)) MessageID.stop_on_demand
    ((makeStartOnDemand aliases).set 4 MessageID.stop_on_demand.val) 0 false
    (by rw [List.length_set]; exact h) (Nat.zero_le _)
    (by rw [hset, List.drop_zero, toBytes_messageID]; exact List.prefix_append _ _)
  rw [decodeStopOnDemand, makeStopOnDemand, init_eq, hhead]
  dsimp only
  rw [if_pos ⟨by rw [lengthMatches, List.length_set]; exact hlen, rfl⟩, List.set_set, makeStartOnDemand,
    finishMessage_set_four (toBytes_messageID _), ← makeStartOnDemand,
    decodeStartOnDemand_makeStartOnDemand _ h]

/-- A solver data message decodes to its flag and solutions. -/
theorem decodeSolutionMsg_makeSolutionMsg (create_uris : Bool) (solutions : List SolutionData)
    (h : (makeSolutionMsg create_uris solutions).length < 2 ^ 32) :
    decodeSolutionMsg (makeSolutionMsg create_uris solutions) = (create_uris, solutions) :=
  decodeFrame_finishMessage _ _ (readSolutions_reads create_uris solutions).toEnd h

/-- A URI creation decodes to its URI, time and origin. -/
theorem decodeCreateURI_makeCreateURI (new_uri : URI) (creation : GrailTime) (origin : U16String)
    (h : (makeCreateURI new_uri creation origin).length < 2 ^ 32) :
    decodeCreateURI (makeCreateURI new_uri creation origin) = (new_uri, creation, origin) :=
  decodeFrame_finishMessage _ _ (readURITime_readsEnd new_uri creation origin) h

/-- A URI expiry decodes to its URI, time and origin. -/
theorem decodeExpireURI_makeExpireURI (uri : URI) (expiration : GrailTime) (origin : U16String)
    (h : (makeExpireURI uri expiration origin).length < 2 ^ 32) :
    decodeExpireURI (makeExpireURI uri expiration origin) = (uri, expiration, origin) :=
  decodeFrame_finishMessage _ _ (readURITime_readsEnd uri expiration origin) h

/-- An attribute expiry decodes to its URI, attribute, time and origin. -/
theorem decodeExpireAttribute_makeExpireAttribute (uri : URI) (attr origin : U16String)
    (expiration : GrailTime) (h : (makeExpireAttribute uri attr origin expiration).length < 2 ^ 32) :
    decodeExpireAttribute (makeExpireAttribute uri attr origin expiration) =
      (uri, attr, expiration, origin) :=
  decodeFrame_finishMessage _ _ (readExpireAttribute_readsEnd uri attr origin expiration) h

/-- A URI deletion decodes to its URI and origin. -/
theorem decodeDeleteURI_makeDeleteURI (uri : URI) (origin : U16String)
    (h : (makeDeleteURI uri origin).length < 2 ^ 32) :
    decodeDeleteURI (makeDeleteURI uri origin) = (uri, origin) :=
  decodeFrame_finishMessage _ _ (readDeleteURI_readsEnd uri origin) h

/-- An attribute deletion decodes to its URI, attribute and origin. -/
theorem decodeDeleteAttribute_makeDeleteAttribute (uri : URI) (attr origin : U16String)
    (h : (makeDeleteAttribute uri attr origin).length < 2 ^ 32) :
    decodeDeleteAttribute (makeDeleteAttribute uri attr origin) = (uri, attr, origin) :=
  decodeFrame_finishMessage _ _ (readDeleteAttribute_readsEnd uri attr origin) h

/-! ## Payloads parse as the pushes of what they return -/

/-- Whatever the buffer holds, the alias read parses as its pushes. -/
theorem readAliasType_parsesAs : ParsesAs readAliasType aliasTypePushes :=
  ParsesAs.congr (ParsesAs.seq (fun a => a.«alias») readPrimitive_parsesAs (fun _ =>
    ParsesAs.seq (fun a => a.type) readSizedUTF16_parsesAs (fun _ =>
      ParsesAs.seqFlag (fun a => a.on_demand) .nonzero (fun _ => parsesAs_ret _) fun _ _ => rfl)
        fun _ _ => rfl) fun _ _ => rfl) fun _ => rfl

/-- Whatever the buffer holds, the aliases read parse as their pushes. -/
theorem readAliases_parsesAs : ParsesAs readAliases
    (fun type_alias => pushBackVal (UInt32.ofNat type_alias.length) ::
      (type_alias.map aliasTypePushes).flatten) :=
  ParsesAs.congr (ParsesAs.count id readAliasType_parsesAs (fun _ => parsesAs_ret _) fun _ _ => rfl)
    fun _ => by simp

/-- Whatever the buffer holds, the on-demand alias read parses as its pushes. -/
theorem readOnDemandAlias_parsesAs : ParsesAs readOnDemandAlias onDemandAliasPushes :=
  ParsesAs.congr (ParsesAs.seq Prod.fst readPrimitive_parsesAs (fun _ =>
    ParsesAs.count Prod.snd readSizedUTF16_parsesAs (fun _ => parsesAs_ret _) fun _ _ => rfl)
      fun _ _ => rfl) fun _ => by simp [onDemandAliasPushes]

/-- Whatever the buffer holds, the on-demand aliases read parse as their pushes. -/
theorem readOnDemand_parsesAs : ParsesAs readOnDemand onDemandPushes :=
  ParsesAs.congr (ParsesAs.count id readOnDemandAlias_parsesAs (fun _ => parsesAs_ret _)
    fun _ _ => rfl) fun _ => by simp [onDemandPushes]

/-- Whatever the buffer holds, the solution read parses as its pushes. -/
theorem readSolution_parsesAs : ParsesAs readSolution solutionPushes :=
  ParsesAs.congr (ParsesAs.seq (fun s => s.type_alias) readPrimitive_parsesAs (fun _ =>
    ParsesAs.seq (fun s => s.time) readPrimitive_parsesAs (fun _ =>
      ParsesAs.seq (fun s => s.target) readSizedUTF16_parsesAs (fun _ =>
        ParsesAs.seq (fun s => s.data) readSizedVector_parsesAs (fun _ => parsesAs_ret _)
          fun _ _ => rfl) fun _ _ => rfl) fun _ _ => rfl) fun _ _ => rfl) fun _ => rfl

/-- Whatever the buffer holds, the flag and solutions read parse as their pushes, the flag read as
`byte == 1`. -/
theorem readSolutions_parsesAs : ParsesAs readSolutions (fun v => solutionMsgPushes v.1 v.2) :=
  ParsesAs.congr (ParsesAs.seqFlag Prod.fst .one (fun _ =>
    ParsesAs.count Prod.snd readSolution_parsesAs (fun _ => parsesAs_ret _) fun _ _ => rfl)
      fun _ _ => rfl) fun _ => by simp [solutionMsgPushes]

/-- Whatever the buffer holds, the URI and time read parse as their pushes. -/
theorem readURITime_parsesAs : ParsesAs readURITime (fun v => uriTimePushes v.1 v.2.1 v.2.2) :=
  ParsesAs.congr (ParsesAs.seq (fun v : URI × GrailTime × U16String => v.1) readSizedUTF16_parsesAs
    (fun _ => ParsesAs.seq (fun v : URI × GrailTime × U16String => v.2.1) readPrimitive_parsesAs
      (fun _ => ParsesAs.seq (fun v : URI × GrailTime × U16String => v.2.2) readTailUTF16_parsesAs
        (fun _ => parsesAs_ret _) fun _ _ => rfl) fun _ _ => rfl) fun _ _ => rfl) fun _ => rfl

/-- Whatever the buffer holds, the expiration of an attribute read parses as its pushes. -/
theorem readExpireAttribute_parsesAs :
    ParsesAs readExpireAttribute (fun v => expireAttributePushes v.1 v.2.1 v.2.2.2 v.2.2.1) :=
  ParsesAs.congr (ParsesAs.seq (fun v : URI × U16String × GrailTime × U16String => v.1)
    readSizedUTF16_parsesAs (fun _ =>
    ParsesAs.seq (fun v : URI × U16String × GrailTime × U16String => v.2.1) readSizedUTF16_parsesAs
      (fun _ => ParsesAs.seq (fun v : URI × U16String × GrailTime × U16String => v.2.2.1)
        readPrimitive_parsesAs (fun _ =>
        ParsesAs.seq (fun v : URI × U16String × GrailTime × U16String => v.2.2.2)
          readTailUTF16_parsesAs (fun _ => parsesAs_ret _) fun _ _ => rfl) fun _ _ => rfl)
        fun _ _ => rfl) fun _ _ => rfl) fun _ => rfl

/-- Whatever the buffer holds, the deletion of a URI read parses as its pushes. -/
theorem readDeleteURI_parsesAs : ParsesAs readDeleteURI (fun v => deleteURIPushes v.1 v.2) :=
  ParsesAs.congr (ParsesAs.seq (fun v : URI × U16String => v.1) readSizedUTF16_parsesAs (fun _ =>
    ParsesAs.seq (fun v : URI × U16String => v.2) readTailUTF16_parsesAs (fun _ => parsesAs_ret _)
      fun _ _ => rfl) fun _ _ => rfl) fun _ => rfl

/-- Whatever the buffer holds, the deletion of an attribute read parses as its pushes. -/
theorem readDeleteAttribute_parsesAs :
    ParsesAs readDeleteAttribute (fun v => deleteAttributePushes v.1 v.2.1 v.2.2) :=
  ParsesAs.congr (ParsesAs.seq (fun v : URI × U16String × U16String => v.1) readSizedUTF16_parsesAs
    (fun _ => ParsesAs.seq (fun v : URI × U16String × U16String => v.2.1) readSizedUTF16_parsesAs
      (fun _ => ParsesAs.seq (fun v : URI × U16String × U16String => v.2.2) readTailUTF16_parsesAs
        (fun _ => parsesAs_ret _) fun _ _ => rfl) fun _ _ => rfl) fun _ _ => rfl) fun _ => rfl

/-! ## What the decoders accept -/

/-- A type announcement whose check passed: it has an alias, or its header is right. Its aliases
and its origin are then those of the frame, as the reads accept them. -/
theorem decodeTypeAnnounceMsg_sound {buff : Buffer} (h : decodeTypeAnnounceMsg buff ≠ ([], []))
    (hc : (decodeTypeAnnounceMsg buff).1 ≠ [] ∨ (buff.length < 2 ^ 32 ∧
      beNat (buff.take 4) + 4 = buff.length ∧
      (buff.drop 4).take 1 = toBytes MessageID.type_announce)) :
    AcceptedFrame MessageID.type_announce
      (typeAnnouncePushes (decodeTypeAnnounceMsg buff).1 (decodeTypeAnnounceMsg buff).2) buff := by
  have e := readFrame_eq (by decide : MessageID.type_announce ≠ zero) readAliases [] buff
  have hp : ParsesAs (readAliases >>= fun type_alias => readTailUTF16 >>= fun origin =>
      pure (type_alias, origin)) (fun v => typeAnnouncePushes v.1 v.2) :=
    ParsesAs.congr (ParsesAs.seq Prod.fst readAliases_parsesAs (fun _ =>
      ParsesAs.seq Prod.snd readTailUTF16_parsesAs (fun _ => parsesAs_ret _) fun _ _ => rfl)
        fun _ _ => rfl) fun _ => by simp [typeAnnouncePushes]
  by_cases hcheck : buff.length < 2 ^ 32 ∧ 4 + width MessageID ≤ buff.length ∧
      lengthMatches buff (ofBytes (buff.take 4)) ∧
      (ofBytes ((buff.drop 4).take (width MessageID)) : MessageID) = MessageID.type_announce
  · have hD : decodeTypeAnnounceMsg buff =
        if ((readAliases >>= fun type_alias => readTailUTF16 >>= fun origin =>
          pure (type_alias, origin)) (atPos buff (4 + width MessageID) false)).2.out_of_range
        then ([], []) else ((readAliases >>= fun type_alias => readTailUTF16 >>= fun origin =>
          pure (type_alias, origin)) (atPos buff (4 + width MessageID) false)).1 := by
      rw [decodeTypeAnnounceMsg, e, if_pos hcheck]
      rfl
    rw [hD] at h ⊢
    rcases hp.2 buff _ false hcheck.1 hcheck.2.1 with hoor | ⟨v, c, ev, hc', hv⟩
    · rw [if_pos hoor] at h
      exact absurd rfl h
    · rw [ev, atPos_out_of_range, if_neg Bool.false_ne_true]
      exact acceptedFrame_of_check hcheck.2.2 hcheck.2.1 ⟨c, _, drop_eq_of_prefix hc', hv⟩
  · have hD : (decodeTypeAnnounceMsg buff).1 = [] := by
      rw [decodeTypeAnnounceMsg, e, if_neg hcheck]
      dsimp only
      split
      split <;> rfl
    rcases hc with hc | ⟨hs, hl, hm⟩
    · exact absurd hD hc
    · exact absurd ⟨hs, check_of_header hs hl hm⟩ hcheck

/-- Aliases decoded from a buffer come from a start on demand frame that holds them. -/
theorem decodeStartOnDemand_sound {buff : Buffer} (h : decodeStartOnDemand buff ≠ []) :
    AcceptedFrame MessageID.start_on_demand (onDemandPushes (decodeStartOnDemand buff)) buff :=
  decodeFrame_sound readOnDemand_parsesAs h

/-- A stop message is checked as such before its type is patched, so byte 4 of the input is
`stop_on_demand`. -/
theorem decodeStopOnDemand_sound {buff : Buffer} (h : (decodeStopOnDemand buff).1 ≠ []) :
    AcceptedFrame MessageID.stop_on_demand (onDemandPushes (decodeStopOnDemand buff).1) buff := by
  unfold decodeStopOnDemand at h ⊢
  rw [init_eq] at h ⊢
  rcases hh : readHeader MessageID (atPos buff 0 false) with ⟨⟨total_length, msg_type⟩, reader⟩
  rw [hh] at h
  dsimp only at h ⊢
  by_cases hc : lengthMatches buff total_length ∧ msg_type = MessageID.stop_on_demand
  · rw [if_pos hc] at h ⊢
    have hs := decodeStartOnDemand_sound h
    have hsmall : buff.length < 2 ^ 32 := hc.1 ▸ (total_length + 4).toNat_lt_size
    have hlen : 4 + width MessageID ≤ buff.length := by
      have := congrArg List.length hs.2.1
      simp only [List.length_take, List.length_drop, List.length_set, width_messageID,
        length_toBytes] at this ⊢
      omega
    exact hs.of_set_four rfl (take_of_readHeader hsmall hlen (by rw [hh]; exact hc.2))
  · rw [if_neg hc] at h
    exact absurd rfl h

/-- Solutions decoded from a buffer come from a solver data frame that holds them. -/
theorem decodeSolutionMsg_sound {buff : Buffer} (h : decodeSolutionMsg buff ≠ (false, [])) :
    AcceptedFrame MessageID.solver_data
      (solutionMsgPushes (decodeSolutionMsg buff).1 (decodeSolutionMsg buff).2) buff :=
  decodeFrame_sound readSolutions_parsesAs h

/-- A URI creation other than the failure value comes from a frame of its type that holds it. -/
theorem decodeCreateURI_sound {buff : Buffer} (h : decodeCreateURI buff ≠ ([], ⟨0⟩, [])) :
    AcceptedFrame MessageID.create_uri (uriTimePushes (decodeCreateURI buff).1
      (decodeCreateURI buff).2.1 (decodeCreateURI buff).2.2) buff :=
  decodeFrame_sound readURITime_parsesAs h

/-- A URI expiry other than the failure value comes from a frame of its type that holds it. -/
theorem decodeExpireURI_sound {buff : Buffer} (h : decodeExpireURI buff ≠ ([], ⟨0⟩, [])) :
    AcceptedFrame MessageID.expire_uri (uriTimePushes (decodeExpireURI buff).1
      (decodeExpireURI buff).2.1 (decodeExpireURI buff).2.2) buff :=
  decodeFrame_sound readURITime_parsesAs h

/-- An attribute expiry other than the failure value comes from a frame of its type that holds
it. -/
theorem decodeExpireAttribute_sound {buff : Buffer}
    (h : decodeExpireAttribute buff ≠ ([], [], ⟨0⟩, [])) :
    AcceptedFrame MessageID.expire_attribute (expireAttributePushes (decodeExpireAttribute buff).1
      (decodeExpireAttribute buff).2.1 (decodeExpireAttribute buff).2.2.2
      (decodeExpireAttribute buff).2.2.1) buff :=
  decodeFrame_sound readExpireAttribute_parsesAs h

/-- A URI deletion other than the failure value comes from a frame of its type that holds it. -/
theorem decodeDeleteURI_sound {buff : Buffer} (h : decodeDeleteURI buff ≠ ([], [])) :
    AcceptedFrame MessageID.delete_uri
      (deleteURIPushes (decodeDeleteURI buff).1 (decodeDeleteURI buff).2) buff :=
  decodeFrame_sound readDeleteURI_parsesAs h

/-- An attribute deletion other than the failure value comes from a frame of its type that
holds it. -/
theorem decodeDeleteAttribute_sound {buff : Buffer} (h : decodeDeleteAttribute buff ≠ ([], [], [])) :
    AcceptedFrame MessageID.delete_attribute (deleteAttributePushes (decodeDeleteAttribute buff).1
      (decodeDeleteAttribute buff).2.1 (decodeDeleteAttribute buff).2.2) buff :=
  decodeFrame_sound readDeleteAttribute_parsesAs h

end OwlCommon.WorldModel.Solver
