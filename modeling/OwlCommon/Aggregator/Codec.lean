import OwlCommon.Aggregator.Protocol
import OwlCommon.WorldModel.Frame

/-!
# The aggregator protocols: what the decoders return

A sample whose length field matches the length passed in is marked valid whatever the reads did,
since no decoder here tests the out-of-range flag. When the frame does hold the fixed fields
(`49 ≤ length` for the sensor's sample, `50 ≤` for the solver's), the fields are the big-endian
values at their offsets and the sense data is the rest of the frame
(`SensorAggregator.decodeSampleMsg_of_le`, `AggregatorSolver.decodeSampleMsg_of_le`); each
encoded sample and subscription decodes to what it was built from when it is shorter than
`2 ^ 32` bytes and its length is passed in.
-/

namespace OwlCommon

open Wire BuffReader WorldModel

/-! ## The body of a sample -/

/-- The bytes of a sample's pushes: the fixed fields, then the sense data, with or without the
`if`. -/
theorem bytesOf_samplePushes (sample : SampleData) :
    Push.bytesOf (samplePushes sample) = Push.bytesOf [pushBackVal sample.physical_layer,
      pushBackVal sample.tx_id, pushBackVal sample.rx_id, pushBackVal sample.rx_timestamp,
      pushBackVal sample.rss] ++ sample.sense_data := by
  unfold samplePushes
  split
  · simp
  · rename_i h
    simp [List.eq_nil_of_length_eq_zero (Nat.eq_zero_of_not_pos h)]

/-- The fields of a sample are read back from their pushes' bytes. -/
theorem readSampleFields_reads (physical_layer : UInt8) (tx_id rx_id : UInt128)
    (rx_timestamp : Timestamp) (rss : Float32) :
    Reads readSampleFields (physical_layer, tx_id, rx_id, rx_timestamp, rss)
      (Push.bytesOf [pushBackVal physical_layer, pushBackVal tx_id, pushBackVal rx_id,
        pushBackVal rx_timestamp, pushBackVal rss]) :=
  Reads.of_eq ((readPrimitive_reads _).seq ((readPrimitive_reads _).seq ((readPrimitive_reads _).seq
    ((readPrimitive_reads _).seq ((readPrimitive_reads _).seq (reads_ret _)))))) (by simp)

/-- The fixed fields of a buffer that holds them, at their offsets. -/
theorem readSampleFields_atPos {buff : Buffer} {pos : Nat} (hsmall : buff.length < 2 ^ 32)
    (h : pos + 45 ≤ buff.length) :
    readSampleFields (atPos buff pos false) =
      ((ofBytes ((buff.drop pos).take 1), ofBytes ((buff.drop (pos + 1)).take 16),
        ofBytes ((buff.drop (pos + 17)).take 16), ofBytes ((buff.drop (pos + 33)).take 8),
        ofBytes ((buff.drop (pos + 41)).take 4)), atPos buff (pos + 45) false) := by
  simp only [readSampleFields, bind, StateT.bind, pure, StateT.pure]
  rw [readPrimitive_atPos_of_le (by omega) (by simp only [width_uint8]; omega)]
  dsimp only
  rw [readPrimitive_atPos_of_le (by simp only [width_uint8]; omega)
    (by simp only [width_uint8, width_uint128]; omega)]
  dsimp only
  rw [readPrimitive_atPos_of_le (by simp only [width_uint8, width_uint128]; omega)
    (by simp only [width_uint8, width_uint128]; omega)]
  dsimp only
  rw [readPrimitive_atPos_of_le (by simp only [width_uint8, width_uint128]; omega)
    (by simp only [width_uint8, width_uint128, width_int64]; omega)]
  dsimp only
  rw [readPrimitive_atPos_of_le (by simp only [width_uint8, width_uint128, width_int64]; omega)
    (by simp only [width_uint8, width_uint128, width_int64, width_float32]; omega)]
  simp only [width_uint8, width_uint128, width_int64, width_float32, Nat.add_assoc]

/-- Once the fixed fields are read up to `pos + 45` and the length covers them, the sense data is
the rest of the frame: `length - cur_index` does not wrap, and the zero bytes are overwritten
from the buffer. -/
theorem readSampleBody_of_fields {buff : Buffer} {pos : Nat} {length : UInt32}
    {fields : UInt8 × UInt128 × UInt128 × Timestamp × Float32} (hsmall : buff.length < 2 ^ 32)
    (hf : readSampleFields (atPos buff pos false) = (fields, atPos buff (pos + 45) false))
    (hl : pos + 45 ≤ length.toNat) (hB : length.toNat ≤ buff.length) :
    readSampleBody length (atPos buff pos false) =
      ⟨fields.1, fields.2.1, fields.2.2.1, fields.2.2.2.1, fields.2.2.2.2,
        (buff.drop (pos + 45)).take (length.toNat - (pos + 45)), true⟩ := by
  have hleft : (length - (atPos buff (pos + 45) false).cur_index).toNat = length.toNat - (pos + 45) := by
    have hc : (atPos buff (pos + 45) false).cur_index.toNat = pos + 45 := by
      rw [atPos_cur_index, Nat.mod_eq_of_lt (by omega)]
    have hle : (atPos buff (pos + 45) false).cur_index.toNat ≤ length.toNat := by rw [hc]; exact hl
    rw [UInt32.toNat_sub_of_le _ _ hle, hc]
  have hd : ((buff.drop (pos + 45)).take (length.toNat - (pos + 45))).length =
      length.toNat - (pos + 45) := by
    simp only [List.length_take, List.length_drop]
    omega
  have hc := readPrimitiveContainer_reads (List.replicate (length.toNat - (pos + 45)) 0) _
    (by rw [List.length_replicate, hd]) buff (pos + 45) false hsmall (by omega) (List.take_prefix _ _)
  simp only [readSampleBody, hf]
  rw [hleft, hc]

namespace SensorAggregator

/-- The sensor's sample decoder, on a frame that holds the fixed fields and whose length field
matches the length passed in, no longer than the buffer. -/
theorem decodeSampleMsg_of_le {buff : Buffer} {length : UInt32} (hsmall : buff.length < 2 ^ 32)
    (hB : length.toNat ≤ buff.length) (h49 : 49 ≤ length.toNat)
    (hl : (ofBytes (buff.take 4) : UInt32) + 4 = length) :
    decodeSampleMsg buff length =
      ⟨ofBytes ((buff.drop 4).take 1), ofBytes ((buff.drop 5).take 16),
        ofBytes ((buff.drop 21).take 16), ofBytes ((buff.drop 37).take 8),
        ofBytes ((buff.drop 45).take 4), (buff.drop 49).take (length.toNat - 49), true⟩ := by
  have hr := @readPrimitive_atPos_of_le UInt32 _ buff 0 false (by decide)
    (by simp only [width_uint32]; omega)
  simp only [List.drop_zero, width_uint32, Nat.zero_add] at hr
  rw [decodeSampleMsg, if_pos (by omega), init_eq, hr]
  dsimp only
  rw [if_pos hl, readSampleBody_of_fields hsmall (readSampleFields_atPos hsmall (by omega))
    (by omega) hB]

/-- A sample message passed with its length decodes to the sample, marked valid. -/
theorem decodeSampleMsg_makeSampleMsg (sample : SampleData)
    (h : (makeSampleMsg sample).length < 2 ^ 32) :
    decodeSampleMsg (makeSampleMsg sample) (UInt32.ofNat (makeSampleMsg sample).length) =
      { sample with valid := true } := by
  have hF : makeSampleMsg sample = toBytes (Push.total 0 (samplePushes sample)) ++
      (Push.bytesOf [pushBackVal sample.physical_layer, pushBackVal sample.tx_id,
        pushBackVal sample.rx_id, pushBackVal sample.rx_timestamp, pushBackVal sample.rss] ++
        sample.sense_data) := by
    rw [makeSampleMsg, finishMessage_eq, List.append_nil, bytesOf_samplePushes]
  have h45 : (Push.bytesOf [pushBackVal sample.physical_layer, pushBackVal sample.tx_id,
      pushBackVal sample.rx_id, pushBackVal sample.rx_timestamp, pushBackVal sample.rss]).length =
      45 := by simp
  have hpay : (makeSampleMsg sample).drop 4 = Push.bytesOf [pushBackVal sample.physical_layer,
      pushBackVal sample.tx_id, pushBackVal sample.rx_id, pushBackVal sample.rx_timestamp,
      pushBackVal sample.rss] ++ sample.sense_data := by
    rw [hF]
    exact List.drop_left' (length_toBytes _)
  have hlen : (makeSampleMsg sample).length = 49 + sample.sense_data.length := by
    rw [hF, List.length_append, List.length_append, h45, length_toBytes, width_uint32]
    omega
  have hl : (UInt32.ofNat (makeSampleMsg sample).length).toNat = (makeSampleMsg sample).length :=
    Nat.mod_eq_of_lt h
  have hr := readPrimitive_reads (Push.total 0 (samplePushes sample)) (makeSampleMsg sample) 0
    false h (Nat.zero_le _) (by rw [List.drop_zero, hF]; exact List.prefix_append _ _)
  simp only [length_toBytes, width_uint32, Nat.zero_add] at hr
  have hf := readSampleFields_reads sample.physical_layer sample.tx_id sample.rx_id
    sample.rx_timestamp sample.rss (makeSampleMsg sample) 4 false h (by omega)
    (by rw [hpay]; exact List.prefix_append _ _)
  rw [h45] at hf
  have htot := total_add_four 0 [] (samplePushes sample) rfl
  rw [← makeSampleMsg] at htot
  rw [decodeSampleMsg, if_pos (by omega), init_eq, hr]
  dsimp only
  rw [if_pos htot, readSampleBody_of_fields h hf (by omega) (by omega), hl, hlen,
    ← List.drop_drop, hpay, List.drop_left' h45, Nat.add_sub_cancel_left, List.take_length]

end SensorAggregator

namespace AggregatorSolver

/-- The solver's encoders start the count at one for the type byte they push first, which writes
the bytes of the world model's shape. -/
theorem finishMessage_one (m : MessageID) (ps : List Push) :
    finishMessage 1 [m.val] ps = finishMessage 0 [] (pushBackVal m :: ps) := by
  simp only [finishMessage_eq, Push.bytesOf_cons, Push.bytes_pushBackVal, toBytes_messageID,
    List.append_nil, List.append_assoc, List.singleton_append]
  rfl

/-- The solver's sample decoder, on a frame of type `server_sample` that holds the fixed fields
and whose length field matches the length passed in, no longer than the buffer. -/
theorem decodeSampleMsg_of_le {buff : Buffer} {length : UInt32} (hsmall : buff.length < 2 ^ 32)
    (hB : length.toNat ≤ buff.length) (h50 : 50 ≤ length.toNat)
    (hl : (ofBytes (buff.take 4) : UInt32) + 4 = length)
    (hm : buff.getD 4 0 = MessageID.server_sample.val) :
    decodeSampleMsg buff length =
      ⟨ofBytes ((buff.drop 5).take 1), ofBytes ((buff.drop 6).take 16),
        ofBytes ((buff.drop 22).take 16), ofBytes ((buff.drop 38).take 8),
        ofBytes ((buff.drop 46).take 4), (buff.drop 50).take (length.toNat - 50), true⟩ := by
  have hmsg : (ofBytes ((buff.drop 4).take (width MessageID)) : MessageID) = MessageID.server_sample := by
    rw [width_messageID, take_one_drop_four (by omega), hm, ← toBytes_messageID, ofBytes_toBytes]
  rw [decodeSampleMsg, if_pos (by omega), init_eq,
    readHeader_of_le hsmall (by simp only [width_messageID]; omega)]
  dsimp only
  rw [if_pos ⟨hl, hmsg.symm⟩, width_messageID, readSampleBody_of_fields hsmall
    (readSampleFields_atPos hsmall (by omega)) (by omega) hB]

/-- A sample message passed with its length decodes to the sample, marked valid. -/
theorem decodeSampleMsg_makeSampleMsg (sample : SampleData)
    (h : (makeSampleMsg sample).length < 2 ^ 32) :
    decodeSampleMsg (makeSampleMsg sample) (UInt32.ofNat (makeSampleMsg sample).length) =
      { sample with valid := true } := by
  rw [makeSampleMsg, finishMessage_one] at h ⊢
  have h45 : (Push.bytesOf [pushBackVal sample.physical_layer, pushBackVal sample.tx_id,
      pushBackVal sample.rx_id, pushBackVal sample.rx_timestamp, pushBackVal sample.rss]).length =
      45 := by simp
  have hpay := drop_finishMessage MessageID.server_sample (samplePushes sample)
  rw [bytesOf_samplePushes, width_messageID] at hpay
  have hlen : (finishMessage 0 [] (pushBackVal MessageID.server_sample :: samplePushes sample)).length =
      50 + sample.sense_data.length := by
    rw [finishMessage_eq, Push.bytesOf_cons, bytesOf_samplePushes]
    simp only [List.length_append, h45, length_toBytes, width_uint32, Push.bytes_pushBackVal,
      width_messageID, List.length_nil]
    omega
  have hl : (UInt32.ofNat (finishMessage 0 [] (pushBackVal MessageID.server_sample ::
      samplePushes sample)).length).toNat = (finishMessage 0 [] (pushBackVal MessageID.server_sample ::
        samplePushes sample)).length := Nat.mod_eq_of_lt h
  have hf := readSampleFields_reads sample.physical_layer sample.tx_id sample.rx_id
    sample.rx_timestamp sample.rss _ (4 + 1) false h (by omega)
    (by rw [hpay]; exact List.prefix_append _ _)
  rw [h45] at hf
  rw [decodeSampleMsg, if_pos (by omega), readHeader_finishMessage _ _ h]
  dsimp only
  rw [if_pos ⟨total_add_four 0 [] _ rfl, rfl⟩, width_messageID, readSampleBody_of_fields h hf
    (by omega) (by omega), hl, hlen, ← List.drop_drop, hpay, List.drop_left' h45,
    Nat.add_sub_cancel_left, List.take_length]

/-! ## Subscriptions -/

/-- A transmitter request is read back from its base id's and mask's bytes. -/
theorem readTransmitter_reads (txer : Transmitter) :
    Reads readTransmitter txer (Push.bytesOf [pushBackVal txer.base_id, pushBackVal txer.mask]) :=
  Reads.of_eq ((readPrimitive_reads _).seq ((readPrimitive_reads _).seq (reads_ret _))) (by simp)

/-- A rule is read back from its pushes' bytes. -/
theorem readRule_reads (rule : Rule) : Reads readRule rule (Push.bytesOf (rulePushes rule)) :=
  Reads.of_eq ((readPrimitive_reads _).seq (Reads.count (fun t _ => readTransmitter_reads t)
    (fun _ => List.ne_nil_of_length_pos (by simp)) ((readPrimitive_reads _).seq (reads_ret _))))
    (by simp [rulePushes, Push.bytesOf_flatten_map])

/-- A subscription is read back from its rules' bytes behind their count. -/
theorem readSubscription_reads (rules : Subscription) :
    Reads readSubscription rules (Push.bytesOf (subscriptionPushes rules)) :=
  Reads.of_eq (Reads.count (fun r _ => readRule_reads r)
    (fun _ => List.ne_nil_of_length_pos (by simp [rulePushes])) (reads_ret _))
    (by simp [subscriptionPushes, Push.bytesOf_flatten_map])

/-- A subscription request passed with its length decodes to its rules. -/
theorem decodeSubscribeMsg_makeSubscribeReqMsg (rules : Subscription)
    (h : (makeSubscribeReqMsg rules).length < 2 ^ 32) :
    decodeSubscribeMsg (makeSubscribeReqMsg rules) (UInt32.ofNat (makeSubscribeReqMsg rules).length) =
      rules := by
  rw [makeSubscribeReqMsg, finishMessage_one] at h ⊢
  have hpay := drop_finishMessage MessageID.subscription_request (subscriptionPushes rules)
  rw [width_messageID] at hpay
  have hlen : 9 ≤ (finishMessage 0 [] (pushBackVal MessageID.subscription_request ::
      subscriptionPushes rules)).length := by
    rw [finishMessage_eq]
    simp [subscriptionPushes]
    omega
  have hr := readSubscription_reads rules _ (4 + 1) false h (by omega) (by rw [hpay])
  have hl : (UInt32.ofNat (finishMessage 0 [] (pushBackVal MessageID.subscription_request ::
      subscriptionPushes rules)).length).toNat = (finishMessage 0 [] (pushBackVal
        MessageID.subscription_request :: subscriptionPushes rules)).length := Nat.mod_eq_of_lt h
  rw [decodeSubscribeMsg, if_pos (by omega), readHeader_finishMessage _ _ h]
  dsimp only
  rw [if_pos ⟨total_add_four 0 [] _ rfl, Or.inl rfl⟩, width_messageID, hr]

end AggregatorSolver

/-! ## Frames too short for their reads -/

/-- Three frames whose length field matches the length passed in but which are too short for the
reads after it: each decoder returns a value from reads that went out of range. The sensor's
and the solver's samples of 10 and 11 bytes come back valid, their ids and time zero, their
signal strength read from the bytes after the physical layer and one byte of sense data; the
subscription frame of nine bytes with a rule count of one comes back with one rule of zeros,
whose encoding is longer than the frame. -/
theorem decoders_accept_short_frames :
    SensorAggregator.decodeSampleMsg [0, 0, 0, 6, 1, 2, 3, 4, 5, 6] 10 =
      ⟨1, ⟨0, 0⟩, ⟨0, 0⟩, ⟨0⟩, ⟨0x02030405⟩, [6], true⟩ ∧
    AggregatorSolver.decodeSampleMsg [0, 0, 0, 7, 6, 1, 2, 3, 4, 5, 6] 11 =
      ⟨1, ⟨0, 0⟩, ⟨0, 0⟩, ⟨0⟩, ⟨0x02030405⟩, [6], true⟩ ∧
    AggregatorSolver.decodeSubscribeMsg [0, 0, 0, 5, 3, 0, 0, 0, 1] 9 = [⟨0, [], 0⟩] ∧
    ¬ (AggregatorSolver.makeSubscribeReqMsg [⟨0, [], 0⟩]).drop 5 <+:
      ([0, 0, 0, 5, 3, 0, 0, 0, 1] : Buffer).drop 5 :=
  ⟨by decide, by decide, by decide, fun h => absurd h.length_le (by decide)⟩

end OwlCommon
