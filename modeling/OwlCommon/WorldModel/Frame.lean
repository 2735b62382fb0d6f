import OwlCommon.NetBuffer.Parses

/-!
# The frame of a world model message

Every decoder of `world_model_protocol.cpp` starts the same way: a `BuffReader` over the buffer
reads the `uint32_t` length and the message type, and the payload is read only when
`buff.size() == total_length + 4` (the sum in `uint32_t`) and the type is the expected one. Most
decoders then return their failure value when the reader went out of range; `decodeFrame` is
that shape, with the payload's reads as a `StateM BuffReader` action. The decoders that depart
from it keep their own bodies in `Client.lean` and `Solver.lean`.

The two lemmas every decoder's results rest on are proved here once:
`decodeFrame_finishMessage`, a frame that `finishMessage` built decodes to what its payload's
reads take back, when it is shorter than `2 ^ 32` bytes; and `decodeFrame_sound`, a result other
than the failure value comes from a frame whose length field is its length less four, whose type
is the expected one, and whose payload starts with bytes the reads accepted.
-/

namespace OwlCommon.WorldModel

open Wire BuffReader

/-- The reads every decoder starts with: the length, then the message type. -/
def readHeader (ID : Type) [Wire ID] : StateM BuffReader (UInt32 × ID) := do
  let total_length ← readPrimitive UInt32
  let msg_type ← readPrimitive ID
  return (total_length, msg_type)

/-- `buff.size() == total_length + 4`, the sum in `uint32_t`. -/
def lengthMatches (buff : Buffer) (total_length : UInt32) : Prop :=
  buff.length = (total_length + 4).toNat

/-- Whether the length matches is decided. -/
instance (buff : Buffer) (total_length : UInt32) : Decidable (lengthMatches buff total_length) :=
  inferInstanceAs (Decidable (_ = _))

/-- `reader.readUTF16((buff.size() - reader.cur_index)/2)`: the rest of the buffer, in whole code
units. -/
def readTailUTF16 : StateM BuffReader U16String :=
  fun r => r.readUTF16 ((r.buff.length - r.cur_index.toNat) / 2)

/-- What every decoder does first: the header and, when the length and the type check out, the
payload's reads `body`; otherwise `failure` and the reader after the header. -/
def readFrame {ID β : Type} [Wire ID] [DecidableEq ID] (expected : ID)
    (body : StateM BuffReader β) (failure : β) (buff : Buffer) : β × BuffReader :=
  let ((total_length, msg_type), reader) := readHeader ID (init buff)
  if lengthMatches buff total_length ∧ msg_type = expected then body reader else (failure, reader)

/-- The common shape of a decoder: `readFrame`, then `failure` if a read went out of range. -/
def decodeFrame {ID β : Type} [Wire ID] [DecidableEq ID] (expected : ID)
    (body : StateM BuffReader β) (failure : β) (buff : Buffer) : β :=
  let (v, reader) := readFrame expected body failure buff
  if reader.out_of_range then failure else v

/-- `makeHandshakeMsg` of each face: four bytes reserved, the identifier's bytes, a version byte
and an extension byte (both zero), and last the identifier's length over the first four bytes. -/
def makeHandshake (protocol_string : String) : Buffer :=
  let bytes := protocol_string.toUTF8.toList
  pushBackValAt (UInt32.ofNat bytes.length) (List.replicate 4 0 ++ bytes ++ [0, 0]) 0

/-- A handshake is the identifier behind its 32-bit length, then two zero bytes: unlike the other
messages, its length field does not count the version and extension. -/
theorem makeHandshake_eq (protocol_string : String) :
    makeHandshake protocol_string =
      toBytes (UInt32.ofNat protocol_string.toUTF8.toList.length) ++ protocol_string.toUTF8.toList ++
        [0, 0] := by
  simp only [makeHandshake, pushBackValAt, List.take_zero, List.nil_append, Nat.zero_add,
    width_uint32, List.append_assoc]
  rw [List.drop_left' (List.length_replicate 4 0)]

/-! ## The rest of the buffer -/

/-- A string that ends the buffer is read back from its code units. -/
theorem readTailUTF16_readsEnd (s : U16String) : ReadsEnd readTailUTF16 s (utf16Bytes s) := by
  intro buff pos oor hsmall hpos hdrop
  have hcur : (atPos buff pos oor).cur_index.toNat = pos := by
    rw [atPos_cur_index, Nat.mod_eq_of_lt (by omega)]
  have hlen : buff.length - pos = 2 * s.length := by rw [← List.length_drop, hdrop, length_utf16Bytes]
  show (atPos buff pos oor).readUTF16 (((atPos buff pos oor).buff.length -
    (atPos buff pos oor).cur_index.toNat) / 2) = _
  rw [hcur, atPos_buff, hlen, Nat.mul_div_cancel_left _ (by omega)]
  exact (readUTF16_reads s).toEnd buff pos oor hsmall hpos hdrop

/-- The tail read never sets the flag: it reads only whole code units that are there. -/
theorem readTailUTF16_atPos {buff : Buffer} {pos : Nat} {oor : Bool} (hsmall : buff.length < 2 ^ 32)
    (hpos : pos ≤ buff.length) :
    (readTailUTF16 (atPos buff pos oor)).2 = atPos buff (pos + 2 * ((buff.length - pos) / 2)) oor := by
  have hcur : (atPos buff pos oor).cur_index.toNat = pos := by
    rw [atPos_cur_index, Nat.mod_eq_of_lt (by omega)]
  show ((atPos buff pos oor).readUTF16 (((atPos buff pos oor).buff.length -
    (atPos buff pos oor).cur_index.toNat) / 2)).2 = _
  rw [hcur, atPos_buff]
  exact readUTF16_atPos_of_le hsmall _ _ (by omega)

/-- Whatever the buffer holds, the string read to its end parses as a `pushBackUTF16`. -/
theorem readTailUTF16_parsesAs : ParsesAs readTailUTF16 (fun s => [.utf16 s]) :=
  ⟨fun r hr => readUTF16_latches _ r hr, fun buff pos oor hsmall hpos =>
    ((readUTF16_parses (((atPos buff pos oor).buff.length -
      (atPos buff pos oor).cur_index.toNat) / 2)).mono fun _ c _ h => ⟨c, [], by simp, h.2, rfl⟩)
      buff pos oor hsmall hpos⟩

variable {ID β : Type} [Wire ID]

/-- What a decoder that takes `buff` for a frame of type `expected` has checked of it, and what
the payload holds: the length field is the frame's length less four, byte 4 on is the type, and
the payload starts with the pushes `ps` as the reads accept them. -/
def AcceptedFrame (expected : ID) (ps : List Push) (buff : Buffer) : Prop :=
  beNat (buff.take 4) + 4 = buff.length ∧ (buff.drop 4).take (width ID) = toBytes expected ∧
    LenientPrefix ps (buff.drop (4 + width ID))

/-! ## The header -/

/-- A header is read back from the length's and the type's bytes. -/
theorem readHeader_reads (total_length : UInt32) (msg_type : ID) :
    Reads (readHeader ID) (total_length, msg_type) (toBytes total_length ++ toBytes msg_type) := by
  have h : Reads (readHeader ID) (total_length, msg_type)
      (toBytes total_length ++ (toBytes msg_type ++ [])) :=
    (readPrimitive_reads total_length).seq
      ((readPrimitive_reads msg_type).seq (reads_ret (total_length, msg_type)))
  rwa [List.append_nil] at h

/-- The header of a buffer that holds one. -/
theorem readHeader_of_le {buff : Buffer} (hsmall : buff.length < 2 ^ 32)
    (h : 4 + width ID ≤ buff.length) :
    readHeader ID (atPos buff 0 false) =
      ((ofBytes (buff.take 4), ofBytes ((buff.drop 4).take (width ID))),
        atPos buff (4 + width ID) false) := by
  have h4 : 0 + width UInt32 ≤ buff.length := by simp only [width_uint32]; omega
  simp only [readHeader, bind, StateT.bind, pure, StateT.pure]
  rw [readPrimitive_atPos_of_le (by omega) h4]
  simp only [width_uint32, Nat.zero_add, List.drop_zero]
  rw [readPrimitive_atPos_of_le (by omega) h]

/-- The header of a frame that `finishMessage` built. -/
theorem readHeader_finishMessage (expected : ID) (ps : List Push)
    (hsmall : (finishMessage 0 [] (pushBackVal expected :: ps)).length < 2 ^ 32) :
    readHeader ID (init (finishMessage 0 [] (pushBackVal expected :: ps))) =
      ((Push.total 0 (pushBackVal expected :: ps), expected),
        atPos (finishMessage 0 [] (pushBackVal expected :: ps)) (4 + width ID) false) := by
  have h := readHeader_reads (Push.total 0 (pushBackVal expected :: ps)) expected _ 0 false hsmall
    (Nat.zero_le _) ⟨Push.bytesOf ps, by rw [finishMessage_eq]; simp⟩
  simpa using h

/-- Without room for the header, the flag is set. -/
theorem readHeader_of_lt {buff : Buffer} (h : buff.length < 4 + width ID) : (readHeader ID (atPos buff 0 false)).2.out_of_range = true := by
  simp only [readHeader, bind, StateT.bind, pure, StateT.pure]
  by_cases h4 : 0 + width UInt32 ≤ buff.length
  · rw [readPrimitive_atPos_of_le (by omega) h4]
    simp only [width_uint32, Nat.zero_add] at h ⊢
    rw [readPrimitive_atPos_of_lt (by omega) h]
    rfl
  · rw [readPrimitive_atPos_of_lt (by omega) (by omega)]
    exact readPrimitive_latches _ rfl

/-! ## The length field and byte 4 of an encoded frame -/

/-- The length field that `finishMessage 0 []` writes is the frame's length less four, modulo
`2 ^ 32`. -/
theorem finishMessage_take_four (ps : List Push) :
    (finishMessage 0 [] ps).take 4 = toBytes (UInt32.ofNat ((finishMessage 0 [] ps).length - 4)) := by
  rw [finishMessage_eq, List.append_nil, List.take_left' (by simp : (toBytes (Push.total 0 ps)).length = 4)]
  congr 1
  apply UInt32.toNat.inj
  rw [Push.total_toNat]
  simp only [List.length_append, length_toBytes, width_uint32, Nat.add_sub_cancel_left,
    UInt32.toNat_zero, Nat.zero_add]
  rfl

/-- A frame is its header and the bytes of its pushes. -/
theorem length_finishMessage (expected : ID) (ps : List Push) :
    (finishMessage 0 [] (pushBackVal expected :: ps)).length = 4 + width ID + (Push.bytesOf ps).length := by
  simp only [finishMessage_eq, List.length_append, length_toBytes, width_uint32, List.length_nil,
    Push.bytesOf_cons, Push.bytes_pushBackVal]
  omega

/-- A frame whose type is the byte `b`. -/
theorem finishMessage_cons {m : ID} {b : UInt8} (hb : toBytes m = [b]) (ps : List Push) :
    finishMessage 0 [] (pushBackVal m :: ps) =
      toBytes (Push.total 0 (pushBackVal m :: ps)) ++ b :: Push.bytesOf ps := by
  rw [finishMessage_eq, Push.bytesOf_cons, Push.bytes_pushBackVal, hb]
  rfl

/-- The byte behind a length field stands at index four. -/
theorem getD_four (t : UInt32) (b : UInt8) (rest : Buffer) : (toBytes t ++ b :: rest).getD 4 0 = b := by
  rw [List.getD_eq_getElem?_getD, List.getElem?_append_right (by simp)]
  simp

/-- Setting index four of a message sets the byte behind its length field. -/
theorem set_four (t : UInt32) (b x : UInt8) (rest : Buffer) :
    (toBytes t ++ b :: rest).set 4 x = toBytes t ++ x :: rest := by
  rw [List.set_append_right _ _ (by simp)]
  simp

/-- Index four, once set, holds what it was set to. -/
theorem getD_set_four {buff : Buffer} (h : 4 < buff.length) (x : UInt8) : (buff.set 4 x).getD 4 0 = x := by
  rw [List.getD_eq_getElem?_getD, List.getElem?_set_self h]
  rfl

/-- A frame whose type is a byte holds at least five bytes, and byte 4 is the type. -/
theorem finishMessage_cons_five {m : ID} {b : UInt8} (hb : toBytes m = [b]) (ps : List Push) :
    5 ≤ (finishMessage 0 [] (pushBackVal m :: ps)).length ∧
      (finishMessage 0 [] (pushBackVal m :: ps)).getD 4 0 = b := by
  rw [finishMessage_cons hb, getD_four]
  exact ⟨by simp only [List.length_append, length_toBytes, width_uint32, List.length_cons]; omega, rfl⟩

/-- Writing a frame's type over byte 4 leaves it as it is. -/
theorem finishMessage_set_four {m : ID} {b : UInt8} (hb : toBytes m = [b]) (ps : List Push) :
    (finishMessage 0 [] (pushBackVal m :: ps)).set 4 b = finishMessage 0 [] (pushBackVal m :: ps) := by
  rw [finishMessage_cons hb, set_four]

/-- Setting index four leaves the length field. -/
theorem take_set_four (buff : Buffer) (x : UInt8) : (buff.set 4 x).take 4 = buff.take 4 := by
  rw [List.set_take, List.set_eq_of_length_le (List.length_take_le 4 buff)]

/-- Setting index four leaves the bytes past it. -/
theorem drop_set_four (buff : Buffer) (x : UInt8) : (buff.set 4 x).drop 5 = buff.drop 5 := by
  rw [List.drop_set, if_pos (by decide)]

/-- A frame accepted after byte 4 was patched, whose byte 4 was the type `expected` before. -/
theorem AcceptedFrame.of_set_four {expected other : ID} {ps : List Push} {buff : Buffer} {x : UInt8}
    (hw : width ID = 1) (h : AcceptedFrame other ps (buff.set 4 x))
    (hb : (buff.drop 4).take (width ID) = toBytes expected) : AcceptedFrame expected ps buff := by
  obtain ⟨hl, -, hp⟩ := h
  rw [take_set_four, List.length_set] at hl
  rw [hw, drop_set_four] at hp
  exact ⟨hl, hb, by rwa [hw]⟩

/-- In five bytes or more, the one at index four. -/
theorem take_one_drop_four {buff : Buffer} (h : 5 ≤ buff.length) :
    (buff.drop 4).take 1 = [buff.getD 4 0] := by
  match buff, h with
  | _ :: _ :: _ :: _ :: _ :: _, _ => rfl

/-! ## Encoded frames decode -/

/-- A buffer whose header passes the decoders' check is accepted as soon as its payload is. -/
theorem acceptedFrame_of_check {expected : ID} {ps : List Push} {buff : Buffer}
    (hcheck : lengthMatches buff (ofBytes (buff.take 4)) ∧
      (ofBytes ((buff.drop 4).take (width ID)) : ID) = expected)
    (hlen : 4 + width ID ≤ buff.length) (hp : LenientPrefix ps (buff.drop (4 + width ID))) :
    AcceptedFrame expected ps buff := by
  have hw : ((buff.drop 4).take (width ID)).length = width ID := by
    simp only [List.length_take, List.length_drop]
    omega
  refine ⟨?_, by rw [← hcheck.2, toBytes_ofBytes hw], hp⟩
  have hw4 : (buff.take 4).length = width UInt32 := by simp only [List.length_take, width_uint32]; omega
  have htot : (ofBytes (buff.take 4) : UInt32).toNat = beNat (buff.take 4) := toNat_ofBytes hw4
  have hlt := beNat_lt (buff.take 4)
  have hl := hcheck.1
  simp only [lengthMatches, Push.toNat_add_uint32, htot] at hl
  rw [hw4, width_uint32] at hlt
  change _ = (_ + 4) % 2 ^ 32 at hl
  omega

/-- The converse: a header that is right passes the check. -/
theorem check_of_header {expected : ID} {buff : Buffer} (hsmall : buff.length < 2 ^ 32)
    (hl : beNat (buff.take 4) + 4 = buff.length)
    (hm : (buff.drop 4).take (width ID) = toBytes expected) :
    4 + width ID ≤ buff.length ∧ lengthMatches buff (ofBytes (buff.take 4)) ∧
      (ofBytes ((buff.drop 4).take (width ID)) : ID) = expected := by
  have hw := congrArg List.length hm
  simp only [List.length_take, List.length_drop, length_toBytes] at hw
  have hw4 : (buff.take 4).length = width UInt32 := by simp only [List.length_take, width_uint32]; omega
  have htot : (ofBytes (buff.take 4) : UInt32).toNat = beNat (buff.take 4) := toNat_ofBytes hw4
  refine ⟨by omega, ?_, by rw [hm, ofBytes_toBytes]⟩
  simp only [lengthMatches, Push.toNat_add_uint32, htot]
  change _ = (_ + 4) % 2 ^ 32
  omega

/-- Byte 4 on of a buffer that holds a header is the type its header was read as. -/
theorem take_of_readHeader {buff : Buffer} {m : ID} (hsmall : buff.length < 2 ^ 32)
    (hlen : 4 + width ID ≤ buff.length) (hm : (readHeader ID (atPos buff 0 false)).1.2 = m) :
    (buff.drop 4).take (width ID) = toBytes m := by
  rw [readHeader_of_le hsmall hlen] at hm
  rw [← hm, toBytes_ofBytes (by simp only [List.length_take, List.length_drop]; omega)]

/-- The bytes of a frame after its header are those of its payload. -/
theorem drop_finishMessage (expected : ID) (ps : List Push) :
    (finishMessage 0 [] (pushBackVal expected :: ps)).drop (4 + width ID) = Push.bytesOf ps := by
  rw [finishMessage_eq, List.append_nil, Push.bytesOf_cons, Push.bytes_pushBackVal,
    ← List.append_assoc]
  exact List.drop_left' (by simp)

/-- The bytes of a frame after its header and the first pushes `ps` of its payload. -/
theorem drop_finishMessage_append (expected : ID) (ps qs : List Push) :
    (finishMessage 0 [] (pushBackVal expected :: (ps ++ qs))).drop
      (4 + width ID + (Push.bytesOf ps).length) = Push.bytesOf qs := by
  rw [finishMessage_eq, List.append_nil, Push.bytesOf_cons, Push.bytesOf_append,
    Push.bytes_pushBackVal, ← List.append_assoc, ← List.append_assoc]
  exact List.drop_left' (by simp [Nat.add_assoc])

variable [DecidableEq ID]

/-- `readFrame` for a type other than `(T)0`: the payload's reads run from offset `4 + sizeof(T)`
exactly when the buffer holds the header, its length field plus four is its length, and its type
is `expected`. -/
theorem readFrame_eq {expected : ID} (hz : expected ≠ zero) (body : StateM BuffReader β)
    (failure : β) (buff : Buffer) :
    readFrame expected body failure buff =
      if buff.length < 2 ^ 32 ∧ 4 + width ID ≤ buff.length ∧
          lengthMatches buff (ofBytes (buff.take 4)) ∧ ofBytes ((buff.drop 4).take (width ID)) = expected
      then body (atPos buff (4 + width ID) false)
      else (failure, (readHeader ID (init buff)).2) := by
  by_cases hlen : buff.length < 2 ^ 32 ∧ 4 + width ID ≤ buff.length
  · simp only [readFrame, init_eq, readHeader_of_le hlen.1 hlen.2, hlen, true_and]
  · rw [if_neg (fun h => hlen ⟨h.1, h.2.1⟩)]
    simp only [readFrame, init_eq]
    rcases hh : readHeader ID (atPos buff 0 false) with ⟨⟨total_length, msg_type⟩, reader⟩
    refine if_neg fun ⟨hl, ht⟩ => hlen ⟨hl ▸ (total_length + 4).toNat_lt_size, ?_⟩
    refine Nat.le_of_not_lt fun h => ?_
    simp only [readHeader, bind, StateT.bind, pure, StateT.pure] at hh
    by_cases h4 : 0 + width UInt32 ≤ buff.length
    · rw [readPrimitive_atPos_of_le (by omega) h4] at hh
      simp only [width_uint32, Nat.zero_add] at hh h4
      rw [readPrimitive_atPos_of_lt (by omega) h] at hh
      injection hh with hh
      injection hh with _ hm
      exact hz (ht ▸ hm.symm)
    · rw [readPrimitive_atPos_of_lt (by omega) (by omega)] at hh
      injection hh with hh
      injection hh with ht0
      rw [lengthMatches, ← ht0] at hl
      exact h4 (by rw [hl]; exact Nat.le_refl 4)

/-- The length field that `finishMessage 0 []` writes, plus four in `uint32_t`, is the frame's
length when the frame is shorter than `2 ^ 32` bytes. -/
theorem lengthMatches_finishMessage (ps : List Push)
    (hsmall : (finishMessage 0 [] ps).length < 2 ^ 32) :
    lengthMatches (finishMessage 0 [] ps) (Push.total 0 ps) := by
  rw [finishMessage_eq] at hsmall ⊢
  simp only [lengthMatches, List.length_append, length_toBytes, width_uint32, List.length_nil,
    Push.toNat_add_uint32, Push.total_toNat] at hsmall ⊢
  show _ = (((0 : UInt32).toNat + _) % 2 ^ 32 + 4 % 2 ^ 32) % 2 ^ 32
  simp only [UInt32.toNat_zero]
  omega

/-- A frame that `finishMessage` built from the type `expected` and pushes whose bytes `body`
takes back as `v` is read to `v`, up to its end, when it is shorter than `2 ^ 32` bytes. -/
theorem readFrame_finishMessage (expected : ID) {body : StateM BuffReader β} (failure : β)
    {v : β} {ps : List Push} (hbody : ReadsEnd body v (Push.bytesOf ps))
    (hsmall : (finishMessage 0 [] (pushBackVal expected :: ps)).length < 2 ^ 32) :
    readFrame expected body failure (finishMessage 0 [] (pushBackVal expected :: ps)) =
      (v, atPos (finishMessage 0 [] (pushBackVal expected :: ps))
        (finishMessage 0 [] (pushBackVal expected :: ps)).length false) := by
  have hlen := lengthMatches_finishMessage _ hsmall
  rw [finishMessage_eq] at hsmall hlen ⊢
  set F := toBytes (Push.total 0 (pushBackVal expected :: ps)) ++ [] ++
    Push.bytesOf (pushBackVal expected :: ps) with hF
  have hpre : toBytes (Push.total 0 (pushBackVal expected :: ps)) ++ toBytes expected ++
      Push.bytesOf ps <+: F.drop 0 := by
    rw [List.drop_zero, hF]
    exact ⟨[], by simp [pushBackVal, Push.bytes]⟩
  have hhead := (readHeader_reads (Push.total 0 (pushBackVal expected :: ps)) expected) F 0 false
    hsmall (Nat.zero_le _) ((List.prefix_append _ _).trans hpre)
  have hbody' := hbody F _ false hsmall (le_of_prefix_drop (Nat.zero_le _)
    ((List.prefix_append _ _).trans hpre)) (by
      rw [hF, Nat.zero_add, List.append_nil, Push.bytesOf_cons, ← List.append_assoc]
      exact List.drop_left' (by simp [pushBackVal, Push.bytes]))
  simp only [readFrame, init_eq, hhead, hlen, true_and, if_true, hbody']

/-- The same for reads that take back the first pushes `ps` of the payload: the reader stops after
them. -/
theorem readFrame_finishMessage_append (expected : ID) {body : StateM BuffReader β} (failure : β)
    {v : β} {ps qs : List Push} (hbody : Reads body v (Push.bytesOf ps))
    (hsmall : (finishMessage 0 [] (pushBackVal expected :: (ps ++ qs))).length < 2 ^ 32) :
    readFrame expected body failure (finishMessage 0 [] (pushBackVal expected :: (ps ++ qs))) =
      (v, atPos (finishMessage 0 [] (pushBackVal expected :: (ps ++ qs)))
        (4 + width ID + (Push.bytesOf ps).length) false) := by
  have hlen := lengthMatches_finishMessage _ hsmall
  rw [finishMessage_eq] at hsmall hlen ⊢
  set F := toBytes (Push.total 0 (pushBackVal expected :: (ps ++ qs))) ++ [] ++
    Push.bytesOf (pushBackVal expected :: (ps ++ qs)) with hF
  have hpre : toBytes (Push.total 0 (pushBackVal expected :: (ps ++ qs))) ++ toBytes expected ++
      Push.bytesOf ps <+: F.drop 0 := by
    rw [List.drop_zero, hF]
    exact ⟨Push.bytesOf qs, by simp [pushBackVal, Push.bytes]⟩
  have hhead := (readHeader_reads (Push.total 0 (pushBackVal expected :: (ps ++ qs))) expected) F 0
    false hsmall (Nat.zero_le _) ((List.prefix_append _ _).trans hpre)
  have hbody' := hbody F _ false hsmall (le_of_prefix_drop (Nat.zero_le _)
    ((List.prefix_append _ _).trans hpre)) (prefix_drop_append hpre)
  simp only [List.length_append, length_toBytes, width_uint32, Nat.zero_add] at hhead hbody'
  simp only [readFrame, init_eq, hhead, hlen, true_and, if_true, hbody']

/-- The same, for `decodeFrame`. -/
theorem decodeFrame_finishMessage (expected : ID) {body : StateM BuffReader β} (failure : β)
    {v : β} {ps : List Push} (hbody : ReadsEnd body v (Push.bytesOf ps))
    (hsmall : (finishMessage 0 [] (pushBackVal expected :: ps)).length < 2 ^ 32) :
    decodeFrame expected body failure (finishMessage 0 [] (pushBackVal expected :: ps)) = v := by
  simp only [decodeFrame, readFrame_finishMessage expected failure hbody hsmall, atPos_out_of_range,
    Bool.false_eq_true, if_false]

/-! ## What a decoded frame was -/

/-- A frame read to a value other than `failure` with the flag clear has a length field that is
its length less four and the type `expected`, and its payload starts with the pushes of the value,
as the reads accept them. -/
theorem readFrame_sound {expected : ID} {body : StateM BuffReader β} {failure : β}
    {ps : β → List Push} (hbody : ParsesAs body ps)
    {buff : Buffer} (hoor : (readFrame expected body failure buff).2.out_of_range = false)
    (hne : (readFrame expected body failure buff).1 ≠ failure) :
    AcceptedFrame expected (ps (readFrame expected body failure buff).1) buff := by
  simp only [readFrame, init_eq] at hne hoor ⊢
  rcases hh : readHeader ID (atPos buff 0 false) with ⟨⟨total_length, msg_type⟩, reader⟩
  rw [hh] at hne hoor
  dsimp only at hne hoor ⊢
  by_cases hcheck : lengthMatches buff total_length ∧ msg_type = expected
  swap
  · exact absurd (by rw [if_neg hcheck]) hne
  simp only [if_pos hcheck] at hne hoor ⊢
  have hsmall : buff.length < 2 ^ 32 := hcheck.1 ▸ (total_length + 4).toNat_lt_size
  have hlen : 4 + width ID ≤ buff.length := by
    refine Nat.le_of_not_lt fun h => ?_
    have := hbody.1 reader (by rw [← readHeader_of_lt h, hh])
    rw [hoor] at this
    exact Bool.false_ne_true this
  rw [readHeader_of_le hsmall hlen, Prod.mk.injEq, Prod.mk.injEq] at hh
  obtain ⟨⟨rfl, rfl⟩, rfl⟩ := hh
  rcases hbody.2 buff (4 + width ID) false hsmall hlen with h | ⟨v, c, e, hc, hv⟩
  · rw [hoor] at h
    exact absurd h Bool.false_ne_true
  rw [e]
  exact acceptedFrame_of_check hcheck hlen ⟨c, _, drop_eq_of_prefix hc, hv⟩

/-- A result of `decodeFrame` other than `failure` comes from a frame whose length field is its
length less four, whose type is `expected`, and whose payload starts with bytes `c` that `body`
accepted. -/
theorem decodeFrame_sound {expected : ID} {body : StateM BuffReader β} {failure : β}
    {ps : β → List Push} (hbody : ParsesAs body ps)
    {buff : Buffer} (hne : decodeFrame expected body failure buff ≠ failure) :
    AcceptedFrame expected (ps (decodeFrame expected body failure buff)) buff := by
  simp only [decodeFrame] at hne ⊢
  rcases hr : readFrame expected body failure buff with ⟨v, reader⟩
  rw [hr] at hne
  cases hoor : reader.out_of_range
  · simp only [hoor, Bool.false_eq_true, if_false] at hne ⊢
    have := readFrame_sound hbody (by rw [hr]; exact hoor) (by rw [hr]; exact hne)
    rwa [hr] at this
  · exact absurd (by simp [hoor]) hne

end OwlCommon.WorldModel
