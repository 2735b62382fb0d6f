import OwlCommon.SampleData
import OwlCommon.NetBuffer.Free
import OwlCommon.NetBuffer.Reads
import Mathlib.Data.Prod.Lex

/-!
# Transmitters

`grail_types` names a transmitter by its physical layer and its 128-bit id. Its `operator<` and
`operator==` compose those of the two fields, so they are the lexicographic order and the equality
of the pair `(phy, val id)`, and `operator<` is a strict total order whose incomparable pairs are
the `operator==` ones (`operators_compare_values`).

A transmitter is read from a `BuffReader` by `readTransmitterFromBuffer` (the layer, then the
id's halves), from the start of a buffer by the free reads of `readTransmitter`, and written as
seventeen bytes by `writeTransmitter`; `unpackGRAILVector` reads a `uint32_t` count and calls its
read function that many times. The two reads agree on every buffer, unpacking the count and the
bytes written for a list of transmitters gives the list back, and what `unpackGRAILVector` returns
from any buffer is written back as a prefix of it exactly when the buffer holds the `17 * n` bytes
its count `n` asks for (`unpackGRAILVector_transmitters`). The loop never looks at the reader's
flag, so a count with too few bytes behind it still yields `n` transmitters
(`unpackGRAILVector_short_count`).
-/

namespace OwlCommon.GrailTypes

open Wire BuffReader

/-- `grail_types::transmitter`: a physical layer and an id, packed. -/
structure Transmitter where
  /-- The physical layer. -/
  phy : UInt8
  /-- The transmitter's id. -/
  id : UInt128
deriving DecidableEq, Repr

namespace Transmitter

/-- `operator<`: by the physical layer, and by the id when the layers are equal. -/
def lt (a b : Transmitter) : Bool := a.phy < b.phy || (a.phy == b.phy && a.id.lt b.id)

/-- `operator==`: both fields equal. -/
def eq (a b : Transmitter) : Bool := a.phy == b.phy && a.id.eq b.id

/-- A transmitter as one number, the layer above the id's 128 bits; `lt` compares these. -/
def key (t : Transmitter) : Nat := t.phy.toNat * 2 ^ 128 + t.id.val

/-- Two physical layers are equal exactly when their numbers are. -/
theorem phy_eq_iff {a b : Transmitter} : a.phy = b.phy ↔ a.phy.toNat = b.phy.toNat :=
  ⟨congrArg _, UInt8.toNat.inj⟩

/-- `operator<` orders transmitters by layer, then by id. -/
theorem lt_iff_lex {a b : Transmitter} :
    a.lt b = true ↔ toLex (a.phy.toNat, a.id.val) < toLex (b.phy.toNat, b.id.val) := by
  simp only [lt, Bool.or_eq_true, Bool.and_eq_true, decide_eq_true_eq, beq_iff_eq, phy_eq_iff,
    UInt128.lt_iff_val_lt, Prod.Lex.lt_iff]
  rfl

/-- `operator<` compares the transmitters' keys. -/
theorem lt_iff_key_lt {a b : Transmitter} : a.lt b = true ↔ a.key < b.key := by
  have ha := a.id.val_lt
  have hb := b.id.val_lt
  rw [lt_iff_lex, Prod.Lex.lt_iff]
  simp only [key]
  omega

/-- `operator==` holds when the layers and the ids' values agree. -/
theorem eq_iff_fields {a b : Transmitter} : a.eq b = true ↔ a.phy = b.phy ∧ a.id.val = b.id.val := by
  simp only [eq, Bool.and_eq_true, beq_iff_eq, UInt128.eq_iff_val_eq]

/-- `operator==` is equality of transmitters. -/
theorem eq_iff_eq {a b : Transmitter} : a.eq b = true ↔ a = b := by
  obtain ⟨pa, ia⟩ := a
  obtain ⟨pb, ib⟩ := b
  simp only [eq, Bool.and_eq_true, beq_iff_eq, UInt128.eq_iff_eq, Transmitter.mk.injEq]

/-- Different transmitters have different keys. -/
theorem key_injective : Function.Injective key := by
  intro a b h
  have ha := a.id.val_lt
  have hb := b.id.val_lt
  simp only [key] at h
  exact eq_iff_eq.1 (eq_iff_fields.2 ⟨phy_eq_iff.2 (by omega), by omega⟩)

end Transmitter

/-- The operators of `uint128_t` are those of the numbers `val` stands for, and `operator<` of a
transmitter is the lexicographic order of its layer and its id's number, with `operator==` the
equality of both; so both `operator<` are strict total orders whose incomparable pairs are the
`operator==` ones. -/
theorem operators_compare_values :
    (∀ a b : UInt128, (a.lt b = true ↔ a.val < b.val) ∧ (a.eq b = true ↔ a.val = b.val) ∧
      (a.and b).val = a.val &&& b.val) ∧
    (∀ s t : Transmitter,
      (s.lt t = true ↔ toLex (s.phy.toNat, s.id.val) < toLex (t.phy.toNat, t.id.val)) ∧
      (s.eq t = true ↔ s.phy = t.phy ∧ s.id.val = t.id.val)) ∧
    IsStrictTotalOrder UInt128 (fun a b => a.lt b = true) ∧
    (∀ a b : UInt128, (¬a.lt b = true ∧ ¬b.lt a = true) ↔ a.eq b = true) ∧
    IsStrictTotalOrder Transmitter (fun s t => s.lt t = true) ∧
    (∀ s t : Transmitter, (¬s.lt t = true ∧ ¬t.lt s = true) ↔ s.eq t = true) := by
  refine ⟨fun a b => ⟨UInt128.lt_iff_val_lt, UInt128.eq_iff_val_eq, UInt128.val_and a b⟩,
    fun s t => ⟨Transmitter.lt_iff_lex, Transmitter.eq_iff_fields⟩, UInt128.isStrictTotalOrder_lt,
    UInt128.incomparable_iff_eq, ?_, fun s t => ?_⟩
  · simpa only [Transmitter.lt_iff_key_lt] using
      isStrictTotalOrder_of_key Transmitter.key Transmitter.key_injective
  · rw [Transmitter.lt_iff_key_lt, Transmitter.lt_iff_key_lt, Transmitter.eq_iff_eq]
    exact incomparable_iff_of_key _ Transmitter.key_injective s t

/-! ## Reading and writing transmitters -/

/-- `readTransmitterFromBuffer(reader)`: the layer by `convertPrimitive`, then the id's upper and
lower halves. -/
def readTransmitterFromBuffer : StateM BuffReader Transmitter := do
  let phy ← convertPrimitive UInt8
  let upper ← readPrimitive UInt64
  let lower ← readPrimitive UInt64
  return ⟨phy, ⟨upper, lower⟩⟩

/-- `readTransmitter(buff)`: the free reads of the layer at `0` and of the halves at `1` and
`1 + sizeof(uint64_t)`. -/
def readTransmitter (buff : Buffer) : Transmitter :=
  ⟨NetBuffer.readPrimitive UInt8 buff 0,
    ⟨NetBuffer.readPrimitive UInt64 buff 1, NetBuffer.readPrimitive UInt64 buff (1 + width UInt64)⟩⟩

/-- `writeTransmitter(t, buff)`: the buffer with the layer and the id's halves pushed, and the sum
of what the three `pushBackVal` return. -/
def writeTransmitter (t : Transmitter) (buff : Buffer) : Buffer × UInt32 :=
  let ps := [pushBackVal t.phy, pushBackVal t.id.upper, pushBackVal t.id.lower]
  (buff ++ Push.bytesOf ps, Push.total 0 ps)

/-- `unpackGRAILVector(read_fun, buff)`: a `uint32_t` count from a fresh reader, then `read_fun`
that many times; the reader's flag is never looked at. -/
def unpackGRAILVector {β : Type} (read_fun : StateM BuffReader β) (buff : Buffer) : List β :=
  let (total, reader) := (init buff).readPrimitive UInt32
  (readN read_fun total.toNat reader).1

/-- The bytes `writeTransmitter` appends. -/
def transmitterBytes (t : Transmitter) : Buffer := (writeTransmitter t []).1

/-- A list of transmitters as `unpackGRAILVector` reads it: the `uint32_t` count, then each
transmitter's bytes. -/
def transmitterVectorBytes (ts : List Transmitter) : Buffer :=
  toBytes (UInt32.ofNat ts.length) ++ (ts.map transmitterBytes).flatten

/-- A transmitter's bytes: the layer, then the id's upper and lower words. -/
theorem transmitterBytes_eq (t : Transmitter) :
    transmitterBytes t = [t.phy] ++ toBytes t.id.upper ++ toBytes t.id.lower := by
  simp [transmitterBytes, writeTransmitter]

/-- A transmitter goes out as seventeen bytes. -/
@[simp] theorem length_transmitterBytes (t : Transmitter) : (transmitterBytes t).length = 17 := by
  simp [transmitterBytes_eq]

/-- Transmitters one after another take seventeen bytes each. -/
theorem length_flatten_transmitterBytes (ts : List Transmitter) :
    (ts.map transmitterBytes).flatten.length = 17 * ts.length := by
  induction ts with
  | nil => rfl
  | cons t ts ih =>
    simp only [List.map_cons, List.flatten_cons, List.length_append, length_transmitterBytes, ih,
      List.length_cons]
    omega

/-- A vector of transmitters takes its count's four bytes and seventeen a transmitter. -/
@[simp] theorem length_transmitterVectorBytes (ts : List Transmitter) :
    (transmitterVectorBytes ts).length = 4 + 17 * ts.length := by
  simp only [transmitterVectorBytes, List.length_append, length_toBytes, width_uint32,
    length_flatten_transmitterBytes]

/-- `writeTransmitter` returns the seventeen bytes it appends. -/
theorem writeTransmitter_eq (t : Transmitter) (buff : Buffer) :
    writeTransmitter t buff = (buff ++ transmitterBytes t, 17) := by
  simp only [writeTransmitter, transmitterBytes]
  rfl

/-- A transmitter read where its seventeen bytes are in the buffer, at any position: the fields at
their offsets, and the reader past them. -/
theorem readTransmitterFromBuffer_atPos {buff : Buffer} {pos : Nat} {oor : Bool}
    (h : pos + 17 ≤ buff.length) :
    readTransmitterFromBuffer (atPos buff pos oor) =
      (⟨ofBytes ((buff.drop pos).take 1),
        ⟨ofBytes ((buff.drop (pos + 1)).take 8), ofBytes ((buff.drop (pos + 9)).take 8)⟩⟩,
        atPos buff (pos + 17) oor) := by
  simp (disch := simp only [width_uint8, width_uint64]; omega) only [readTransmitterFromBuffer,
    convertPrimitive, bind, StateT.bind, pure, StateT.pure, readPrimitive_atPos_of_fits, width_uint8,
    width_uint64, Nat.add_assoc]

/-- A transmitter read where seventeen bytes are left is written back as those bytes. -/
theorem transmitterBytes_read {buff : Buffer} {pos : Nat} {oor : Bool} (h : pos + 17 ≤ buff.length) :
    transmitterBytes (readTransmitterFromBuffer (atPos buff pos oor)).1 = (buff.drop pos).take 17 := by
  have hphy : toBytes (ofBytes ((buff.drop pos).take 1) : UInt8) = (buff.drop pos).take 1 :=
    toBytes_ofBytes (List.length_take_of_le (by rw [List.length_drop]; omega))
  have hword (k : Nat) (hk : k + 8 ≤ 17) :
      toBytes (ofBytes ((buff.drop (pos + k)).take 8) : UInt64) = ((buff.drop pos).drop k).take 8 := by
    rw [List.drop_drop]
    exact toBytes_ofBytes (List.length_take_of_le (by rw [List.length_drop]; omega))
  simp only [readTransmitterFromBuffer_atPos h, transmitterBytes_eq]
  rw [← toBytes_uint8, hphy, hword 1 (by omega), hword 9 (by omega), ← List.take_add,
    show 1 + 8 = 9 from rfl, ← List.take_add]

/-- Different transmitters go out as different bytes. -/
theorem transmitterBytes_injective : Function.Injective transmitterBytes := by
  intro ⟨pa, ua, la⟩ ⟨pb, ub, lb⟩ h
  simp only [transmitterBytes_eq] at h
  obtain ⟨h1, hl⟩ := List.append_inj h (by simp)
  obtain ⟨hp, hu⟩ := List.append_inj h1 rfl
  rw [List.singleton_inj.mp hp, toBytes_injective hu, toBytes_injective hl]

/-- A transmitter read where its bytes stand, at any position. -/
theorem readTransmitterFromBuffer_of_bytes {t : Transmitter} {buff : Buffer} {pos : Nat}
    {oor : Bool} (h : transmitterBytes t <+: buff.drop pos) :
    readTransmitterFromBuffer (atPos buff pos oor) = (t, atPos buff (pos + 17) oor) := by
  have hle : pos + 17 ≤ buff.length := by
    have := h.length_le
    rw [List.length_drop, length_transmitterBytes] at this
    omega
  have ht : (readTransmitterFromBuffer (atPos buff pos oor)).1 = t := by
    apply transmitterBytes_injective
    rw [transmitterBytes_read hle, List.prefix_iff_eq_take.mp h, length_transmitterBytes]
  rw [← ht, readTransmitterFromBuffer_atPos hle]

/-- `n` transmitters read where their bytes stand, at any position. -/
theorem readN_of_bytes {buff : Buffer} {oor : Bool} :
    ∀ (ts : List Transmitter) (pos : Nat), (ts.map transmitterBytes).flatten <+: buff.drop pos →
      readN readTransmitterFromBuffer ts.length (atPos buff pos oor) =
        (ts, atPos buff (pos + 17 * ts.length) oor)
  | [], pos, _ => rfl
  | t :: ts, pos, h => by
    simp only [List.map_cons, List.flatten_cons] at h
    have ht := @readTransmitterFromBuffer_of_bytes t buff pos oor ((List.prefix_append _ _).trans h)
    have hts := @readN_of_bytes buff oor ts (pos + 17)
      (by simpa only [length_transmitterBytes] using prefix_drop_append h)
    simp only [List.length_cons, readN, ht, hts]
    congr 2
    omega

/-- `n` transmitters read where `17 * n` bytes are left are written back as those bytes. -/
theorem transmitterBytes_readN {buff : Buffer} {oor : Bool} :
    ∀ (n pos : Nat), pos + 17 * n ≤ buff.length →
      ((readN readTransmitterFromBuffer n (atPos buff pos oor)).1.map transmitterBytes).flatten =
        (buff.drop pos).take (17 * n)
  | 0, _, _ => rfl
  | n + 1, pos, h => by
    have hle : pos + 17 ≤ buff.length := by omega
    have hr := @readTransmitterFromBuffer_atPos buff pos oor hle
    have ht := @transmitterBytes_read buff pos oor hle
    rw [hr] at ht
    simp only [readN, hr, List.map_cons, List.flatten_cons]
    rw [ht, transmitterBytes_readN n (pos + 17) (by omega), ← List.drop_drop, ← List.take_add,
      show 17 * (n + 1) = 17 + 17 * n by omega]

/-- `readTransmitter(buff)` is `readTransmitterFromBuffer` on a fresh reader over `buff`, whatever
its length: where a field does not fit, the reader returns `0` for it and for every field after it,
and so do the free reads at the fields' offsets. -/
theorem readTransmitter_eq (buff : Buffer) :
    (readTransmitterFromBuffer (init buff)).1 = readTransmitter buff := by
  simp only [readTransmitterFromBuffer, convertPrimitive, bind, StateT.bind, pure, StateT.pure,
    init_eq, readTransmitter]
  rw [NetBuffer.readPrimitive_atPos_fst (by decide) (by decide)]
  rcases Nat.lt_or_ge buff.length 1 with h0 | h1
  · rw [List.length_eq_zero.mp (by omega : buff.length = 0)]
    rfl
  rw [readPrimitive_atPos_of_le (α := UInt8) (by decide) (by simp only [width_uint8]; omega)]
  simp only [width_uint8, Nat.zero_add]
  rw [NetBuffer.readPrimitive_atPos_fst (by decide) (by decide)]
  rcases Nat.lt_or_ge buff.length 9 with h8 | h9
  · have hzero : ∀ i, 1 ≤ i → NetBuffer.readPrimitive UInt64 buff i = zero := fun i hi => by
      rw [NetBuffer.readPrimitive, if_neg (by simp only [width_uint64]; omega)]
    rw [readPrimitive_atPos_of_lt (α := UInt64) (by decide) (by simp only [width_uint64]; omega),
      NetBuffer.readPrimitive_atPos_fst (by decide) (by decide), hzero 1 le_rfl, hzero _ (by omega)]
  · rw [readPrimitive_atPos_of_le (α := UInt64) (by decide) (by simp only [width_uint64]; omega),
      NetBuffer.readPrimitive_atPos_fst (by decide) (by decide)]

/-- Unpacking the count and the bytes written for fewer than `2 ^ 32` transmitters gives them
back, however long the buffer: past `2 ^ 32` bytes the cursor wraps, and the reads still pass
their check and copy from the iterator. -/
theorem unpackGRAILVector_transmitterVectorBytes (ts : List Transmitter) (h : ts.length < 2 ^ 32) :
    unpackGRAILVector readTransmitterFromBuffer (transmitterVectorBytes ts) = ts := by
  have hlen := length_transmitterVectorBytes ts
  have hcount : (ofBytes ((transmitterVectorBytes ts).take (width UInt32)) : UInt32).toNat =
      ts.length := by
    rw [transmitterVectorBytes, List.take_left' (length_toBytes _), ofBytes_toBytes]
    exact Nat.mod_eq_of_lt h
  have hread := @readN_of_bytes (transmitterVectorBytes ts) false ts 4
    (by rw [transmitterVectorBytes, List.drop_left'
      (show (toBytes (UInt32.ofNat ts.length)).length = 4 from length_toBytes _)])
  simp only [unpackGRAILVector, init_eq]
  rw [readPrimitive_atPos_of_fits (α := UInt32) (by simp only [width_uint32]; omega), List.drop_zero,
    hcount]
  exact congrArg Prod.fst hread

/-- From a buffer of at least four bytes, `unpackGRAILVector` reads as many transmitters as the
count in its first four bytes says, from offset four on. -/
theorem unpackGRAILVector_of_le {β : Type} (read_fun : StateM BuffReader β) {buff : Buffer}
    (h : 4 ≤ buff.length) :
    unpackGRAILVector read_fun buff =
      (readN read_fun (ofBytes (buff.take 4) : UInt32).toNat (atPos buff 4 false)).1 := by
  simp only [unpackGRAILVector, init_eq]
  rw [readPrimitive_atPos_of_fits (α := UInt32) (by simp only [width_uint32]; omega), List.drop_zero]
  rfl

/-- What `unpackGRAILVector` returns from a buffer is written back as a prefix of the buffer
exactly when the buffer holds the bytes its count asks for. -/
theorem transmitterVectorBytes_unpack_prefix_iff (buff : Buffer) :
    transmitterVectorBytes (unpackGRAILVector readTransmitterFromBuffer buff) <+: buff ↔
      4 + 17 * (unpackGRAILVector readTransmitterFromBuffer buff).length ≤ buff.length := by
  refine ⟨fun hp => length_transmitterVectorBytes _ ▸ hp.length_le, fun hle => ?_⟩
  rw [unpackGRAILVector_of_le _ (by omega)] at hle ⊢
  rw [length_readN] at hle
  have hcount : UInt32.ofNat (ofBytes (buff.take 4) : UInt32).toNat = ofBytes (buff.take 4) :=
    Wire.ofNat_toNat _
  have htake : toBytes (ofBytes (buff.take 4) : UInt32) = buff.take 4 :=
    toBytes_ofBytes (List.length_take_of_le (by omega))
  rw [transmitterVectorBytes, length_readN, hcount, htake, transmitterBytes_readN _ 4 hle,
    ← List.take_add]
  exact List.take_prefix _ _

/-- Transmitters round-trip through `unpackGRAILVector`, `readTransmitter` agrees with
`readTransmitterFromBuffer` on a fresh reader, and what `unpackGRAILVector` returns is written back
as a prefix of its buffer exactly when the buffer holds the bytes the count asks for. -/
theorem unpackGRAILVector_transmitters :
    (∀ ts : List Transmitter, ts.length < 2 ^ 32 →
      unpackGRAILVector readTransmitterFromBuffer (transmitterVectorBytes ts) = ts) ∧
    (∀ buff, (readTransmitterFromBuffer (init buff)).1 = readTransmitter buff) ∧
    (∀ buff, transmitterVectorBytes (unpackGRAILVector readTransmitterFromBuffer buff) <+: buff ↔
      4 + 17 * (unpackGRAILVector readTransmitterFromBuffer buff).length ≤ buff.length) :=
  ⟨unpackGRAILVector_transmitterVectorBytes, readTransmitter_eq,
    transmitterVectorBytes_unpack_prefix_iff⟩

/-- One transmitter, written as a vector and unpacked again. -/
theorem unpackGRAILVector_transmitters_one :
    unpackGRAILVector readTransmitterFromBuffer (transmitterVectorBytes [⟨1, ⟨2, 3⟩⟩]) =
      [⟨1, ⟨2, 3⟩⟩] :=
  unpackGRAILVector_transmitters.1 _ (by decide)

/-- The count `1` with no transmitter behind it: `unpackGRAILVector` returns one transmitter of
zeros, whose bytes are not a prefix of the buffer. -/
theorem unpackGRAILVector_short_count :
    unpackGRAILVector readTransmitterFromBuffer [0, 0, 0, 1] = [⟨0, ⟨0, 0⟩⟩] ∧
      ¬transmitterVectorBytes [⟨0, ⟨0, 0⟩⟩] <+: [0, 0, 0, 1] :=
  ⟨by decide, fun h => absurd h.length_le (by decide)⟩

end OwlCommon.GrailTypes
