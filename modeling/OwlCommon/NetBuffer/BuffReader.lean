import OwlCommon.NetBuffer.Push

/-!
# `BuffReader`

The decoders read a frame through a `BuffReader` (`netbuffer.hpp`): a reference to the buffer, a
32-bit cursor `cur_index`, an iterator `buff_i` that is advanced beside it, and a flag that
latches once a read would pass the end of the buffer. A read checks the cursor and copies from
the iterator; a read that does not fit returns `(T)0`, latches the flag and moves nothing.

The state is explicit and each read returns the new reader beside its value. `atPos buff pos oor`
is the reader at `pos` whose cursor and iterator agree, and every read maps such readers to such
readers while the buffer is shorter than `2 ^ 32` bytes (`readPrimitive_atPos` and the lemmas
after it). The decoders' round trips and their soundness are built on these equations, in
`NetBuffer/Reads.lean` and `NetBuffer/Parses.lean`.
-/

namespace OwlCommon

open Wire

/-- `BuffReader`: the buffer it reads, the `unsigned int` cursor `cur_index`, the iterator `buff_i`
as its offset from `buff.begin()`, and `_out_of_range`. The constructor's `little_endian` is never
read by a read. -/
structure BuffReader where
  /-- The buffer the reader refers to. -/
  buff : Buffer
  /-- The cursor that the bounds checks use. -/
  cur_index : UInt32
  /-- The iterator that the copies use. -/
  buff_i : Nat
  /-- Whether a read tried to go past the end of the buffer. -/
  out_of_range : Bool
deriving DecidableEq, Repr

namespace BuffReader

/-- `BuffReader(buffer)`. -/
def init (buffer : Buffer) : BuffReader := ⟨buffer, 0, 0, false⟩

/-- `readPrimitive<T>()`: when `cur_index + sizeof(T)` is within the buffer, the value of the
`sizeof(T)` bytes at the iterator, both advanced; otherwise `(T)0` and `_out_of_range` set. -/
def readPrimitive (α : Type) [Wire α] (r : BuffReader) : α × BuffReader :=
  if r.cur_index.toNat + width α ≤ r.buff.length then
    (ofBytes ((r.buff.drop r.buff_i).take (width α)),
      { r with cur_index := r.cur_index + UInt32.ofNat (width α), buff_i := r.buff_i + width α })
  else (zero, { r with out_of_range := true })

/-- The counted loops of `readUTF16`, `readSizedUTF16` and the decoders: `n` reads in a row, their
values in order. -/
def readN {β : Type} (read : BuffReader → β × BuffReader) : Nat → BuffReader → List β × BuffReader
  | 0, r => ([], r)
  | n + 1, r =>
    let (b, r) := read r
    let (bs, r) := readN read n r
    (b :: bs, r)

/-- A counted loop returns as many values as it was asked for, whether or not its reads fit. -/
@[simp] theorem length_readN {β : Type} (read : BuffReader → β × BuffReader) :
    ∀ n r, (readN read n r).1.length = n
  | 0, _ => rfl
  | n + 1, _ => congrArg Nat.succ (length_readN read n _)

/-- `readUTF16(size)`: `size` code units, each by `readPrimitive<char16_t>()`. -/
def readUTF16 (r : BuffReader) (size : Nat) : U16String × BuffReader :=
  readN (readPrimitive UInt16) size r

/-- `readSizedUTF16()`: a `uint32_t` byte length, then half as many code units. The method has a
loop of its own, the same as `readUTF16`'s. -/
def readSizedUTF16 (r : BuffReader) : U16String × BuffReader :=
  let (size, r) := r.readPrimitive UInt32
  r.readUTF16 (size.toNat / 2)

/-- The loop of `readSizedVector<T>()`: up to `n` values, stopping without a flag where the next
one would pass the end of the buffer. -/
def readVectorLoop (α : Type) [Wire α] : Nat → BuffReader → List α × BuffReader
  | 0, r => ([], r)
  | n + 1, r =>
    if r.cur_index.toNat + width α ≤ r.buff.length then
      let (v, r) := r.readPrimitive α
      let (vs, r) := readVectorLoop α n r
      (v :: vs, r)
    else ([], r)

/-- `readSizedVector<T>()`: a `uint32_t` byte length, then that many bytes' worth of values. -/
def readSizedVector (α : Type) [Wire α] (r : BuffReader) : List α × BuffReader :=
  let (size, r) := r.readPrimitive UInt32
  readVectorLoop α (size.toNat / width α) r

/-- `readPrimitiveContainer(container)`: overwrites the container's values in order while the next
one fits in the buffer; the others keep their values. -/
def readPrimitiveContainer (α : Type) [Wire α] : List α → BuffReader → List α × BuffReader
  | [], r => ([], r)
  | x :: xs, r =>
    if r.cur_index.toNat + width α ≤ r.buff.length then
      let (v, r) := r.readPrimitive α
      let (vs, r) := readPrimitiveContainer α xs r
      (v :: vs, r)
    else (x :: xs, r)

/-- `convertPrimitive(value)`: `value = readPrimitive<T>()`, so the value stored is the one read. -/
def convertPrimitive (α : Type) [Wire α] (r : BuffReader) : α × BuffReader := r.readPrimitive α

/-- `discard(bytes)`: the cursor moves on in `unsigned int` arithmetic and the iterator by the full
`size_t` count; then the cursor alone is pulled back to the end of the buffer if it passed it. -/
def discard (r : BuffReader) (bytes : Nat) : BuffReader :=
  let cur_index := r.cur_index + UInt32.ofNat bytes
  if r.buff.length < cur_index.toNat then
    { r with cur_index := UInt32.ofNat r.buff.length, buff_i := r.buff_i + bytes }
  else { r with cur_index := cur_index, buff_i := r.buff_i + bytes }

/-! ## Readers at a position -/

/-- The reader at `pos` of `buff` whose cursor and iterator agree, with `_out_of_range` = `oor`. -/
def atPos (buff : Buffer) (pos : Nat) (oor : Bool) : BuffReader := ⟨buff, UInt32.ofNat pos, pos, oor⟩

/-- `BuffReader(buff)` is the reader at position zero with the flag clear. -/
@[simp] theorem init_eq (buff : Buffer) : init buff = atPos buff 0 false := rfl

/-- A reader at a position reads its buffer. -/
@[simp] theorem atPos_buff (buff : Buffer) (pos : Nat) (oor : Bool) : (atPos buff pos oor).buff = buff :=
  rfl

/-- A reader at a position has the flag it was given. -/
@[simp] theorem atPos_out_of_range (buff : Buffer) (pos : Nat) (oor : Bool) :
    (atPos buff pos oor).out_of_range = oor := rfl

/-- A reader's cursor is its position modulo `2 ^ 32`. -/
@[simp] theorem atPos_cur_index (buff : Buffer) (pos : Nat) (oor : Bool) :
    (atPos buff pos oor).cur_index.toNat = pos % 2 ^ 32 := rfl

/-- `unsigned int` addition of two numbers is their sum modulo `2 ^ 32`. -/
theorem ofNat_add_ofNat (a b : Nat) : UInt32.ofNat a + UInt32.ofNat b = UInt32.ofNat (a + b) := by
  apply UInt32.toNat.inj
  rw [Push.toNat_add_uint32]
  show (a % 2 ^ 32 + b % 2 ^ 32) % 2 ^ 32 = (a + b) % 2 ^ 32
  omega

variable {α : Type} [Wire α] {buff : Buffer} {pos : Nat} {oor : Bool}

/-- A read at a position below `2 ^ 32`: the value of the next `sizeof(T)` bytes and the position
after them, or `(T)0` and the flag. -/
theorem readPrimitive_atPos (hpos : pos < 2 ^ 32) :
    (atPos buff pos oor).readPrimitive α =
      if pos + width α ≤ buff.length then
        (ofBytes ((buff.drop pos).take (width α)), atPos buff (pos + width α) oor)
      else (zero, atPos buff pos true) := by
  have hcur : (UInt32.ofNat pos).toNat = pos := Nat.mod_eq_of_lt hpos
  by_cases h : pos + width α ≤ buff.length
  · simp [readPrimitive, atPos, h, hcur, ofNat_add_ofNat]
  · simp [readPrimitive, atPos, h, hcur]

/-- A read whose bytes are in the buffer succeeds at any position: the check uses the cursor,
which is the position modulo `2 ^ 32`, and the copy the iterator. -/
theorem readPrimitive_atPos_of_fits (h : pos + width α ≤ buff.length) :
    (atPos buff pos oor).readPrimitive α =
      (ofBytes ((buff.drop pos).take (width α)), atPos buff (pos + width α) oor) := by
  have hcheck : (UInt32.ofNat pos).toNat + width α ≤ buff.length := by
    have := Nat.mod_le pos (2 ^ 32)
    exact Nat.le_trans (Nat.add_le_add_right this _) h
  simp [readPrimitive, atPos, hcheck, ofNat_add_ofNat]

/-- A read that fits, at a position below `2 ^ 32`, returns the value of the next bytes and moves
past them. -/
theorem readPrimitive_atPos_of_le (hpos : pos < 2 ^ 32) (h : pos + width α ≤ buff.length) :
    (atPos buff pos oor).readPrimitive α =
      (ofBytes ((buff.drop pos).take (width α)), atPos buff (pos + width α) oor) := by
  rw [readPrimitive_atPos hpos, if_pos h]

/-- A read that does not fit returns `(T)0`, sets the flag and stays where it is. -/
theorem readPrimitive_atPos_of_lt (hpos : pos < 2 ^ 32) (h : buff.length < pos + width α) :
    (atPos buff pos oor).readPrimitive α = (zero, atPos buff pos true) := by
  rw [readPrimitive_atPos hpos, if_neg (by omega)]

/-- A sized string whose length field does not fit is empty, with the flag set and the cursor where
it was. -/
theorem readSizedUTF16_atPos_of_lt (hpos : pos < 2 ^ 32) (h : buff.length < pos + 4) :
    (atPos buff pos oor).readSizedUTF16 = ([], atPos buff pos true) := by
  simp only [readSizedUTF16, readPrimitive_atPos_of_lt (α := UInt32) hpos (by simpa using h)]
  rfl

/-- A read at a position below `2 ^ 32` that returns something other than `(T)0` fitted. -/
theorem readPrimitive_atPos_of_ne (hpos : pos < 2 ^ 32) (h : ((atPos buff pos oor).readPrimitive α).1 ≠ zero) :
    ((atPos buff pos oor).readPrimitive α).2 = atPos buff (pos + width α) oor := by
  rw [readPrimitive_atPos hpos] at h ⊢
  split at h
  · rename_i hle
    rw [if_pos hle]
  · exact absurd rfl h

/-- Code units that fit in a buffer shorter than `2 ^ 32` bytes move the reader past them and
leave the flag alone. -/
theorem readUTF16_atPos_of_le (hsmall : buff.length < 2 ^ 32) :
    ∀ n pos, pos + 2 * n ≤ buff.length →
      ((atPos buff pos oor).readUTF16 n).2 = atPos buff (pos + 2 * n) oor
  | 0, _, _ => rfl
  | n + 1, pos, h => by
    have ih := readUTF16_atPos_of_le hsmall n (pos + 2) (by omega)
    simp only [readUTF16] at ih ⊢
    simp only [readN]
    rw [readPrimitive_atPos_of_le (by omega) (by simp only [width_uint16]; omega)]
    simp only [width_uint16, ih]
    congr 1
    omega

/-! ## What every read keeps

The reads with a loop are built from `readPrimitive`, so a property of readers that every
`readPrimitive` keeps is kept by all of them (`readN_keeps` and the lemmas after it). -/

/-- `read` keeps the property `P` of readers. -/
def Keeps {β : Type} (P : BuffReader → Prop) (read : BuffReader → β × BuffReader) : Prop :=
  ∀ r, P r → P (read r).2

section Keeps

variable {P : BuffReader → Prop}

/-- A loop of reads that each keep `P` keeps `P`. -/
theorem readN_keeps {β : Type} {read : BuffReader → β × BuffReader} (h : Keeps P read) (n : Nat) :
    Keeps P (readN read n) := by
  induction n with
  | zero => exact fun r hr => hr
  | succ n ih => exact fun r hr => ih _ (h r hr)

/-- `readUTF16(size)` keeps what every `readPrimitive<char16_t>` keeps. -/
theorem readUTF16_keeps (h : Keeps P (readPrimitive UInt16)) (size : Nat) :
    Keeps P (fun r => readUTF16 r size) :=
  readN_keeps h size

/-- `readSizedUTF16()` keeps what its two kinds of `readPrimitive` keep. -/
theorem readSizedUTF16_keeps (h32 : Keeps P (readPrimitive UInt32))
    (h16 : Keeps P (readPrimitive UInt16)) : Keeps P readSizedUTF16 :=
  fun r hr => readUTF16_keeps h16 _ _ (h32 r hr)

/-- The loop of `readSizedVector` keeps what each of its reads keeps. -/
theorem readVectorLoop_keeps (h : Keeps P (readPrimitive α)) (n : Nat) :
    Keeps P (readVectorLoop α n) := by
  induction n with
  | zero => exact fun r hr => hr
  | succ n ih =>
    intro r hr
    unfold readVectorLoop
    split
    · exact ih _ (h r hr)
    · exact hr

/-- `readSizedVector<T>()` keeps what its length read and its element reads keep. -/
theorem readSizedVector_keeps (h32 : Keeps P (readPrimitive UInt32)) (h : Keeps P (readPrimitive α)) :
    Keeps P (readSizedVector α) :=
  fun r hr => readVectorLoop_keeps h _ _ (h32 r hr)

/-- `readPrimitiveContainer` keeps what each of its reads keeps. -/
theorem readPrimitiveContainer_keeps (h : Keeps P (readPrimitive α)) (xs : List α) :
    Keeps P (readPrimitiveContainer α xs) := by
  induction xs with
  | nil => exact fun r hr => hr
  | cons x xs ih =>
    intro r hr
    unfold readPrimitiveContainer
    split
    · exact ih _ (h r hr)
    · exact hr

end Keeps

/-! ## The flag stays latched -/

/-- A read that keeps `_out_of_range` once it is set. -/
def Latches {β : Type} (read : BuffReader → β × BuffReader) : Prop :=
  ∀ r, r.out_of_range = true → (read r).2.out_of_range = true

/-- `readPrimitive` leaves a set flag set. -/
theorem readPrimitive_latches : Latches (readPrimitive α) := by
  intro r h
  unfold readPrimitive
  split <;> simp [h]

/-- A loop of reads that leave the flag set leaves it set. -/
theorem readN_latches {β : Type} {read : BuffReader → β × BuffReader} (h : Latches read) (n : Nat) :
    Latches (readN read n) :=
  readN_keeps h n

/-- `readUTF16(size)` leaves a set flag set. -/
theorem readUTF16_latches (size : Nat) : Latches (fun r => readUTF16 r size) :=
  readUTF16_keeps readPrimitive_latches size

/-- `readSizedUTF16()` leaves a set flag set. -/
theorem readSizedUTF16_latches : Latches readSizedUTF16 :=
  readSizedUTF16_keeps readPrimitive_latches readPrimitive_latches

/-- The loop of `readSizedVector` leaves a set flag set. -/
theorem readVectorLoop_latches (n : Nat) : Latches (readVectorLoop α n) :=
  readVectorLoop_keeps readPrimitive_latches n

/-- `readSizedVector<T>()` leaves a set flag set. -/
theorem readSizedVector_latches : Latches (readSizedVector α) :=
  readSizedVector_keeps readPrimitive_latches readPrimitive_latches

end BuffReader

end OwlCommon
