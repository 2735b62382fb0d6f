import OwlCommon.NetBuffer.BuffReader

/-!
# The cursor and the iterator of a `BuffReader`

A `BuffReader` keeps two positions: the `unsigned int` cursor `cur_index`, which the checks read,
and the iterator `buff_i`, which the copies read. Every read moves both by the same amount, the
cursor modulo `2 ^ 32`; `discard` does too, then pulls the cursor alone back to the end of the
buffer if it passed it. A call on a reader is a `Call`, and `runCalls` makes calls in a row.

On a buffer shorter than `2 ^ 32` bytes, calls whose `discard` amounts keep the cursor below
`2 ^ 32` keep the reader `Aligned`: the iterator is at the cursor, or the cursor is pinned to the
end of the buffer with the iterator at or past it. So the iterator is at the cursor whenever the
cursor is inside the buffer, and a read that passes its check copies the bytes at the cursor
(`runCalls_reads_at_cursor`).

Past those bounds the two part: `discard(2 ^ 32)` leaves the cursor where it was and moves the
iterator `2 ^ 32` bytes on, and reading the first `2 ^ 32` bytes of a longer buffer brings the
cursor back to `0` (`cursor_parts_from_iterator`). A read then passes its check on the cursor and
copies from the iterator, outside the buffer or at bytes other than the cursor's.
-/

namespace OwlCommon.BuffReader

open Wire

/-- A call on a `BuffReader`, `T` a type of the wire. -/
inductive Call : Type 1
  /-- `readPrimitive<T>()`. -/
  | readPrimitive (α : Type) [Wire α]
  /-- `convertPrimitive(value)` of a `T`. -/
  | convertPrimitive (α : Type) [Wire α]
  /-- `readPrimitiveContainer(container)` of a container of `T`. -/
  | readPrimitiveContainer (α : Type) [Wire α] (container : List α)
  /-- `readSizedVector<T>()`. -/
  | readSizedVector (α : Type) [Wire α]
  /-- `readUTF16(size)`. -/
  | readUTF16 (size : Nat)
  /-- `readSizedUTF16()`. -/
  | readSizedUTF16
  /-- `discard(bytes)`. -/
  | discard (bytes : Nat)

/-- The reader a call leaves. -/
def Call.run : Call → BuffReader → BuffReader
  | @readPrimitive α _, r => (r.readPrimitive α).2
  | @convertPrimitive α _, r => (r.convertPrimitive α).2
  | @readPrimitiveContainer α _ container, r => (BuffReader.readPrimitiveContainer α container r).2
  | @readSizedVector α _, r => (BuffReader.readSizedVector α r).2
  | .readUTF16 size, r => (r.readUTF16 size).2
  | .readSizedUTF16, r => r.readSizedUTF16.2
  | .discard bytes, r => r.discard bytes

/-- The reader that calls in a row leave. -/
def runCalls (calls : List Call) (r : BuffReader) : BuffReader := calls.foldl (fun r c => c.run r) r

/-- No call leaves the reader as it was. -/
@[simp] theorem runCalls_nil (r : BuffReader) : runCalls [] r = r := rfl

/-- Calls in a row are the first call, then the rest. -/
@[simp] theorem runCalls_cons (c : Call) (calls : List Call) (r : BuffReader) :
    runCalls (c :: calls) r = runCalls calls (c.run r) := rfl

/-- `readPrimitiveContainer` as a call leaves the reader the read leaves. -/
theorem Call.run_readPrimitiveContainer (α : Type) [Wire α] (container : List α) (r : BuffReader) :
    (Call.readPrimitiveContainer α container).run r =
      (BuffReader.readPrimitiveContainer α container r).2 := rfl

/-- The iterator is at the cursor whenever the cursor is inside the buffer. -/
def Synced (r : BuffReader) : Prop :=
  r.cur_index.toNat < r.buff.length → r.buff_i = r.cur_index.toNat

/-- Every read of a `T` that passes its check `cur_index + sizeof(T) <= buff.size()` copies the
`sizeof(T)` bytes at the cursor, all of them inside the buffer. -/
def ReadsAtCursor (r : BuffReader) : Prop :=
  ∀ (α : Type) [Wire α], 0 < width α → r.cur_index.toNat + width α ≤ r.buff.length →
    (r.buff.drop r.buff_i).take (width α) = (r.buff.drop r.cur_index.toNat).take (width α) ∧
      r.buff_i + width α ≤ r.buff.length

/-- A reader on a buffer shorter than `2 ^ 32` bytes, its cursor within the buffer, and its
iterator at the cursor, or the cursor pinned to the end and the iterator at or past it. -/
structure Aligned (r : BuffReader) : Prop where
  /-- The buffer is shorter than `2 ^ 32` bytes. -/
  small : r.buff.length < 2 ^ 32
  /-- The cursor is within the buffer. -/
  cur_le : r.cur_index.toNat ≤ r.buff.length
  /-- The iterator is at the cursor, or the cursor at the end and the iterator at or past it. -/
  at_cursor : r.buff_i = r.cur_index.toNat ∨
    (r.cur_index.toNat = r.buff.length ∧ r.buff.length ≤ r.buff_i)

/-- A fresh reader on a buffer shorter than `2 ^ 32` bytes is aligned. -/
theorem aligned_init {buff : Buffer} (h : buff.length < 2 ^ 32) : Aligned (init buff) :=
  ⟨h, Nat.zero_le _, .inl rfl⟩

/-- An aligned reader's iterator is at its cursor while the cursor is inside the buffer. -/
theorem Aligned.synced {r : BuffReader} (h : Aligned r) : Synced r :=
  fun hlt => h.at_cursor.resolve_right fun ⟨heq, _⟩ => by omega

/-- An aligned reader copies, on every read that passes its check, the bytes at its cursor. -/
theorem Aligned.readsAtCursor {r : BuffReader} (h : Aligned r) : ReadsAtCursor r := by
  intro α _ hw hfit
  have hat : r.buff_i = r.cur_index.toNat := h.synced (by omega)
  rw [hat]
  exact ⟨rfl, hfit⟩

/-- Moving the cursor and the iterator on together, within the buffer, keeps the iterator at the
cursor, or past the end with the cursor there. -/
theorem Aligned.advance {r : BuffReader} (hr : Aligned r) {n : Nat}
    (hfit : r.cur_index.toNat + n ≤ r.buff.length) :
    r.buff_i + n = r.cur_index.toNat + n ∨
      (r.cur_index.toNat + n = r.buff.length ∧ r.buff.length ≤ r.buff_i + n) :=
  hr.at_cursor.imp (fun h => by omega) fun ⟨h1, h2⟩ => ⟨by omega, by omega⟩

/-- A `uint32_t` sum that stays below `2 ^ 32`. -/
theorem toNat_add_ofNat {a : UInt32} {n : Nat} (h : a.toNat + n < 2 ^ 32) :
    (a + UInt32.ofNat n).toNat = a.toNat + n := by
  rw [Push.toNat_add_uint32]
  show (a.toNat + n % 2 ^ 32) % 2 ^ 32 = _
  rw [Nat.mod_eq_of_lt (by omega : n < 2 ^ 32), Nat.mod_eq_of_lt h]

variable {α : Type} [Wire α]

/-- `readPrimitive` keeps a reader aligned. -/
theorem readPrimitive_aligned : Keeps Aligned (readPrimitive α) := by
  intro r hr
  unfold readPrimitive
  split
  · rename_i hfit
    have hcur := toNat_add_ofNat (a := r.cur_index) (n := width α) (by have := hr.small; omega)
    refine ⟨hr.small, ?_, ?_⟩ <;> simp only [hcur]
    · exact hfit
    · exact hr.advance hfit
  · exact ⟨hr.small, hr.cur_le, hr.at_cursor⟩

/-- `discard` keeps a reader aligned when the cursor stays below `2 ^ 32`. -/
theorem discard_aligned {r : BuffReader} {bytes : Nat} (hr : Aligned r)
    (h : r.cur_index.toNat + bytes < 2 ^ 32) : Aligned (r.discard bytes) := by
  have hcur := toNat_add_ofNat (a := r.cur_index) h
  unfold discard
  dsimp only
  split
  · rename_i hpast
    have hend : (UInt32.ofNat r.buff.length).toNat = r.buff.length := Nat.mod_eq_of_lt hr.small
    refine ⟨hr.small, ?_, .inr ⟨?_, ?_⟩⟩ <;> simp only [hend]
    · exact le_rfl
    · rw [hcur] at hpast
      rcases hr.at_cursor with h | ⟨h1, h2⟩ <;> omega
  · rename_i hwithin
    rw [hcur] at hwithin
    refine ⟨hr.small, ?_, ?_⟩ <;> simp only [hcur]
    · omega
    · exact hr.advance (by omega)

/-- The buffer a reader refers to never changes. -/
theorem readPrimitive_keeps_buff (buff : Buffer) : Keeps (fun r => r.buff = buff) (readPrimitive α) := by
  intro r hr
  unfold readPrimitive
  split <;> exact hr

/-- No call changes the buffer a reader refers to. -/
theorem Call.buff_run (c : Call) (r : BuffReader) : (c.run r).buff = r.buff := by
  cases c with
  | readPrimitive α => exact readPrimitive_keeps_buff (α := α) _ r rfl
  | convertPrimitive α => exact readPrimitive_keeps_buff (α := α) _ r rfl
  | readPrimitiveContainer α xs =>
    exact readPrimitiveContainer_keeps (readPrimitive_keeps_buff (α := α) _) xs r rfl
  | readSizedVector α =>
    exact readSizedVector_keeps (readPrimitive_keeps_buff _) (readPrimitive_keeps_buff (α := α) _) r rfl
  | readUTF16 size => exact readUTF16_keeps (readPrimitive_keeps_buff _) size r rfl
  | readSizedUTF16 =>
    exact readSizedUTF16_keeps (readPrimitive_keeps_buff _) (readPrimitive_keeps_buff _) r rfl
  | discard bytes =>
    unfold Call.run BuffReader.discard
    dsimp only
    split <;> rfl

/-- One call keeps a reader aligned, when it is a read or a `discard` whose amount keeps the
cursor below `2 ^ 32` from anywhere in the buffer. -/
theorem Call.run_aligned (c : Call) {r : BuffReader} (hr : Aligned r)
    (hc : ∀ bytes, c = .discard bytes → r.buff.length + bytes < 2 ^ 32) : Aligned (c.run r) := by
  cases c with
  | readPrimitive α => exact readPrimitive_aligned (α := α) r hr
  | convertPrimitive α => exact readPrimitive_aligned (α := α) r hr
  | readPrimitiveContainer α xs =>
    exact readPrimitiveContainer_keeps (readPrimitive_aligned (α := α)) xs r hr
  | readSizedVector α =>
    exact readSizedVector_keeps readPrimitive_aligned (readPrimitive_aligned (α := α)) r hr
  | readUTF16 size => exact readUTF16_keeps readPrimitive_aligned size r hr
  | readSizedUTF16 => exact readSizedUTF16_keeps readPrimitive_aligned readPrimitive_aligned r hr
  | discard bytes => exact discard_aligned hr (by have := hc bytes rfl; have := hr.cur_le; omega)

/-- Calls in a row keep a reader aligned when no `discard` takes the cursor to `2 ^ 32`. -/
theorem runCalls_aligned :
    ∀ (calls : List Call) {r : BuffReader}, Aligned r →
      (∀ bytes, Call.discard bytes ∈ calls → r.buff.length + bytes < 2 ^ 32) →
      Aligned (runCalls calls r)
  | [], _, hr, _ => hr
  | c :: calls, r, hr, hc => by
    have hc' : ∀ bytes, Call.discard bytes ∈ calls → (c.run r).buff.length + bytes < 2 ^ 32 :=
      fun bytes hb => Call.buff_run c r ▸ hc bytes (List.mem_cons_of_mem c hb)
    exact runCalls_aligned calls (c.run_aligned hr fun bytes e => hc bytes (e ▸ List.mem_cons_self _ _)) hc'

/-- On a buffer shorter than `2 ^ 32` bytes, after any calls whose `discard` amounts keep the
cursor below `2 ^ 32`, the iterator is at the cursor whenever the cursor is inside the buffer, and
a read that passes its check copies the bytes at the cursor. -/
theorem runCalls_reads_at_cursor (buff : Buffer) (calls : List Call) (hsmall : buff.length < 2 ^ 32)
    (hcalls : ∀ bytes, Call.discard bytes ∈ calls → buff.length + bytes < 2 ^ 32) :
    Synced (runCalls calls (init buff)) ∧ ReadsAtCursor (runCalls calls (init buff)) :=
  have h := runCalls_aligned calls (aligned_init hsmall) hcalls
  ⟨h.synced, h.readsAtCursor⟩

/-- A read of two bytes and a `discard(1)` on a buffer of four. -/
theorem runCalls_reads_at_cursor_read_discard :
    Synced (runCalls [.readPrimitive UInt16, .discard 1] (init [1, 2, 3, 4])) ∧
      ReadsAtCursor (runCalls [.readPrimitive UInt16, .discard 1] (init [1, 2, 3, 4])) :=
  runCalls_reads_at_cursor [1, 2, 3, 4] _ (by decide) fun bytes h => by
    simp only [List.mem_cons, List.mem_singleton, List.not_mem_nil, or_false] at h
    rcases h with h | h
    · cases h
    · cases h
      decide

/-! ## Where the cursor and the iterator part -/

/-- Values that all fit move the reader past them, at any position: the guard and the checks
read the cursor, which is the position modulo `2 ^ 32`. -/
theorem readPrimitiveContainer_atPos_of_fits {buff : Buffer} {oor : Bool} :
    ∀ (xs : List α) (pos : Nat), pos + width α * xs.length ≤ buff.length →
      (readPrimitiveContainer α xs (atPos buff pos oor)).2 =
        atPos buff (pos + width α * xs.length) oor
  | [], pos, _ => rfl
  | x :: xs, pos, h => by
    rw [List.length_cons, Nat.mul_succ] at h ⊢
    have hfit : pos + width α ≤ buff.length := by omega
    have hguard : (atPos buff pos oor).cur_index.toNat + width α ≤ (atPos buff pos oor).buff.length := by
      rw [atPos_cur_index, atPos_buff]
      exact Nat.le_trans (Nat.add_le_add_right (Nat.mod_le _ _) _) hfit
    have ih := @readPrimitiveContainer_atPos_of_fits buff oor xs (pos + width α) (by omega)
    simp only [readPrimitiveContainer, if_pos hguard, readPrimitive_atPos_of_fits hfit, ih]
    congr 1
    omega

/-- `discard(2 ^ 32)` on the one-byte buffer `[7]` leaves the cursor at `0` and moves the iterator
to `2 ^ 32`, and reading the first `2 ^ 32` bytes of a buffer one byte longer, by
`readPrimitiveContainer` into a container of `2 ^ 32` bytes, brings the cursor back to `0` with the
iterator at `2 ^ 32`. In both, the cursor is inside the buffer and the iterator is not at it, and a
read passes its check and copies from past the end of the buffer. -/
theorem cursor_parts_from_iterator :
    runCalls [.discard (2 ^ 32)] (init [7]) = ⟨[7], 0, 2 ^ 32, false⟩ ∧
      ¬Synced ⟨[7], 0, 2 ^ 32, false⟩ ∧ ¬ReadsAtCursor ⟨[7], 0, 2 ^ 32, false⟩ ∧
    runCalls [.readPrimitiveContainer UInt8 (List.replicate (2 ^ 32) 0)]
        (init (List.replicate (2 ^ 32 + 1) 0)) =
      atPos (List.replicate (2 ^ 32 + 1) 0) (2 ^ 32) false ∧
      ¬Synced (atPos (List.replicate (2 ^ 32 + 1) 0) (2 ^ 32) false) ∧
      ¬ReadsAtCursor (atPos (List.replicate (2 ^ 32 + 1) 0) (2 ^ 32) false) := by
  have hlen : (List.replicate (2 ^ 32 + 1) (0 : UInt8)).length = 2 ^ 32 + 1 := List.length_replicate _ _
  have hcur : (atPos (List.replicate (2 ^ 32 + 1) (0 : UInt8)) (2 ^ 32) false).cur_index.toNat = 0 :=
    rfl
  refine ⟨by decide, fun h => absurd (h (by decide)) (by decide),
    fun h => absurd (h UInt8 (by decide) (by decide)).2 (by decide), ?_, fun h => ?_, fun h => ?_⟩
  · have h := @readPrimitiveContainer_atPos_of_fits UInt8 _ _ false (List.replicate (2 ^ 32) 0) 0
      (by rw [hlen, List.length_replicate, width_uint8]; omega)
    rw [List.length_replicate] at h
    rw [runCalls_cons, runCalls_nil, Call.run_readPrimitiveContainer, init_eq, h]
    rfl
  · exact absurd (h (by rw [hcur, atPos_buff, hlen]; omega)) (by rw [hcur]; decide)
  · have h8 := (h UInt64 (by decide) (by rw [hcur, atPos_buff, hlen, width_uint64]; omega)).2
    rw [atPos_buff, hlen, width_uint64] at h8
    exact absurd h8 (by decide)

end OwlCommon.BuffReader
