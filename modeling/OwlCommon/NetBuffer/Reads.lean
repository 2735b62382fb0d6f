import OwlCommon.NetBuffer.BuffReader
import Mathlib.Data.List.Infix

/-!
# Reads take back what pushes appended

`Reads read a bs` says that `read`, from any reader standing at the bytes `bs` of a buffer
shorter than `2 ^ 32` bytes, returns `a` and moves past `bs`, leaving the flag alone. Each read of
`BuffReader` takes back what the matching push appends (`readPrimitive_reads`,
`readSizedUTF16_reads`, `readSizedVector_reads`, ...), loops take back lists (`readN_reads`), and
reads in a row take back the bytes in a row (`Reads.bind`). The decoders' round trips are chains
of these.
-/

namespace OwlCommon

open Wire BuffReader

variable {β γ : Type}

/-- `read` takes `a` back from its bytes `bs`, wherever they stand in a buffer shorter than
`2 ^ 32` bytes. -/
def Reads (read : BuffReader → β × BuffReader) (a : β) (bs : Buffer) : Prop :=
  ∀ buff pos oor, buff.length < 2 ^ 32 → pos ≤ buff.length → bs <+: buff.drop pos →
    read (atPos buff pos oor) = (a, atPos buff (pos + bs.length) oor)

/-- The bytes after a prefix `a` of what stands at `pos` stand at `pos + a.length`. -/
theorem prefix_drop_append {a b buff : Buffer} {pos : Nat} (h : a ++ b <+: buff.drop pos) :
    b <+: buff.drop (pos + a.length) := by
  obtain ⟨t, ht⟩ := h
  refine ⟨t, ?_⟩
  rw [← List.drop_drop, ← ht, List.append_assoc, List.drop_left]

/-- Bytes that stand at `pos` end within the buffer. -/
theorem le_of_prefix_drop {a buff : Buffer} {pos : Nat} (hpos : pos ≤ buff.length)
    (h : a <+: buff.drop pos) : pos + a.length ≤ buff.length := by
  have := h.length_le
  rw [List.length_drop] at this
  omega

/-- A value with nothing read. -/
theorem reads_pure (a : β) : Reads (fun r => (a, r)) a [] := by
  intro buff pos oor _ _ _
  rfl

/-- Two reads in a row take back two encodings in a row. -/
theorem Reads.bind {f : BuffReader → β × BuffReader} {g : β → BuffReader → γ × BuffReader}
    {a : β} {c : γ} {bs cs : Buffer} (hf : Reads f a bs) (hg : Reads (g a) c cs) :
    Reads (fun r => match f r with | (x, r') => g x r') c (bs ++ cs) := by
  intro buff pos oor hsmall hpos hpre
  have hbs : bs <+: buff.drop pos := (List.prefix_append bs cs).trans hpre
  simp only [hf buff pos oor hsmall hpos hbs]
  rw [hg buff (pos + bs.length) oor hsmall (le_of_prefix_drop hpos hbs) (prefix_drop_append hpre),
    List.length_append, Nat.add_assoc]

/-- `Reads.bind` for two reads of a `StateM BuffReader` block. -/
theorem Reads.seq {f : StateM BuffReader β} {g : β → StateM BuffReader γ} {a : β} {c : γ}
    {bs cs : Buffer} (hf : Reads f a bs) (hg : Reads (g a) c cs) : Reads (f >>= g) c (bs ++ cs) :=
  hf.bind hg

/-- `return a` takes `a` back from no bytes. -/
theorem reads_ret (a : β) : Reads (pure a : StateM BuffReader β) a [] := reads_pure a

/-- A returned value that equals `b`, with nothing read. -/
theorem reads_ret_of_eq {a b : β} (h : a = b) : Reads (pure a : StateM BuffReader β) b [] :=
  h ▸ reads_ret a

/-- A read takes a value back from bytes equal to those it was shown to read. -/
theorem Reads.of_eq {read : BuffReader → β × BuffReader} {a : β} {bs bs' : Buffer}
    (h : Reads read a bs) (e : bs = bs') : Reads read a bs' := e ▸ h

/-- A read's bytes fit in a buffer shorter than `2 ^ 32` bytes, so a `Reads` may assume it. -/
theorem Reads.of_small {read : BuffReader → β × BuffReader} {a : β} {bs : Buffer}
    (h : bs.length < 2 ^ 32 → Reads read a bs) : Reads read a bs :=
  fun buff pos oor hsmall hpos hpre => h (Nat.lt_of_le_of_lt (by
    have := hpre.length_le
    rw [List.length_drop] at this
    omega) hsmall) buff pos oor hsmall hpos hpre

/-- `read` takes `a` back from the bytes `bs` that end a buffer shorter than `2 ^ 32` bytes: the
shape of a read that runs to the end of the buffer. -/
def ReadsEnd (read : BuffReader → β × BuffReader) (a : β) (bs : Buffer) : Prop :=
  ∀ buff pos oor, buff.length < 2 ^ 32 → pos ≤ buff.length → buff.drop pos = bs →
    read (atPos buff pos oor) = (a, atPos buff buff.length oor)

/-- A read to the end takes a value back from bytes equal to those it was shown to read. -/
theorem ReadsEnd.of_eq {read : BuffReader → β × BuffReader} {a : β} {bs bs' : Buffer}
    (h : ReadsEnd read a bs) (e : bs = bs') : ReadsEnd read a bs' := e ▸ h

/-- A read of bytes that end the buffer is a read to the end. -/
theorem Reads.toEnd {read : BuffReader → β × BuffReader} {a : β} {bs : Buffer} (h : Reads read a bs) :
    ReadsEnd read a bs := by
  intro buff pos oor hsmall hpos hdrop
  rw [h buff pos oor hsmall hpos (hdrop ▸ List.prefix_refl _), ← hdrop, List.length_drop,
    Nat.add_sub_cancel' hpos]

/-- A read, then a read to the end of the buffer. -/
theorem Reads.seqEnd {f : StateM BuffReader β} {g : β → StateM BuffReader γ} {a : β} {c : γ}
    {bs cs : Buffer} (hf : Reads f a bs) (hg : ReadsEnd (g a) c cs) : ReadsEnd (f >>= g) c (bs ++ cs) := by
  intro buff pos oor hsmall hpos hdrop
  have hpre : bs <+: buff.drop pos := hdrop ▸ List.prefix_append bs cs
  show (match f (atPos buff pos oor) with | (x, r') => g x r') = _
  rw [hf buff pos oor hsmall hpos hpre]
  exact hg buff _ oor hsmall (le_of_prefix_drop hpos hpre) (by
    rw [← List.drop_drop, hdrop, List.drop_left])

/-- A read to the end of the buffer, then a value. -/
theorem ReadsEnd.seq {f : StateM BuffReader β} {g : β → StateM BuffReader γ} {a : β} {c : γ}
    {bs : Buffer} (hf : ReadsEnd f a bs) (hg : Reads (g a) c []) : ReadsEnd (f >>= g) c bs := by
  intro buff pos oor hsmall hpos hdrop
  show (match f (atPos buff pos oor) with | (x, r') => g x r') = _
  rw [hf buff pos oor hsmall hpos hdrop]
  exact hg buff buff.length oor hsmall le_rfl List.nil_prefix

/-- `readPrimitive<T>()` takes a value back from its bytes. -/
theorem readPrimitive_reads {α : Type} [Wire α] (a : α) : Reads (readPrimitive α) a (toBytes a) := by
  intro buff pos oor hsmall hpos hpre
  have hle := le_of_prefix_drop hpos hpre
  rw [length_toBytes] at hle ⊢
  rw [readPrimitive_atPos_of_le (by omega) hle]
  have htake := List.prefix_iff_eq_take.mp hpre
  rw [length_toBytes] at htake
  rw [← htake, ofBytes_toBytes]

/-- A loop of `n` reads takes back `n` values from their encodings one after another. -/
theorem readN_reads {read : BuffReader → β × BuffReader} {enc : β → Buffer} :
    ∀ xs : List β, (∀ x ∈ xs, Reads read x (enc x)) →
      Reads (readN read xs.length) xs (xs.map enc).flatten
  | [], _ => by
    intro buff pos oor _ _ _
    rfl
  | x :: xs, h => by
    intro buff pos oor hsmall hpos hpre
    simp only [List.map_cons, List.flatten_cons] at hpre
    have hx : enc x <+: buff.drop pos := (List.prefix_append _ _).trans hpre
    have hxs := readN_reads xs (fun y hy => h y (List.mem_cons_of_mem x hy))
    simp only [List.length_cons, readN, h x (List.mem_cons_self x xs) buff pos oor hsmall hpos hx,
      hxs buff _ oor hsmall (le_of_prefix_drop hpos hx) (prefix_drop_append hpre), List.map_cons,
      List.flatten_cons, List.length_append, Nat.add_assoc]

/-- `readUTF16(size)` takes back `size` code units from their bytes. -/
theorem readUTF16_reads (s : U16String) : Reads (fun r => r.readUTF16 s.length) s (utf16Bytes s) :=
  readN_reads s fun c _ => readPrimitive_reads c

/-- `readSizedUTF16()` takes back a string from what `pushBackSizedUTF16` appends. -/
theorem readSizedUTF16_reads (s : U16String) : Reads readSizedUTF16 s (Push.sizedUTF16 s).bytes := by
  refine Reads.of_small fun h => ?_
  have hsize : (UInt32.ofNat (s.length * 2)).toNat / 2 = s.length := by
    simp only [Push.bytes, List.length_append, length_toBytes, length_utf16Bytes, width_uint32] at h
    show s.length * 2 % 2 ^ 32 / 2 = _
    omega
  exact (readPrimitive_reads (UInt32.ofNat (s.length * 2))).bind
    (g := fun size r => r.readUTF16 (size.toNat / 2)) (by simpa only [hsize] using readUTF16_reads s)

/-- A byte's bytes are itself. -/
@[simp] theorem toBytes_uint8 (b : UInt8) : toBytes b = [b] := by
  show [UInt8.ofNat (b.toNat / 256 ^ 0)] = [b]
  rw [Nat.pow_zero, Nat.div_one]
  exact congrArg (· :: []) (UInt8.toNat.inj (UInt8.toNat_ofNat_of_lt b.toNat_lt_size))

/-- The loop of `readSizedVector<uint8_t>` takes back bytes that stand in the buffer. -/
theorem readVectorLoop_reads : ∀ d : Buffer, Reads (readVectorLoop UInt8 d.length) d d
  | [] => by
    intro buff pos oor _ _ _
    rfl
  | b :: d => by
    intro buff pos oor hsmall hpos hpre
    have hb : toBytes b <+: buff.drop pos := by
      rw [toBytes_uint8]
      exact (List.prefix_append [b] d).trans hpre
    have hle := le_of_prefix_drop hpos hpre
    have hguard : (atPos buff pos oor).cur_index.toNat + width UInt8 ≤ (atPos buff pos oor).buff.length := by
      simp only [atPos_cur_index, atPos_buff, width_uint8, List.length_cons] at hle ⊢
      rw [Nat.mod_eq_of_lt (by omega)]
      omega
    simp only [List.length_cons, readVectorLoop, if_pos hguard]
    rw [readPrimitive_reads b buff pos oor hsmall hpos hb]
    simp only [toBytes_uint8, List.length_singleton]
    rw [readVectorLoop_reads d buff (pos + 1) oor hsmall (by simp only [List.length_cons] at hle; omega)
      (prefix_drop_append (a := [b]) hpre)]
    simp only [List.length_cons, Nat.add_assoc, Nat.add_comm 1]

/-- `readSizedVector<uint8_t>()` takes back a vector from what `pushSizedContainer` appends. -/
theorem readSizedVector_reads (d : Buffer) : Reads (readSizedVector UInt8) d (Push.sizedContainer d).bytes := by
  refine Reads.of_small fun h => ?_
  have hsize : (UInt32.ofNat d.length).toNat / width UInt8 = d.length := by
    simp only [Push.bytes, List.length_append, length_toBytes, width_uint32] at h
    show d.length % 2 ^ 32 / 1 = _
    omega
  exact (readPrimitive_reads (UInt32.ofNat d.length)).bind
    (g := fun size r => readVectorLoop UInt8 (size.toNat / width UInt8) r)
    (by simpa only [hsize] using readVectorLoop_reads d)

/-- `readPrimitiveContainer` into a container of `n` bytes takes back `n` bytes. -/
theorem readPrimitiveContainer_reads :
    ∀ c d : Buffer, c.length = d.length → Reads (readPrimitiveContainer UInt8 c) d d
  | [], [], _ => by
    intro buff pos oor _ _ _
    rfl
  | x :: c, b :: d, hlen => by
    intro buff pos oor hsmall hpos hpre
    have hb : toBytes b <+: buff.drop pos := by
      rw [toBytes_uint8]
      exact (List.prefix_append [b] d).trans hpre
    have hle := le_of_prefix_drop hpos hpre
    have hguard : (atPos buff pos oor).cur_index.toNat + width UInt8 ≤ (atPos buff pos oor).buff.length := by
      simp only [atPos_cur_index, atPos_buff, width_uint8, List.length_cons] at hle ⊢
      rw [Nat.mod_eq_of_lt (by omega)]
      omega
    simp only [readPrimitiveContainer, if_pos hguard]
    rw [readPrimitive_reads b buff pos oor hsmall hpos hb]
    simp only [toBytes_uint8, List.length_singleton]
    rw [readPrimitiveContainer_reads c d (by simpa using hlen) buff (pos + 1) oor hsmall
      (by simp only [List.length_cons] at hle; omega) (prefix_drop_append (a := [b]) hpre)]
    simp only [List.length_cons, Nat.add_assoc, Nat.add_comm 1]

/-- A list has no more elements than its encoding has bytes, when no element's encoding is empty. -/
theorem length_le_flatten {E : β → Buffer} (hE : ∀ x, E x ≠ []) :
    ∀ xs : List β, xs.length ≤ (xs.map E).flatten.length
  | [] => Nat.le_refl 0
  | x :: xs => by
    have := List.length_pos.mpr (hE x)
    simp only [List.length_cons, List.map_cons, List.flatten_cons, List.length_append]
    have := length_le_flatten hE xs
    omega

/-- A `uint32_t` count, then that many elements, then the rest of a block: the count is taken back
as the number of elements, which is below `2 ^ 32` in any buffer that holds them. -/
theorem Reads.count {read : StateM BuffReader β} {k : List β → StateM BuffReader γ}
    {enc : β → Buffer} {xs : List β} {c : γ} {cs : Buffer} (hxs : ∀ x ∈ xs, Reads read x (enc x))
    (henc : ∀ x, enc x ≠ []) (hk : Reads (k xs) c cs) :
    Reads (readPrimitive UInt32 >>= fun total => readN read total.toNat >>= k) c
      (toBytes (UInt32.ofNat xs.length) ++ ((xs.map enc).flatten ++ cs)) := by
  refine Reads.of_small fun h => ?_
  have hlen : (UInt32.ofNat xs.length).toNat = xs.length := by
    have := length_le_flatten henc xs
    simp only [List.length_append] at h
    show xs.length % 2 ^ 32 = _
    omega
  refine (readPrimitive_reads _).seq ?_
  show Reads (readN read (UInt32.ofNat xs.length).toNat >>= k) c _
  rw [hlen]
  exact (readN_reads xs hxs).seq hk

end OwlCommon
