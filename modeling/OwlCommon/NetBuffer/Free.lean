import OwlCommon.NetBuffer.BuffReader

/-!
# The free reading functions

Beside `BuffReader`, `netbuffer.{hpp,cpp}` has free functions that read at an index of a buffer:
`readPrimitive<T>(buff, index)`, `readUTF16(buff, start, size)` and
`readSizedUTF16(buff, start)`. They live here in the namespace `NetBuffer`, apart from the
reader's methods of the same names. Their index arithmetic is `size_t`, taken modulo `2 ^ 64`;
the `int start` of `readSizedUTF16` is modelled for starts in `[0, 2 ^ 31 - 4)`, where neither
its conversion to `size_t` nor `start += sizeof(size)` changes its value.

`readUTF16` takes `size` as a number of characters in its first test
(`buff.size() - start < size * sizeof(char16_t)`) and as a number of bytes in its loop guard
(`index * sizeof(char16_t) < size`), so it returns the first `⌈size / 2⌉` units of the string at
`start` (`readUTF16_eq`, `readSizedUTF16_eq`), where `BuffReader::readUTF16(size)` returns
`size` of them.
-/

namespace OwlCommon.NetBuffer

open Wire

/-- The free `readPrimitive<T>(buff, index)`: the value of the `sizeof(T)` bytes at `index` when
`index + (sizeof(T) - 1) < buff.size()`, and `(T)0` otherwise. -/
def readPrimitive (α : Type) [Wire α] (buff : Buffer) (index : Nat) : α :=
  if index + (width α - 1) < buff.length then ofBytes ((buff.drop index).take (width α)) else zero

/-- `a - b` in `size_t`. -/
def sizeSub (a b : Nat) : Nat := (a + 2 ^ 64 - b) % 2 ^ 64

/-- The loop of the free `readUTF16` from `index` on:
`for (; index*sizeof(char16_t) < size and start + index*sizeof(char16_t) <= buff.size(); ++index)`.
-/
def readUTF16Loop (buff : Buffer) (start size index : Nat) : U16String :=
  if index * 2 < size ∧ (start + index * 2) % 2 ^ 64 ≤ buff.length then
    readPrimitive UInt16 buff ((start + index * 2) % 2 ^ 64) :: readUTF16Loop buff start size (index + 1)
  else []
termination_by size - index

/-- The free `readUTF16(buff, start, size)`: empty when fewer than `size * sizeof(char16_t)` bytes
follow `start`, and the loop otherwise. -/
def readUTF16 (buff : Buffer) (start size : Nat) : U16String :=
  if sizeSub buff.length start < size * 2 % 2 ^ 64 then [] else readUTF16Loop buff start size 0

/-- The free `readSizedUTF16(buff, start)`: a `uint32_t` byte length at `start`, halved, then
`readUTF16` four bytes on. -/
def readSizedUTF16 (buff : Buffer) (start : Nat) : U16String :=
  let size := (readPrimitive UInt32 buff start).toNat / 2
  readUTF16 buff (start + 4) size

/-- At a position below `2 ^ 32` whose cursor and iterator agree, `BuffReader::readPrimitive<T>()`
returns what the free `readPrimitive<T>(buff, pos)` returns: both check that the `sizeof(T)` bytes
at `pos` are in the buffer. -/
theorem readPrimitive_atPos_fst {α : Type} [Wire α] {buff : Buffer} {pos : Nat} {oor : Bool}
    (hpos : pos < 2 ^ 32) (hw : 0 < width α) :
    ((BuffReader.atPos buff pos oor).readPrimitive α).1 = readPrimitive α buff pos := by
  rw [BuffReader.readPrimitive_atPos hpos, readPrimitive]
  by_cases h : pos + width α ≤ buff.length
  · rw [if_pos h, if_pos (by omega)]
  · rw [if_neg h, if_neg (by omega)]

/-! ## What they read from encoded values -/

/-- The free `readPrimitive` takes back a value from its bytes. -/
theorem readPrimitive_toBytes {α : Type} [Wire α] (hw : 0 < width α) (p : Buffer) (a : α)
    (q : Buffer) : readPrimitive α (p ++ toBytes a ++ q) p.length = a := by
  rw [readPrimitive, if_pos (by simp only [List.length_append, length_toBytes]; omega),
    List.append_assoc, List.drop_left, List.take_left' (length_toBytes a), ofBytes_toBytes]

/-- Dropping `i` code units of a string drops `2 * i` of its bytes. -/
theorem drop_utf16Bytes (s : U16String) : ∀ i, (utf16Bytes s).drop (2 * i) = utf16Bytes (s.drop i) := by
  induction s with
  | nil => simp
  | cons c cs ih =>
    intro i
    cases i with
    | zero => rfl
    | succ i =>
      rw [utf16Bytes_cons, show 2 * (i + 1) = 2 + 2 * i by omega, ← List.drop_drop,
        List.drop_left' (by simp), ih, List.drop_succ_cons]

/-- Unit `i` of a string, read by the free `readPrimitive` at its offset. -/
theorem readPrimitive_utf16Bytes (p : Buffer) (s : U16String) (q : Buffer) {i : Nat}
    (hi : i < s.length) : readPrimitive UInt16 (p ++ utf16Bytes s ++ q) (p.length + i * 2) = s[i] := by
  have hdrop : (p ++ utf16Bytes s ++ q).drop (p.length + i * 2) =
      toBytes s[i] ++ (utf16Bytes (s.drop (i + 1)) ++ q) := by
    rw [List.append_assoc, ← List.drop_drop, List.drop_left, Nat.mul_comm,
      List.drop_append_of_le_length (by simp only [length_utf16Bytes]; omega), drop_utf16Bytes,
      List.drop_eq_getElem_cons hi, utf16Bytes_cons, List.append_assoc]
  rw [readPrimitive, if_pos (by simp only [width_uint16, List.length_append, length_utf16Bytes]; omega),
    hdrop, List.take_left' (length_toBytes _), ofBytes_toBytes]

/-- The loop, over a string `s` that stands at `start`, reads its units from `index` until
`index * 2` reaches `s.length`. -/
theorem readUTF16Loop_eq (p : Buffer) (s : U16String) (q : Buffer)
    (hsmall : (p ++ utf16Bytes s ++ q).length < 2 ^ 64) :
    ∀ n i, (s.length + 1) / 2 - i = n →
      readUTF16Loop (p ++ utf16Bytes s ++ q) p.length s.length i = (s.drop i).take n
  | 0, i, hn => by
    rw [readUTF16Loop, if_neg (by omega), List.take_zero]
  | n + 1, i, hn => by
    have hi : i < s.length := by omega
    have hlen : (p ++ utf16Bytes s ++ q).length = p.length + 2 * s.length + q.length := by
      simp only [List.length_append, length_utf16Bytes]
    have hpos : (p.length + i * 2) % 2 ^ 64 = p.length + i * 2 := Nat.mod_eq_of_lt (by omega)
    rw [readUTF16Loop, if_pos ⟨by omega, by omega⟩, hpos, readPrimitive_utf16Bytes p s q hi,
      readUTF16Loop_eq p s q hsmall n (i + 1) (by omega), List.drop_eq_getElem_cons hi,
      List.take_succ_cons]

/-- The free `readUTF16` at a string `s`, asked for `s.length` characters, returns its first
`⌈s.length / 2⌉` units. -/
theorem readUTF16_eq (p : Buffer) (s : U16String) (q : Buffer)
    (hsmall : (p ++ utf16Bytes s ++ q).length < 2 ^ 64) :
    readUTF16 (p ++ utf16Bytes s ++ q) p.length s.length = s.take ((s.length + 1) / 2) := by
  have hlen : (p ++ utf16Bytes s ++ q).length = p.length + 2 * s.length + q.length := by
    simp only [List.length_append, length_utf16Bytes]
  rw [readUTF16, if_neg (by rw [sizeSub]; omega), readUTF16Loop_eq p s q hsmall _ 0 rfl,
    List.drop_zero, Nat.sub_zero]

/-- The free `readSizedUTF16` at a sized string `s` returns its first `⌈s.length / 2⌉` units. -/
theorem readSizedUTF16_eq (p : Buffer) (s : U16String) (q : Buffer) (hs : s.length * 2 < 2 ^ 32)
    (hsmall : (p ++ (Push.sizedUTF16 s).bytes ++ q).length < 2 ^ 64) :
    readSizedUTF16 (p ++ (Push.sizedUTF16 s).bytes ++ q) p.length = s.take ((s.length + 1) / 2) := by
  have hsize : (UInt32.ofNat (s.length * 2)).toNat / 2 = s.length := by
    rw [show (UInt32.ofNat (s.length * 2)).toNat = s.length * 2 from Nat.mod_eq_of_lt hs]
    omega
  have hp : p ++ (Push.sizedUTF16 s).bytes ++ q =
      p ++ toBytes (UInt32.ofNat (s.length * 2)) ++ (utf16Bytes s ++ q) := by
    simp only [Push.bytes_sizedUTF16, List.append_assoc]
  have hp' : p ++ (Push.sizedUTF16 s).bytes ++ q =
      (p ++ toBytes (UInt32.ofNat (s.length * 2))) ++ utf16Bytes s ++ q := by
    simp only [Push.bytes_sizedUTF16, List.append_assoc]
  rw [readSizedUTF16, hp, readPrimitive_toBytes (by decide), hsize, ← hp, hp',
    show p.length + 4 = (p ++ toBytes (UInt32.ofNat (s.length * 2))).length by simp,
    readUTF16_eq _ s q (hp' ▸ hsmall)]

/-- The string `"ab"`, alone in its buffer: the free `readUTF16` asked for its two characters and
the free `readSizedUTF16` both return `"a"`, where `BuffReader::readUTF16(2)` and
`BuffReader::readSizedUTF16()` return `"ab"`. -/
theorem readUTF16_ab :
    readUTF16 (utf16Bytes [97, 98]) 0 2 = [97] ∧
      readSizedUTF16 (Push.sizedUTF16 [97, 98]).bytes 0 = [97] ∧
      ((BuffReader.init (utf16Bytes [97, 98])).readUTF16 2).1 = [97, 98] ∧
      (BuffReader.init (Push.sizedUTF16 [97, 98]).bytes).readSizedUTF16.1 = [97, 98] :=
  ⟨by simpa using readUTF16_eq [] [97, 98] [] (by decide),
    by simpa using readSizedUTF16_eq [] [97, 98] [] (by decide) (by decide), by decide, by decide⟩

end OwlCommon.NetBuffer
