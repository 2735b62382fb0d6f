import OwlCommon.NetBuffer.Free

/-!
# Byte order on the host

`pushBackVal` and both `readPrimitive` move a value through its bytes in memory. `pushBackVal`
takes the bytes of `val`, puts them in network order with `toNetworkEndian`, then appends them or
copies them over the buffer at an index; the reads copy bytes into a zeroed value and put them in
host order with `fromNetworkEndian`. Both conversions look at `sizeof(T)` alone and act only on a
little-endian host: they reverse two, four or eight bytes, reverse sixteen bytes as two halves of
eight, and leave any other size as it is.

A value's bytes in memory follow from its layout, the widths of the scalars it is stored as
(`Layout.scalars`: one for an arithmetic type or an enum, two of eight for the packed `uint128_t`),
each scalar most significant byte first on a big-endian host and last on a little-endian one
(`memBytes`). For every layout the switch handles (`Convertible`), a conversion is the passage
between a value's big-endian bytes and its bytes in memory (`toNetworkEndian_eq_inMemory`), on
either host. So the host's functions are the ones the codec is modelled with
(`pushBackVal_eq`, `pushBackValAt_eq`, `BuffReader.readPrimitive_eq`, `NetBuffer.readPrimitive_eq`),
and each wire type goes out as its big-endian bytes and comes back from them
(`wire_types_host_independent`, in `Messages.lean`, where every wire type is in scope).
-/

namespace OwlCommon

open Wire

/-- The byte order of the host. -/
inductive Endian
  /-- Least significant byte first, as on x86. -/
  | little
  /-- Most significant byte first, the network's order. -/
  | big
deriving DecidableEq, Repr

/-- A scalar's bytes in memory, from its big-endian bytes: as they are on a big-endian host,
reversed on a little-endian one. -/
def hostOrder : Endian → Buffer → Buffer
  | .big, bs => bs
  | .little, bs => bs.reverse

/-- `littleEndian()`: whether the first byte in memory of the `uint32_t` value `1` is `1`. -/
def littleEndian (e : Endian) : Bool := (hostOrder e (beBytes 4 1)).head? == some 1

/-- A little-endian host finds the byte `1` first. -/
@[simp] theorem littleEndian_little : littleEndian .little = true := rfl

/-- A big-endian host finds the byte `0` first. -/
@[simp] theorem littleEndian_big : littleEndian .big = false := rfl

/-- `*p = hton(*p)` for the `k`-byte word at offset `i`, on a little-endian host: its bytes
reversed. -/
def reverseAt (i k : Nat) (bs : Buffer) : Buffer :=
  bs.take i ++ ((bs.drop i).take k).reverse ++ bs.drop (i + k)

/-- `toNetworkEndian(in, size)` on the `size` bytes of a value: on a little-endian host, `htons`,
`htonl` or `htonll` of the whole for two, four or eight bytes, `htonll` of each half for sixteen,
and nothing for any other size. -/
def toNetworkEndian (e : Endian) (size : Nat) (bs : Buffer) : Buffer :=
  if littleEndian e then
    match size with
    | 2 => reverseAt 0 2 bs
    | 4 => reverseAt 0 4 bs
    | 8 => reverseAt 0 8 bs
    | 16 => reverseAt 8 8 (reverseAt 0 8 bs)
    | _ => bs
  else bs

/-- `fromNetworkEndian(in, size)`: the same switch with `ntohs`, `ntohl` and `ntohll`, which
reverse bytes as `htons`, `htonl` and `htonll` do. -/
def fromNetworkEndian (e : Endian) (size : Nat) (bs : Buffer) : Buffer := toNetworkEndian e size bs

/-- How a wire type is stored: the widths of its scalars, in memory order. -/
class Layout (α : Type) [Wire α] where
  /-- The widths of the scalars a value is stored as. -/
  scalars : List Nat

/-- The bytes in memory of a value whose big-endian bytes are `bs`, stored as scalars of the
widths `ws`: each scalar's bytes in host order. -/
def inMemory (e : Endian) : List Nat → Buffer → Buffer
  | [], bs => bs
  | w :: ws, bs => hostOrder e (bs.take w) ++ inMemory e ws (bs.drop w)

variable {α : Type} [Wire α] [Layout α]

/-- The bytes `(unsigned char*)&val` points to. -/
def memBytes (e : Endian) (val : α) : Buffer := inMemory e (Layout.scalars α) (toBytes val)

/-- The value whose bytes in memory are `bs`. -/
def ofMemBytes (e : Endian) (bs : Buffer) : α := ofBytes (inMemory e (Layout.scalars α) bs)

/-- The layouts `toNetworkEndian`'s switch converts: one scalar of one, two, four or eight bytes,
or two of eight. -/
def Convertible (ws : List Nat) (size : Nat) : Prop :=
  (ws = [size] ∧ (size = 1 ∨ size = 2 ∨ size = 4 ∨ size = 8)) ∨ (ws = [8, 8] ∧ size = 16)

/-- Whether a layout is convertible is decided. -/
instance (ws : List Nat) (size : Nat) : Decidable (Convertible ws size) :=
  inferInstanceAs (Decidable (_ ∨ _))

/-! ## The conversions are the passage to memory -/

/-- A word in host order has as many bytes as it had. -/
@[simp] theorem length_hostOrder (e : Endian) (bs : Buffer) : (hostOrder e bs).length = bs.length := by
  cases e <;> simp [hostOrder]

/-- Putting a word in host order twice gives it back. -/
theorem hostOrder_hostOrder (e : Endian) (bs : Buffer) : hostOrder e (hostOrder e bs) = bs := by
  cases e <;> simp [hostOrder]

/-- No bytes are no bytes in memory. -/
@[simp] theorem inMemory_nil_buffer (e : Endian) : ∀ ws, inMemory e ws [] = []
  | [] => rfl
  | w :: ws => by simp [inMemory, hostOrder, inMemory_nil_buffer e ws]; cases e <;> rfl

/-- On a big-endian host, memory holds the network bytes as they are. -/
theorem inMemory_big : ∀ (ws : List Nat) (bs : Buffer), inMemory .big ws bs = bs
  | [], _ => rfl
  | w :: ws, bs => by rw [inMemory, inMemory_big ws, hostOrder, List.take_append_drop]

/-- Bytes all equal are the same in memory on either host. -/
theorem inMemory_replicate (e : Endian) (b : UInt8) :
    ∀ (ws : List Nat) (n : Nat), inMemory e ws (List.replicate n b) = List.replicate n b
  | [], _ => rfl
  | w :: ws, n => by
    have hhost : ∀ m, hostOrder e (List.replicate m b) = List.replicate m b := by
      cases e <;> simp [hostOrder]
    rw [inMemory, List.take_replicate, List.drop_replicate, hhost, inMemory_replicate e b ws,
      List.append_replicate_replicate]
    congr 1
    show min w n + (n - w) = n
    omega

/-- Putting bytes in memory order twice gives them back. -/
theorem inMemory_inMemory (e : Endian) :
    ∀ (ws : List Nat) (bs : Buffer), inMemory e ws (inMemory e ws bs) = bs
  | [], _ => rfl
  | w :: ws, bs => by
    simp only [inMemory]
    by_cases hw : w ≤ bs.length
    · have hlen : (hostOrder e (bs.take w)).length = w := by
        rw [length_hostOrder, List.length_take]
        omega
      rw [List.take_left' hlen, List.drop_left' hlen, hostOrder_hostOrder, inMemory_inMemory e ws,
        List.take_append_drop]
    · have ht : bs.take w = bs := List.take_of_length_le (by omega)
      have hd : bs.drop w = [] := List.drop_eq_nil_of_le (by omega)
      have hlen : (hostOrder e bs).length = bs.length := length_hostOrder _ _
      rw [ht, hd, inMemory_nil_buffer, List.append_nil, List.take_of_length_le (by omega),
        List.drop_eq_nil_of_le (by omega), inMemory_nil_buffer, List.append_nil, hostOrder_hostOrder]

/-- One scalar of `w` bytes in memory on a little-endian host. -/
theorem inMemory_little_single (w : Nat) (bs : Buffer) :
    inMemory .little [w] bs = (bs.take w).reverse ++ bs.drop w := rfl

/-- Reversing the word at offset zero. -/
theorem reverseAt_zero (k : Nat) (bs : Buffer) : reverseAt 0 k bs = (bs.take k).reverse ++ bs.drop k := by
  simp only [reverseAt, List.take_zero, List.drop_zero, List.nil_append, Nat.zero_add]

/-- The sixteen-byte case: the first half reversed, then the second half reversed in place. -/
theorem reverseAt_halves (bs : Buffer) :
    reverseAt 8 8 ((bs.take 8).reverse ++ bs.drop 8) = inMemory .little [8, 8] bs := by
  show _ = (bs.take 8).reverse ++ (((bs.drop 8).take 8).reverse ++ (bs.drop 8).drop 8)
  simp only [reverseAt, List.append_assoc]
  by_cases hb : 8 ≤ bs.length
  · have h8 : (bs.take 8).reverse.length = 8 := by
      rw [List.length_reverse, List.length_take]
      omega
    rw [List.take_left' h8, ← List.drop_drop, List.drop_left' h8]
  · have hd : bs.drop 8 = [] := List.drop_eq_nil_of_le (by omega)
    have hr : (bs.take 8).reverse.length ≤ 8 := by
      rw [List.length_reverse]
      exact List.length_take_le _ _
    rw [hd, List.append_nil, List.take_of_length_le hr, List.drop_eq_nil_of_le hr,
      List.drop_eq_nil_of_le (by omega)]
    rfl

/-- For every layout its switch handles, `toNetworkEndian` is the passage from memory order to
big-endian order, which is its own inverse. -/
theorem toNetworkEndian_eq_inMemory {ws : List Nat} {size : Nat} (h : Convertible ws size)
    (e : Endian) (bs : Buffer) : toNetworkEndian e size bs = inMemory e ws bs := by
  cases e with
  | big => simp only [toNetworkEndian, littleEndian_big, inMemory_big]; rfl
  | little =>
    rcases h with ⟨rfl, rfl | rfl | rfl | rfl⟩ | ⟨rfl, rfl⟩
    · cases bs <;> rfl
    all_goals simp only [toNetworkEndian, littleEndian_little, if_true, reverseAt_zero,
      inMemory_little_single, reverseAt_halves]

/-! ## The layouts of the wire types -/

/-- `uint8_t`, one scalar of 1 byte. -/
instance : Layout UInt8 := ⟨[1]⟩

/-- `uint16_t`, one scalar of 2 bytes. -/
instance : Layout UInt16 := ⟨[2]⟩

/-- `uint32_t`, one scalar of 4 bytes. -/
instance : Layout UInt32 := ⟨[4]⟩

/-- `uint64_t`, one scalar of 8 bytes. -/
instance : Layout UInt64 := ⟨[8]⟩

/-- `int32_t`, one scalar of 4 bytes. -/
instance : Layout Int32 := ⟨[4]⟩

/-- `int64_t`, one scalar of 8 bytes. -/
instance : Layout Int64 := ⟨[8]⟩

/-- `float`, one scalar of 4 bytes. -/
instance : Layout Float32 := ⟨[4]⟩

/-- `uint128_t`, a packed struct of two `uint64_t`, `upper` first. -/
instance : Layout UInt128 := ⟨[8, 8]⟩

/-! ## The functions on a host -/

namespace Host

/-- `pushBackVal(val, buff)`: the bytes of `val` in memory, put in network order, appended one by
one; it returns `sizeof(T)`. -/
def pushBackVal (e : Endian) (val : α) (buff : Buffer) : Buffer × UInt32 :=
  (buff ++ toNetworkEndian e (width α) (memBytes e val), UInt32.ofNat (width α))

/-- `pushBackVal(val, buff, index)`: the same bytes copied over the buffer from `index` by
`std::copy`, whose writes past the end of the buffer are undefined (`none`). -/
def pushBackValAt (e : Endian) (val : α) (buff : Buffer) (index : Nat) : Option (Buffer × UInt32) :=
  if index + width α ≤ buff.length then
    some (buff.take index ++ toNetworkEndian e (width α) (memBytes e val) ++ buff.drop (index + width α),
      UInt32.ofNat (width α))
  else none

/-- `BuffReader::readPrimitive<T>()`: when the check passes, the `sizeof(T)` bytes at the iterator
copied into the value's memory and put in host order; otherwise `(T)0` and the flag. -/
def BuffReader.readPrimitive (e : Endian) (α : Type) [Wire α] [Layout α] (r : BuffReader) :
    α × BuffReader :=
  if r.cur_index.toNat + width α ≤ r.buff.length then
    (ofMemBytes e (fromNetworkEndian e (width α) ((r.buff.drop r.buff_i).take (width α))),
      { r with cur_index := r.cur_index + UInt32.ofNat (width α), buff_i := r.buff_i + width α })
  else (zero, { r with out_of_range := true })

/-- The free `readPrimitive<T>(buff, index)`: the memory of `(T)0`, overwritten by the bytes at
`index` when they are in the buffer, then put in host order in either case. -/
def NetBuffer.readPrimitive (e : Endian) (α : Type) [Wire α] [Layout α] (buff : Buffer)
    (index : Nat) : α :=
  let out := if index + (width α - 1) < buff.length then (buff.drop index).take (width α)
    else memBytes e (zero : α)
  ofMemBytes e (fromNetworkEndian e (width α) out)

end Host

/-! ## On either host, the codec's functions -/

section Convertible

variable (h : Convertible (Layout.scalars α) (width α)) (e : Endian)
include h

/-- `toNetworkEndian` turns a convertible value's memory into its network bytes. -/
theorem toNetworkEndian_memBytes (v : α) : toNetworkEndian e (width α) (memBytes e v) = toBytes v := by
  rw [toNetworkEndian_eq_inMemory h, memBytes, inMemory_inMemory]

/-- The value in memory after `fromNetworkEndian` is the one the network bytes encode. -/
theorem ofMemBytes_fromNetworkEndian (bs : Buffer) :
    (ofMemBytes e (fromNetworkEndian e (width α) bs) : α) = ofBytes bs := by
  rw [fromNetworkEndian, toNetworkEndian_eq_inMemory h, ofMemBytes, inMemory_inMemory]

/-- A convertible type has at least one byte. -/
theorem width_pos : 0 < width α := by
  rcases h with ⟨-, h1 | h1 | h1 | h1⟩ | ⟨-, h1⟩ <;> omega

/-- On either host, `pushBackVal` appends the value's network bytes and returns their number. -/
theorem Host.pushBackVal_eq (v : α) (buff : Buffer) :
    Host.pushBackVal e v buff = (buff ++ (OwlCommon.pushBackVal v).bytes, (OwlCommon.pushBackVal v).count) := by
  rw [Host.pushBackVal, toNetworkEndian_memBytes h, Push.bytes_pushBackVal]
  simp only [OwlCommon.pushBackVal, Push.count, length_toBytes]

/-- On either host, `pushBackVal(val, buff, index)` writes the value's network bytes at `index`. -/
theorem Host.pushBackValAt_eq (v : α) {buff : Buffer} {index : Nat} (hidx : index + width α ≤ buff.length) :
    Host.pushBackValAt e v buff index = some (OwlCommon.pushBackValAt v buff index, UInt32.ofNat (width α)) := by
  rw [Host.pushBackValAt, if_pos hidx, toNetworkEndian_memBytes h, OwlCommon.pushBackValAt]

/-- On either host, `BuffReader::readPrimitive` reads the value its network bytes encode. -/
theorem Host.BuffReader.readPrimitive_eq :
    Host.BuffReader.readPrimitive e α = OwlCommon.BuffReader.readPrimitive α := by
  funext r
  unfold Host.BuffReader.readPrimitive OwlCommon.BuffReader.readPrimitive
  rw [ofMemBytes_fromNetworkEndian h]

/-- On either host, the free `readPrimitive` reads the value its network bytes encode. -/
theorem Host.NetBuffer.readPrimitive_eq :
    Host.NetBuffer.readPrimitive e α = OwlCommon.NetBuffer.readPrimitive α := by
  funext buff index
  unfold Host.NetBuffer.readPrimitive OwlCommon.NetBuffer.readPrimitive
  dsimp only
  split
  · rw [ofMemBytes_fromNetworkEndian h]
  · rw [ofMemBytes_fromNetworkEndian h, memBytes, toBytes_zero, inMemory_replicate, ← toBytes_zero,
      ofBytes_toBytes]

end Convertible

/-- On either host, `pushBackVal` appends a value's big-endian bytes, `pushBackVal` at an index
writes them there, and both reads give the value back from them, wherever they stand. -/
def HostIndependent (α : Type) [Wire α] [Layout α] : Prop :=
  ∀ (e : Endian) (v : α),
    (∀ buff, Host.pushBackVal e v buff = (buff ++ toBytes v, UInt32.ofNat (width α))) ∧
    (∀ buff index, index + width α ≤ buff.length →
      Host.pushBackValAt e v buff index =
        some (buff.take index ++ toBytes v ++ buff.drop (index + width α), UInt32.ofNat (width α))) ∧
    (∀ pre post oor, (Host.BuffReader.readPrimitive e α
      (BuffReader.atPos (pre ++ toBytes v ++ post) pre.length oor)).1 = v) ∧
    (∀ pre post, Host.NetBuffer.readPrimitive e α (pre ++ toBytes v ++ post) pre.length = v)

/-- Every type whose layout the conversions handle moves as its big-endian bytes on either host. -/
theorem hostIndependent_of_convertible (h : Convertible (Layout.scalars α) (width α)) :
    HostIndependent α := by
  intro e v
  refine ⟨fun buff => ?_, fun buff index hidx => ?_, fun pre post oor => ?_, fun pre post => ?_⟩
  · rw [Host.pushBackVal_eq h, Push.bytes_pushBackVal]
    simp only [pushBackVal, Push.count, length_toBytes]
  · rw [Host.pushBackValAt_eq h e v hidx, pushBackValAt]
  · have hfit : pre.length + width α ≤ (pre ++ toBytes v ++ post).length := by
      simp only [List.length_append, length_toBytes]
      omega
    rw [Host.BuffReader.readPrimitive_eq h, BuffReader.readPrimitive_atPos_of_fits hfit,
      List.append_assoc, List.drop_left, List.take_left' (length_toBytes v), ofBytes_toBytes]
  · rw [Host.NetBuffer.readPrimitive_eq h, NetBuffer.readPrimitive_toBytes (width_pos h)]

end OwlCommon
