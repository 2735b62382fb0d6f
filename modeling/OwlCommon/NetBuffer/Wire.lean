import Mathlib.Data.Nat.Defs
import Mathlib.Algebra.Group.Nat.Basic

/-!
# Values on the wire

`netbuffer.hpp` moves every primitive value as its bytes in network order: `pushBackVal` appends
them, and `BuffReader::readPrimitive` and the free `readPrimitive` take them back. A value's wire
form is here the big-endian base-256 digits (`beBytes`) of the unsigned number its bits make
(`Wire.toNat`), and `beNat` reads such digits back. `beNat_beBytes` and `beBytes_beNat` say that
the two are inverse on `w` bytes, and `Wire.ofBytes_toBytes` and `Wire.toBytes_ofBytes` lift that
to every wire type at once.

The codec never interprets a value, so the signed integers and `float` are kept as their bits
(`Int32`, `Int64`, `Float32`), and `uint128_t` is the packed pair `UInt128`, upper half first.
-/

namespace OwlCommon

/-- `std::vector<unsigned char>`, the buffer type of the library. -/
abbrev Buffer := List UInt8

/-- `std::u16string`: a string of UTF-16 code units. -/
abbrev U16String := List UInt16

/-- The `w` big-endian base-256 digits of `n`, most significant first; what lies at or above
`256 ^ w` is dropped. -/
def beBytes : Nat → Nat → Buffer
  | 0, _ => []
  | w + 1, n => UInt8.ofNat (n / 256 ^ w) :: beBytes w n

/-- The number whose big-endian base-256 digits are `bs`. -/
def beNat : Buffer → Nat
  | [] => 0
  | b :: bs => b.toNat * 256 ^ bs.length + beNat bs

/-- `beBytes w n` has `w` bytes. -/
@[simp] theorem length_beBytes (w n : Nat) : (beBytes w n).length = w := by
  induction w <;> simp [beBytes, *]

/-- A byte built from a number is that number's lowest digit. -/
theorem toNat_ofNat_byte (n : Nat) : (UInt8.ofNat n).toNat = n % 256 := rfl

/-- The number that `k` big-endian digits spell is below `256 ^ k`. -/
theorem beNat_lt (bs : Buffer) : beNat bs < 256 ^ bs.length := by
  induction bs with
  | nil => simp [beNat]
  | cons b bs ih =>
    have hb : b.toNat * 256 ^ bs.length ≤ 255 * 256 ^ bs.length :=
      Nat.mul_le_mul_right _ (by have := b.toNat_lt_size; simp only [UInt8.size] at this; omega)
    simp only [beNat, List.length_cons, Nat.pow_succ]
    omega

/-- `beNat` reads back the digits `beBytes` writes. -/
theorem beNat_beBytes (w n : Nat) : beNat (beBytes w n) = n % 256 ^ w := by
  induction w with
  | zero => simp [beBytes, beNat, Nat.mod_one]
  | succ w ih =>
    simp only [beBytes, beNat, length_beBytes, ih, toNat_ofNat_byte, Nat.mod_pow_succ]
    rw [Nat.mul_comm, Nat.add_comm]

/-- `beBytes` sees its number only modulo `256 ^ w`. -/
theorem beBytes_mod (w n : Nat) : beBytes w (n % 256 ^ w) = beBytes w n := by
  induction w generalizing n with
  | zero => rfl
  | succ w ih =>
    have hdigit : n % 256 ^ (w + 1) / 256 ^ w % 256 = n / 256 ^ w % 256 := by
      rw [Nat.mod_pow_succ, Nat.add_mul_div_left _ _ (Nat.pos_pow_of_pos _ (by decide)),
        Nat.div_eq_of_lt (Nat.mod_lt _ (Nat.pos_pow_of_pos _ (by decide))), Nat.zero_add,
        Nat.mod_mod]
    have htail : n % 256 ^ (w + 1) % 256 ^ w = n % 256 ^ w :=
      Nat.mod_mod_of_dvd _ (Nat.pow_dvd_pow _ (Nat.le_succ w))
    simp only [beBytes]
    rw [← ih (n % 256 ^ (w + 1)), htail, ih]
    congr 1
    apply UInt8.toNat.inj
    rw [toNat_ofNat_byte, toNat_ofNat_byte, hdigit]

/-- Every byte string is the `beBytes` of its own number. -/
theorem beBytes_beNat (bs : Buffer) : beBytes bs.length (beNat bs) = bs := by
  induction bs with
  | nil => rfl
  | cons b bs ih =>
    have hlt := beNat_lt bs
    have hpos : 0 < 256 ^ bs.length := Nat.pos_pow_of_pos _ (by decide)
    have hhead : (b.toNat * 256 ^ bs.length + beNat bs) / 256 ^ bs.length = b.toNat := by
      rw [Nat.add_comm, Nat.add_mul_div_right _ _ hpos, Nat.div_eq_of_lt hlt, Nat.zero_add]
    have htail : (b.toNat * 256 ^ bs.length + beNat bs) % 256 ^ bs.length = beNat bs := by
      rw [Nat.mul_comm, Nat.mul_add_mod, Nat.mod_eq_of_lt hlt]
    simp only [beNat, List.length_cons, beBytes, hhead]
    rw [← beBytes_mod, htail, ih]
    congr 1
    exact UInt8.toNat.inj (UInt8.toNat_ofNat_of_lt b.toNat_lt_size)

/-- Splitting a number's digits: the high `a` digits, then the low `b`. -/
theorem beBytes_add (a b n : Nat) : beBytes (a + b) n = beBytes a (n / 256 ^ b) ++ beBytes b n := by
  induction a with
  | zero => simp [beBytes]
  | succ a ih =>
    rw [Nat.add_right_comm]
    simp only [beBytes, ih, List.cons_append, Nat.div_div_eq_div_mul, ← Nat.pow_add, Nat.add_comm b]

/-- A type that the codec moves as `width` big-endian bytes: `toNat` is the unsigned number that a
value's bits make, and `ofNat` the value whose bits are a number's low `width` bytes. -/
class Wire (α : Type) where
  /-- `sizeof(T)`. -/
  width : Nat
  /-- The value's bits, as an unsigned number. -/
  toNat : α → Nat
  /-- The value whose bits are the low `width` bytes of a number. -/
  ofNat : Nat → α
  toNat_lt : ∀ a, toNat a < 256 ^ width
  ofNat_toNat : ∀ a, ofNat (toNat a) = a
  toNat_ofNat : ∀ n, n < 256 ^ width → toNat (ofNat n) = n

namespace Wire

variable {α : Type} [Wire α]

/-- The bytes `pushBackVal` appends for `a`: its big-endian bytes, which is what
`toNetworkEndian` makes of its host representation. -/
def toBytes (a : α) : Buffer := beBytes (width α) (toNat a)

/-- The value `readPrimitive` assembles from `width` bytes of a buffer. -/
def ofBytes (bs : Buffer) : α := ofNat (beNat bs)

/-- `(T)0`, what a failed read returns. -/
def zero : α := ofNat 0

/-- A value goes out as `width` bytes. -/
@[simp] theorem length_toBytes (a : α) : (toBytes a).length = width α := length_beBytes _ _

/-- A value is read back from its own bytes. -/
@[simp] theorem ofBytes_toBytes (a : α) : ofBytes (toBytes a) = a := by
  rw [ofBytes, toBytes, beNat_beBytes, Nat.mod_eq_of_lt (toNat_lt a), ofNat_toNat]

/-- Bytes of the type's width are the bytes of the value read from them. -/
theorem toBytes_ofBytes {bs : Buffer} (h : bs.length = width α) : toBytes (ofBytes bs : α) = bs := by
  rw [toBytes, ofBytes, toNat_ofNat _ (h ▸ beNat_lt bs), ← h, beBytes_beNat]

/-- The value read from bytes of the type's width has the number they spell. -/
theorem toNat_ofBytes {bs : Buffer} (h : bs.length = width α) : toNat (ofBytes bs : α) = beNat bs :=
  toNat_ofNat _ (h ▸ beNat_lt bs)

/-- The bytes of `(T)0` are zeros. -/
theorem toBytes_zero : toBytes (zero : α) = List.replicate (width α) 0 := by
  have hzero : ∀ w, beBytes w 0 = List.replicate w 0 := by
    intro w
    induction w with
    | zero => rfl
    | succ w ih => rw [beBytes, Nat.zero_div, ih]; rfl
  rw [toBytes, zero, toNat_ofNat 0 (Nat.pos_pow_of_pos _ (by decide)), hzero]

/-- Two values with the same bytes are equal. -/
theorem toBytes_injective {a b : α} (h : toBytes a = toBytes b) : a = b := by
  rw [← ofBytes_toBytes a, h, ofBytes_toBytes]

end Wire

/-- `uint8_t`. -/
instance : Wire UInt8 where
  width := 1
  toNat := UInt8.toNat
  ofNat := UInt8.ofNat
  toNat_lt a := a.toNat_lt_size
  ofNat_toNat a := UInt8.toNat.inj (UInt8.toNat_ofNat_of_lt a.toNat_lt_size)
  toNat_ofNat _ h := UInt8.toNat_ofNat_of_lt h

/-- `char16_t`. -/
instance : Wire UInt16 where
  width := 2
  toNat := UInt16.toNat
  ofNat := UInt16.ofNat
  toNat_lt a := a.toNat_lt_size
  ofNat_toNat a := UInt16.toNat.inj (UInt16.toNat_ofNat_of_lt a.toNat_lt_size)
  toNat_ofNat _ h := UInt16.toNat_ofNat_of_lt h

/-- `uint32_t`. -/
instance : Wire UInt32 where
  width := 4
  toNat := UInt32.toNat
  ofNat := UInt32.ofNat
  toNat_lt a := a.toNat_lt_size
  ofNat_toNat a := UInt32.toNat.inj (UInt32.toNat_ofNat_of_lt a.toNat_lt_size)
  toNat_ofNat _ h := UInt32.toNat_ofNat_of_lt h

/-- `uint64_t`. -/
instance : Wire UInt64 where
  width := 8
  toNat := UInt64.toNat
  ofNat := UInt64.ofNat
  toNat_lt a := a.toNat_lt_size
  ofNat_toNat a := UInt64.toNat.inj (UInt64.toNat_ofNat_of_lt a.toNat_lt_size)
  toNat_ofNat _ h := UInt64.toNat_ofNat_of_lt h

/-- A `uint8_t` is one byte. -/
@[simp] theorem width_uint8 : Wire.width UInt8 = 1 := rfl

/-- A `char16_t` is two bytes. -/
@[simp] theorem width_uint16 : Wire.width UInt16 = 2 := rfl

/-- A `uint32_t` is four bytes. -/
@[simp] theorem width_uint32 : Wire.width UInt32 = 4 := rfl

/-- A `uint64_t` is eight bytes. -/
@[simp] theorem width_uint64 : Wire.width UInt64 = 8 := rfl

/-- `int32_t`, by its two's complement bits. -/
structure Int32 where
  /-- The bits of the value. -/
  bits : UInt32
deriving DecidableEq, Repr

/-- `int64_t` (`grail_time`, `Timestamp`), by its two's complement bits. -/
structure Int64 where
  /-- The bits of the value. -/
  bits : UInt64
deriving DecidableEq, Repr

/-- `float`, by the bits of its IEEE-754 single representation. -/
structure Float32 where
  /-- The bits of the value. -/
  bits : UInt32
deriving DecidableEq, Repr

/-- `int32_t`, moved as the bits of its two's complement. -/
instance : Wire Int32 where
  width := 4
  toNat x := x.bits.toNat
  ofNat n := ⟨UInt32.ofNat n⟩
  toNat_lt x := x.bits.toNat_lt_size
  ofNat_toNat x := congrArg Int32.mk (Wire.ofNat_toNat x.bits)
  toNat_ofNat _ h := UInt32.toNat_ofNat_of_lt h

/-- `int64_t`, moved as the bits of its two's complement. -/
instance : Wire Int64 where
  width := 8
  toNat x := x.bits.toNat
  ofNat n := ⟨UInt64.ofNat n⟩
  toNat_lt x := x.bits.toNat_lt_size
  ofNat_toNat x := congrArg Int64.mk (Wire.ofNat_toNat x.bits)
  toNat_ofNat _ h := UInt64.toNat_ofNat_of_lt h

/-- `float`, moved as its IEEE-754 bits. -/
instance : Wire Float32 where
  width := 4
  toNat x := x.bits.toNat
  ofNat n := ⟨UInt32.ofNat n⟩
  toNat_lt x := x.bits.toNat_lt_size
  ofNat_toNat x := congrArg Float32.mk (Wire.ofNat_toNat x.bits)
  toNat_ofNat _ h := UInt32.toNat_ofNat_of_lt h

/-- An `int32_t` is four bytes. -/
@[simp] theorem width_int32 : Wire.width Int32 = 4 := rfl

/-- An `int64_t` is eight bytes. -/
@[simp] theorem width_int64 : Wire.width Int64 = 8 := rfl

/-- A `float` is four bytes. -/
@[simp] theorem width_float32 : Wire.width Float32 = 4 := rfl

/-- `uint128_t`: a packed struct of two `uint64_t`, `upper` first. -/
structure UInt128 where
  /-- The high 64 bits. -/
  upper : UInt64
  /-- The low 64 bits. -/
  lower : UInt64
deriving DecidableEq, Repr

/-- A 64-bit word built from a number is the number modulo `2 ^ 64`. -/
theorem toNat_ofNat_word (n : Nat) : (UInt64.ofNat n).toNat = n % 2 ^ 64 := rfl

/-- `uint128_t`, as the number `upper * 2 ^ 64 + lower`. -/
instance : Wire UInt128 where
  width := 16
  toNat x := x.upper.toNat * 2 ^ 64 + x.lower.toNat
  ofNat n := ⟨UInt64.ofNat (n / 2 ^ 64), UInt64.ofNat n⟩
  toNat_lt x := by have := x.upper.toNat_lt_size; have := x.lower.toNat_lt_size; simp only [UInt64.size] at *; omega
  ofNat_toNat x := by
    obtain ⟨u, l⟩ := x
    have hu := u.toNat_lt_size
    have hl := l.toNat_lt_size
    simp only [UInt64.size] at hu hl
    show UInt128.mk _ _ = UInt128.mk u l
    congr 1 <;> apply UInt64.toNat.inj <;> simp only [toNat_ofNat_word] <;> omega
  toNat_ofNat n h := by simp only [toNat_ofNat_word]; omega

/-- A `uint128_t` is sixteen bytes. -/
@[simp] theorem width_uint128 : Wire.width UInt128 = 16 := rfl

/-- The bytes of a 128-bit value: those of `upper`, then those of `lower`. -/
theorem UInt128.toBytes_eq (x : UInt128) :
    Wire.toBytes x = Wire.toBytes x.upper ++ Wire.toBytes x.lower := by
  have hu := x.upper.toNat_lt_size
  have hl := x.lower.toNat_lt_size
  simp only [UInt64.size] at hu hl
  have hsplit := beBytes_add 8 8 (x.upper.toNat * 2 ^ 64 + x.lower.toNat)
  rw [← beBytes_mod 8 (x.upper.toNat * 2 ^ 64 + x.lower.toNat),
    show (x.upper.toNat * 2 ^ 64 + x.lower.toNat) / 256 ^ 8 = x.upper.toNat by omega,
    show (x.upper.toNat * 2 ^ 64 + x.lower.toNat) % 256 ^ 8 = x.lower.toNat by omega] at hsplit
  exact hsplit

end OwlCommon
