import OwlCommon.NetBuffer.Wire

/-!
# The encoders' pushes

Every encoder of the protocols reserves four bytes for the length, appends its fields one
`pushBack...` call at a time while adding what each call returns to a `uint32_t total_length`, and
ends with `pushBackVal(total_length, buff, 0)`. A `Push` is one such call, with the bytes it
appends (`Push.bytes`) and the count it returns (`Push.count`, in 32-bit arithmetic as in the
source); `finishMessage` is the shared shape of an encoder.

`Push.total_toNat` says that an encoder's `total_length` is the number of bytes after the reserved
four, modulo `2 ^ 32`, and `finishMessage_eq` that the finished message is those bytes behind
their 32-bit big-endian length.
-/

namespace OwlCommon

open Wire

/-- The bytes `pushBackUTF16` appends for a string: each code unit big-endian. -/
def utf16Bytes (str : U16String) : Buffer := (str.map toBytes).flatten

/-- A string goes out as two bytes a code unit. -/
@[simp] theorem length_utf16Bytes (str : U16String) : (utf16Bytes str).length = 2 * str.length := by
  induction str with
  | nil => rfl
  | cons c cs ih =>
    simp only [utf16Bytes, List.map_cons, List.flatten_cons, List.length_append, length_toBytes,
      List.length_cons] at ih ⊢
    rw [ih]
    show 2 + _ = _
    omega

/-- The empty string appends nothing. -/
@[simp] theorem utf16Bytes_nil : utf16Bytes [] = [] := rfl

/-- A string's bytes are its first code unit's, then the rest's. -/
theorem utf16Bytes_cons (c : UInt16) (cs : U16String) :
    utf16Bytes (c :: cs) = toBytes c ++ utf16Bytes cs := rfl

/-- How a decoder reads a flag's byte back: as `byte != 0`, or as `byte == 1`. -/
inductive FlagRead
  /-- `byte != 0`. -/
  | nonzero
  /-- `byte == 1`. -/
  | one
deriving DecidableEq, Repr

/-- The flag a decoder reads from a byte. -/
def FlagRead.test : FlagRead → UInt8 → Bool
  | .nonzero, byte => byte != 0
  | .one, byte => byte == 1

/-- Either reading gives back the flag an encoder wrote as one or zero. -/
@[simp] theorem FlagRead.test_flag_byte (read : FlagRead) (b : Bool) :
    read.test (if b then (1 : UInt8) else 0) = b := by
  cases read <;> cases b <;> rfl

/-- One `pushBack...` call of an encoder. -/
inductive Push
  /-- `pushBackVal(val, buff)` of a primitive value, by the bytes it appends. -/
  | val (bytes : Buffer)
  /-- `pushBackVal((uint8_t)(b ? 1 : 0), buff)`: a `bool` as the byte one or zero, which the
  message's decoder reads back with `read`. -/
  | flag (b : Bool) (read : FlagRead)
  /-- `pushBackUTF16(buff, str)`. -/
  | utf16 (str : U16String)
  /-- `pushBackSizedUTF16(buff, str)`. -/
  | sizedUTF16 (str : U16String)
  /-- `pushContainer(container, buff)` of a byte container. -/
  | container (data : Buffer)
  /-- `pushSizedContainer(container, buff)` of a byte container. -/
  | sizedContainer (data : Buffer)
deriving DecidableEq, Repr

/-- `pushBackVal(val, buff)`. -/
def pushBackVal {α : Type} [Wire α] (val : α) : Push := .val (toBytes val)

namespace Push

/-- The bytes a push appends. `pushBackSizedUTF16` writes `str.length() * sizeof(char16_t)` and
`pushSizedContainer` `container.size()`, both as `uint32_t`. -/
def bytes : Push → Buffer
  | val bs => bs
  | flag b _ => toBytes (if b then (1 : UInt8) else 0)
  | utf16 str => utf16Bytes str
  | sizedUTF16 str => toBytes (UInt32.ofNat (str.length * 2)) ++ utf16Bytes str
  | container data => data
  | sizedContainer data => toBytes (UInt32.ofNat data.length) ++ data

/-- What a push returns: the number of bytes it appended, summed in a `uint32_t`. -/
def count : Push → UInt32
  | val bs => UInt32.ofNat bs.length
  | flag _ _ => 1
  | utf16 str => UInt32.ofNat (2 * str.length)
  | sizedUTF16 str => 4 + UInt32.ofNat (2 * str.length)
  | container data => UInt32.ofNat data.length
  | sizedContainer data => 4 + UInt32.ofNat data.length

/-- The bytes a list of pushes appends. -/
def bytesOf (ps : List Push) : Buffer := (ps.map bytes).flatten

/-- `total_length` after a list of pushes, from `init`. -/
def total (init : UInt32) (ps : List Push) : UInt32 := ps.foldl (fun acc p => acc + p.count) init

/-- No push appends nothing. -/
@[simp] theorem bytesOf_nil : bytesOf [] = [] := rfl

/-- Pushes append the first push's bytes, then the rest's. -/
@[simp] theorem bytesOf_cons (p : Push) (ps : List Push) : bytesOf (p :: ps) = p.bytes ++ bytesOf ps := rfl

/-- Two runs of pushes append their bytes one after the other. -/
@[simp] theorem bytesOf_append (ps qs : List Push) : bytesOf (ps ++ qs) = bytesOf ps ++ bytesOf qs := by
  simp [bytesOf]

/-- `pushBackVal` appends the value's bytes. -/
@[simp] theorem bytes_pushBackVal {α : Type} [Wire α] (val : α) : (pushBackVal val).bytes = toBytes val :=
  rfl

/-- `pushContainer` appends the container's bytes. -/
@[simp] theorem bytes_container (data : Buffer) : (container data).bytes = data := rfl

/-- A flag appends the byte one or zero, however its decoder reads it. -/
@[simp] theorem bytes_flag (b : Bool) (read : FlagRead) :
    (flag b read).bytes = toBytes (if b then (1 : UInt8) else 0) := rfl

/-- `pushBackUTF16` appends the string's code units. -/
@[simp] theorem bytes_utf16 (str : U16String) : (utf16 str).bytes = utf16Bytes str := rfl

/-- `pushBackSizedUTF16` appends the byte length, then the code units. -/
@[simp] theorem bytes_sizedUTF16 (str : U16String) :
    (sizedUTF16 str).bytes = toBytes (UInt32.ofNat (str.length * 2)) ++ utf16Bytes str := rfl

/-- `pushSizedContainer` appends the byte length, then the bytes. -/
@[simp] theorem bytes_sizedContainer (data : Buffer) :
    (sizedContainer data).bytes = toBytes (UInt32.ofNat data.length) ++ data := rfl

/-- Pushes that start with a push of some bytes append some bytes. -/
theorem bytesOf_cons_ne_nil {p : Push} (hp : p.bytes ≠ []) (ps : List Push) : bytesOf (p :: ps) ≠ [] :=
  fun h => hp (List.append_eq_nil.mp (bytesOf_cons p ps ▸ h)).1

/-- A value of a type with some width appends some bytes. -/
theorem bytes_pushBackVal_ne_nil {α : Type} [Wire α] (hw : 0 < width α) (val : α) :
    (pushBackVal val).bytes ≠ [] :=
  List.ne_nil_of_length_pos (by rw [bytes_pushBackVal, length_toBytes]; exact hw)

/-- A sized string appends at least its length field. -/
theorem bytes_sizedUTF16_ne_nil (str : U16String) : (sizedUTF16 str).bytes ≠ [] :=
  List.ne_nil_of_length_pos (by
    rw [bytes_sizedUTF16, List.length_append, length_toBytes, width_uint32]
    omega)

/-- The pushes of a list of items append the bytes of each item's pushes in turn. -/
theorem bytesOf_flatten_map {β : Type} (E : β → List Push) (xs : List β) :
    bytesOf (xs.map E).flatten = (xs.map fun x => bytesOf (E x)).flatten := by
  induction xs with
  | nil => rfl
  | cons x xs ih => simp only [List.map_cons, List.flatten_cons, bytesOf_append, ih]

/-- `uint32_t` addition, on numbers. -/
theorem toNat_add_uint32 (a b : UInt32) : (a + b).toNat = (a.toNat + b.toNat) % 2 ^ 32 := by
  simp only [UInt32.toNat, UInt32.add_def, BitVec.toNat_add]

/-- A push returns the number of bytes it appends, modulo `2 ^ 32`. -/
theorem count_toNat (p : Push) : p.count.toNat = p.bytes.length % 2 ^ 32 := by
  cases p with
  | sizedUTF16 str =>
    rw [count, toNat_add_uint32]
    simp only [bytes, List.length_append, length_toBytes, width_uint32, length_utf16Bytes]
    show (4 + 2 * str.length % 2 ^ 32) % 2 ^ 32 = _
    omega
  | sizedContainer data =>
    rw [count, toNat_add_uint32]
    simp only [bytes, List.length_append, length_toBytes, width_uint32]
    show (4 + data.length % 2 ^ 32) % 2 ^ 32 = _
    omega
  | _ => simp only [count, bytes, length_utf16Bytes]; rfl

/-- `total_length` after some pushes is its start plus the bytes they appended, modulo `2 ^ 32`. -/
theorem total_toNat (init : UInt32) (ps : List Push) :
    (total init ps).toNat = (init.toNat + (bytesOf ps).length) % 2 ^ 32 := by
  induction ps generalizing init with
  | nil => simp [total, Nat.mod_eq_of_lt init.toNat_lt_size]
  | cons p ps ih =>
    simp only [total, List.foldl_cons] at ih ⊢
    rw [ih, toNat_add_uint32, count_toNat, bytesOf_cons, List.length_append]
    omega

end Push

/-- `pushBackVal(val, buff, index)`: writes the bytes of `val` over those at `index`. -/
def pushBackValAt {α : Type} [Wire α] (val : α) (buff : Buffer) (index : Nat) : Buffer :=
  buff.take index ++ toBytes val ++ buff.drop (index + width α)

/-- The shape of every encoder: four bytes reserved for the length, `start` appended with
`push_back`, then the pushes, while `total_length` starts at `init` and adds what each push returns;
last, `pushBackVal(total_length, buff, 0)`. -/
def finishMessage (init : UInt32) (start : Buffer) (ps : List Push) : Buffer :=
  pushBackValAt (Push.total init ps) (toBytes (0 : UInt32) ++ start ++ Push.bytesOf ps) 0

/-- A finished message is its bytes behind their `total_length`. -/
theorem finishMessage_eq (init : UInt32) (start : Buffer) (ps : List Push) :
    finishMessage init start ps = toBytes (Push.total init ps) ++ start ++ Push.bytesOf ps := by
  simp only [finishMessage, pushBackValAt, List.take_zero, List.nil_append, Nat.zero_add,
    List.append_assoc]
  rw [List.drop_left' (length_toBytes _)]

/-- When `total_length` starts at the number of bytes pushed after the length field, the length
field plus four is the message's length, modulo `2 ^ 32`. -/
theorem total_add_four (init : UInt32) (start : Buffer) (ps : List Push)
    (h : init.toNat = start.length) :
    Push.total init ps + 4 = UInt32.ofNat (finishMessage init start ps).length := by
  apply UInt32.toNat.inj
  rw [Push.toNat_add_uint32, Push.total_toNat, finishMessage_eq, h]
  simp only [List.length_append, length_toBytes, width_uint32]
  show _ % 2 ^ 32 = (4 + start.length + _) % 2 ^ 32
  change (_ % 2 ^ 32 + 4) % 2 ^ 32 = _
  omega

end OwlCommon
