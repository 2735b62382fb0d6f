import OwlCommon.NetBuffer.Wire
import Mathlib.Data.Nat.Bitwise
import Mathlib.Order.RelClasses

/-!
# The operators of `uint128_t`

`sample_data.cpp` gives the 128-bit identifier three operators over its two 64-bit halves:
`operator==` and `operator&` half by half, and `operator<` on `upper`, then on `lower` when the
upper halves are equal. Each is the operator of the number the value stands for,
`upper * 2 ^ 64 + lower` (`val`): `lt_iff_val_lt`, `eq_iff_val_eq` and `val_and`. A relation that
compares injective natural-number keys is a strict total order (`isStrictTotalOrder_of_key`), so
`operator<` is one, and two values are incomparable under it exactly when `operator==` holds
(`incomparable_iff_eq`): what `std::map` and `std::set` ask of a key.
-/

namespace OwlCommon

/-- A relation that compares natural-number keys, no two values sharing a key, is a strict total
order. -/
theorem isStrictTotalOrder_of_key {α : Type} (key : α → Nat) (hkey : Function.Injective key) :
    IsStrictTotalOrder α (fun a b => key a < key b) where
  trichotomous a b := (Nat.lt_trichotomy (key a) (key b)).imp_right (Or.imp_left (@hkey a b))
  irrefl _ := Nat.lt_irrefl _
  trans _ _ _ := Nat.lt_trans

/-- Under an injective key, two values that neither precede the other are equal. -/
theorem incomparable_iff_of_key {α : Type} (key : α → Nat) (hkey : Function.Injective key)
    (a b : α) : (¬key a < key b ∧ ¬key b < key a) ↔ a = b :=
  ⟨fun h => hkey (by omega), fun h => by subst h; exact ⟨Nat.lt_irrefl _, Nat.lt_irrefl _⟩⟩

namespace UInt128

/-- The number a 128-bit value stands for, `upper * 2 ^ 64 + lower` (its `Wire.toNat`). -/
def val (x : UInt128) : Nat := x.upper.toNat * 2 ^ 64 + x.lower.toNat

/-- `operator==`: both halves equal. -/
def eq (a b : UInt128) : Bool := a.upper == b.upper && a.lower == b.lower

/-- `operator&`: the halves' bitwise and. -/
def and (a b : UInt128) : UInt128 := ⟨a.upper &&& b.upper, a.lower &&& b.lower⟩

/-- `operator<`: by the upper halves, and by the lower ones when the upper halves are equal. -/
def lt (a b : UInt128) : Bool := a.upper < b.upper || (a.upper == b.upper && a.lower < b.lower)

/-- A `uint128_t` stands for a number below `2 ^ 128`. -/
theorem val_lt (x : UInt128) : x.val < 2 ^ 128 := by
  have hu := x.upper.toNat_lt_size
  have hl := x.lower.toNat_lt_size
  simp only [val, UInt64.size] at hu hl ⊢
  omega

/-- Two 64-bit words are equal when their numbers are. -/
theorem word_eq_iff {a b : UInt64} : a = b ↔ a.toNat = b.toNat := ⟨congrArg _, UInt64.toNat.inj⟩

/-- Different values stand for different numbers. -/
theorem val_injective : Function.Injective val := by
  intro ⟨ua, la⟩ ⟨ub, lb⟩ h
  have hla := la.toNat_lt_size
  have hlb := lb.toNat_lt_size
  simp only [val, UInt64.size] at h hla hlb
  have hu : ua = ub := word_eq_iff.2 (by omega)
  have hl : la = lb := word_eq_iff.2 (by omega)
  rw [hu, hl]

/-- `operator<` compares the numbers the values stand for. -/
theorem lt_iff_val_lt {a b : UInt128} : a.lt b = true ↔ a.val < b.val := by
  have hla := a.lower.toNat_lt_size
  have hlb := b.lower.toNat_lt_size
  simp only [UInt64.size] at hla hlb
  simp only [lt, val, Bool.or_eq_true, Bool.and_eq_true, decide_eq_true_eq, beq_iff_eq, word_eq_iff]
  show a.upper.toNat < b.upper.toNat ∨ _ ∧ a.lower.toNat < b.lower.toNat ↔ _
  omega

/-- `operator==` is equality. -/
theorem eq_iff_eq {a b : UInt128} : a.eq b = true ↔ a = b := by
  obtain ⟨ua, la⟩ := a
  obtain ⟨ub, lb⟩ := b
  simp only [eq, Bool.and_eq_true, beq_iff_eq, UInt128.mk.injEq]

/-- `operator==` compares the numbers the values stand for. -/
theorem eq_iff_val_eq {a b : UInt128} : a.eq b = true ↔ a.val = b.val :=
  eq_iff_eq.trans val_injective.eq_iff.symm

/-- `operator&` is the bitwise and of the numbers. -/
theorem val_and (a b : UInt128) : (a.and b).val = a.val &&& b.val := by
  have hla : a.lower.toNat < 2 ^ 64 := a.lower.toNat_lt_size
  have hlb : b.lower.toNat < 2 ^ 64 := b.lower.toNat_lt_size
  have hl : a.lower.toNat &&& b.lower.toNat < 2 ^ 64 := Nat.and_lt_two_pow _ hlb
  apply Nat.eq_of_testBit_eq
  intro j
  simp only [val, and, UInt64.and_toNat, Nat.mul_comm _ (2 ^ 64),
    Nat.testBit_mul_pow_two_add _ hl, Nat.testBit_mul_pow_two_add _ hla,
    Nat.testBit_mul_pow_two_add _ hlb, Nat.testBit_and]
  split <;> rfl

/-- `operator<` compares the numbers the values stand for. -/
theorem isStrictTotalOrder_lt : IsStrictTotalOrder UInt128 (fun a b => a.lt b = true) := by
  simpa only [lt_iff_val_lt] using isStrictTotalOrder_of_key val val_injective

/-- Two values neither of which is below the other are `operator==`-equal. -/
theorem incomparable_iff_eq (a b : UInt128) : (¬a.lt b = true ∧ ¬b.lt a = true) ↔ a.eq b = true := by
  rw [lt_iff_val_lt, lt_iff_val_lt, eq_iff_eq]
  exact incomparable_iff_of_key val val_injective a b

end UInt128

end OwlCommon
