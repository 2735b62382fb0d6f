import OwlCommon.GrailTypes
import Mathlib.Data.Nat.Digits

/-!
# Text of identifiers

`sample_data.cpp` writes a `uint128_t` to a stream with its print operator: `"0x"`, then `upper`
and `lower` in `std::hex`, and the stream set back to `std::dec`. On a stream with the default
format flags `std::hex` writes a `uint64_t` as its lowercase hexadecimal numeral with no leading
zeros, which is `Nat.toDigits 16`. The text is a hexadecimal numeral, but not always of the value:
`lower` is not padded to sixteen digits, so the numeral stands for `upper * 16 ^ k + lower`, with
`k` the number of digits of `lower`, and that is the value `upper * 2 ^ 64 + lower` exactly when
`upper` is zero or `lower` has all sixteen digits (`print_value`). `to_string` and
`to_u16string` write `lower` in decimal and nothing of `upper`, so they name two values alike
exactly when their lower halves agree (`toU16string_eq_iff`). The transmitter's print operator
writes the layer in decimal, a dot and the id.

A numeral is read back by `numeralValue`, the value of its digits in a base; `toDigits_spec` says
what `Nat.toDigits` writes in any base up to sixteen.
-/

namespace OwlCommon

/-- The value of a digit character as `Nat.digitChar` writes it: `'0'`..`'9'`, then `'a'` on. -/
def digitValue (c : Char) : Nat :=
  if c.toNat < 58 then c.toNat - 48 else c.toNat - 87

/-- The number a numeral in base `base` stands for, most significant digit first. -/
def numeralValue (base : Nat) (cs : List Char) : Nat :=
  cs.foldl (fun acc c => acc * base + digitValue c) 0

/-- A digit below sixteen is read back as itself. -/
theorem digitValue_digitChar : ∀ d, d < 16 → digitValue (Nat.digitChar d) = d := by decide

/-- Reading a numeral after `acc` shifts `acc` by the numeral's digits and adds its value. -/
theorem foldl_numeral (base : Nat) : ∀ (cs : List Char) (acc : Nat),
    cs.foldl (fun acc c => acc * base + digitValue c) acc = acc * base ^ cs.length + numeralValue base cs
  | [], acc => by simp [numeralValue]
  | c :: cs, acc => by
    rw [numeralValue, List.foldl_cons, List.foldl_cons, foldl_numeral base cs, foldl_numeral base cs,
      List.length_cons, Nat.pow_succ']
    simp only [Nat.zero_mul, Nat.zero_add, Nat.add_mul, Nat.mul_assoc, Nat.add_assoc]

/-- A numeral's value: the first part's, shifted by the second's digits, plus the second's. -/
theorem numeralValue_append (base : Nat) (cs ds : List Char) :
    numeralValue base (cs ++ ds) = numeralValue base cs * base ^ ds.length + numeralValue base ds := by
  rw [numeralValue, List.foldl_append, foldl_numeral]
  rfl

/-- A numeral of one digit is worth that digit. -/
theorem numeralValue_digitChar {base d : Nat} (hd : d < 16) :
    numeralValue base [Nat.digitChar d] = d := by
  simp only [numeralValue, List.foldl_cons, List.foldl_nil, Nat.zero_mul, Nat.zero_add,
    digitValue_digitChar d hd]

section Numeral

variable {base : Nat} (hb : 2 ≤ base) (hb16 : base ≤ 16)

include hb hb16 in

/-- `Nat.toDigitsCore` with more fuel than its number puts that number's numeral before the
digits it was given: digits below the base, as many as the number needs and no more. -/
theorem toDigitsCore_spec : ∀ (fuel n : Nat) (ds : List Char), n < fuel →
    ∃ cs, Nat.toDigitsCore base fuel n ds = cs ++ ds ∧ numeralValue base cs = n ∧
      (∀ c ∈ cs, ∃ d < base, c = Nat.digitChar d) ∧ n < base ^ cs.length ∧
      (cs.length = 1 ∨ base ^ (cs.length - 1) ≤ n)
  | 0, n, _, h => absurd h (Nat.not_lt_zero n)
  | fuel + 1, n, ds, h => by
    have hmod : n % base < base := Nat.mod_lt n (by omega)
    have hlast : ∀ c ∈ [Nat.digitChar (n % base)], ∃ d < base, c = Nat.digitChar d :=
      fun c hc => ⟨n % base, hmod, List.mem_singleton.mp hc⟩
    rw [Nat.toDigitsCore]
    by_cases hq : n / base = 0
    · rw [if_pos hq]
      have hn : n < base := by rwa [Nat.div_eq_zero_iff (by omega)] at hq
      refine ⟨[Nat.digitChar (n % base)], rfl, ?_, hlast, by simpa using hn, .inl rfl⟩
      rw [numeralValue_digitChar (by omega)]
      exact Nat.mod_eq_of_lt hn
    · rw [if_neg hq]
      have hbn : base ≤ n := Nat.le_of_not_lt fun hn => hq (Nat.div_eq_of_lt hn)
      have hlt : n / base < fuel := by
        have := Nat.div_lt_self (n := n) (by omega) (by omega : 1 < base)
        omega
      obtain ⟨cs, heq, hval, hdigits, hup, hlow⟩ := toDigitsCore_spec fuel (n / base)
        (Nat.digitChar (n % base) :: ds) hlt
      have hpos : 0 < cs.length := Nat.pos_of_ne_zero fun h0 => by
        rw [h0, Nat.pow_zero] at hup
        omega
      refine ⟨cs ++ [Nat.digitChar (n % base)], by rw [heq, List.append_assoc]; rfl, ?_,
        fun c hc => (List.mem_append.mp hc).elim (hdigits c) (hlast c), ?_, .inr ?_⟩
      · rw [numeralValue_append, hval, numeralValue_digitChar (by omega), List.length_singleton,
          Nat.pow_one]
        exact Nat.div_add_mod' n base
      · rw [List.length_append, List.length_singleton, Nat.pow_succ]
        exact (Nat.div_lt_iff_lt_mul (by omega)).mp hup
      · rw [List.length_append, List.length_singleton, Nat.add_sub_cancel]
        have hle : base ^ cs.length ≤ n / base * base := by
          rcases hlow with h1 | h1
          · rw [h1, Nat.pow_one]
            exact Nat.le_mul_of_pos_left base (Nat.pos_of_ne_zero hq)
          · calc base ^ cs.length = base ^ (cs.length - 1) * base := by
                  rw [← Nat.pow_succ, Nat.succ_eq_add_one, Nat.sub_add_cancel hpos]
              _ ≤ n / base * base := Nat.mul_le_mul_right base h1
        exact Nat.le_trans hle (Nat.div_mul_le_self n base)

include hb hb16 in

/-- `Nat.toDigits base n` is a numeral of `n`: digits below the base, as many as `n` needs. -/
theorem toDigits_spec (n : Nat) :
    numeralValue base (Nat.toDigits base n) = n ∧
      (∀ c ∈ Nat.toDigits base n, ∃ d < base, c = Nat.digitChar d) ∧
      n < base ^ (Nat.toDigits base n).length ∧
      ((Nat.toDigits base n).length = 1 ∨ base ^ ((Nat.toDigits base n).length - 1) ≤ n) := by
  obtain ⟨cs, heq, h⟩ := toDigitsCore_spec hb hb16 (n + 1) n [] (Nat.lt_succ_self n)
  rw [Nat.toDigits, heq, List.append_nil]
  exact h

end Numeral

/-- `std::hex` output of a `uint64_t`: its lowercase hexadecimal numeral. -/
def hexText (x : UInt64) : List Char := Nat.toDigits 16 x.toNat

/-- A `uint64_t` takes all sixteen hexadecimal digits exactly when it is at least `2 ^ 60`. -/
theorem length_hexText_eq_sixteen (x : UInt64) : (hexText x).length = 16 ↔ 2 ^ 60 ≤ x.toNat := by
  obtain ⟨-, -, hup, hlow⟩ := toDigits_spec (by decide : 2 ≤ 16) (le_refl 16) x.toNat
  have hx : x.toNat < 16 ^ 16 := x.toNat_lt_size
  have h60 : (2 : Nat) ^ 60 = 16 ^ 15 := rfl
  rw [← hexText, h60] at *
  constructor
  · intro hk
    rw [hk] at hlow
    exact hlow.resolve_left (by decide)
  · intro h
    have hge : 16 ≤ (hexText x).length := Nat.le_of_not_lt fun hk =>
      absurd (Nat.lt_of_lt_of_le hup (Nat.pow_le_pow_right (by decide) (by omega)))
        (Nat.not_lt.mpr h)
    refine Nat.le_antisymm (Nat.le_of_not_lt fun hk => ?_) hge
    have h16 := hlow.resolve_right (Nat.not_le.mpr
      (Nat.lt_of_lt_of_le hx (Nat.pow_le_pow_right (by decide) (by omega))))
    omega

namespace UInt128

/-- The print operator `operator<<(std::ostream&, const uint128_t&)`, on a stream with the default
format flags: `"0x"`, then `upper` and `lower` in `std::hex`. -/
def print (val : UInt128) : List Char := ['0', 'x'] ++ hexText val.upper ++ hexText val.lower

/-- `to_string(uint128_t)`: `std::to_string(val.lower)`, the decimal numeral of `lower`. -/
def toString (val : UInt128) : List Char := Nat.toDigits 10 val.lower.toNat

/-- `to_u16string(uint128_t)`: each character of `to_string` as a UTF-16 code unit. -/
def toU16string (val : UInt128) : U16String := (toString val).map fun c => c.toNat.toUInt16

/-- The print operator writes `"0x"` and a lowercase hexadecimal numeral, of `upper * 16 ^ k +
lower` with `k` the number of digits of `lower`; the numeral stands for the value exactly when
`upper` is zero or `lower` is at least `2 ^ 60`. -/
theorem print_value (val : UInt128) :
    ∃ digits, val.print = '0' :: 'x' :: digits ∧ (∀ c ∈ digits, c.isDigit ∨ 'a' ≤ c ∧ c ≤ 'f') ∧
      numeralValue 16 digits = val.upper.toNat * 16 ^ (hexText val.lower).length + val.lower.toNat ∧
      (numeralValue 16 digits = val.val ↔ val.upper = 0 ∨ 2 ^ 60 ≤ val.lower.toNat) := by
  obtain ⟨hu, hud, -⟩ := toDigits_spec (by decide : 2 ≤ 16) (le_refl 16) val.upper.toNat
  obtain ⟨hl, hld, -⟩ := toDigits_spec (by decide : 2 ≤ 16) (le_refl 16) val.lower.toNat
  have hhex : ∀ d, d < 16 → (Nat.digitChar d).isDigit ∨ 'a' ≤ Nat.digitChar d ∧ Nat.digitChar d ≤ 'f' := by
    decide
  have hvalue : numeralValue 16 (hexText val.upper ++ hexText val.lower) =
      val.upper.toNat * 16 ^ (hexText val.lower).length + val.lower.toNat := by
    rw [numeralValue_append, hexText, hexText, hu, hl]
  refine ⟨hexText val.upper ++ hexText val.lower, rfl, fun c hc => ?_, hvalue, ?_⟩
  · obtain ⟨d, hd, rfl⟩ := (List.mem_append.mp hc).elim (hud c) (hld c)
    exact hhex d hd
  · have hpow : (16 : Nat) ^ (hexText val.lower).length = 2 ^ 64 ↔ (hexText val.lower).length = 16 :=
      ⟨fun h => Nat.pow_right_injective (by decide : 2 ≤ 16) (h.trans (by rfl : (2 : Nat) ^ 64 = 16 ^ 16)),
        fun h => by rw [h]; rfl⟩
    rw [hvalue, UInt128.val, Nat.add_right_cancel_iff, ← length_hexText_eq_sixteen, ← hpow,
      word_eq_iff, UInt64.toNat_zero]
    rcases Nat.eq_zero_or_pos val.upper.toNat with h0 | h0
    · simp [h0]
    · rw [Nat.mul_left_cancel_iff h0]
      exact ⟨Or.inr, fun h => h.resolve_left (Nat.pos_iff_ne_zero.mp h0)⟩

/-- `to_u16string` gives two values the same string exactly when their lower halves are equal,
whatever their upper halves. -/
theorem toU16string_eq_iff (a b : UInt128) : a.toU16string = b.toU16string ↔ a.lower = b.lower := by
  have hback : ∀ d, d < 10 →
      Char.ofNat (Nat.digitChar d).toNat.toUInt16.toNat = Nat.digitChar d := by decide
  have hdec : ∀ x : UInt128, (x.toU16string.map fun u => Char.ofNat u.toNat) = x.toString := by
    intro x
    obtain ⟨-, hd, -⟩ := toDigits_spec (by decide : 2 ≤ 10) (by decide : 10 ≤ 16) x.lower.toNat
    rw [toU16string, List.map_map]
    refine (List.map_congr_left fun c hc => ?_).trans (List.map_id _)
    obtain ⟨d, hd10, rfl⟩ := hd c hc
    exact hback d hd10
  constructor
  · intro h
    have hs : a.toString = b.toString := by rw [← hdec a, ← hdec b, h]
    have hv := congrArg (numeralValue 10) hs
    rw [toString, toString, (toDigits_spec (by decide : 2 ≤ 10) (by decide : 10 ≤ 16) _).1,
      (toDigits_spec (by decide : 2 ≤ 10) (by decide : 10 ≤ 16) _).1] at hv
    exact word_eq_iff.mpr hv
  · intro h
    rw [toU16string, toU16string, toString, toString, h]

end UInt128

/-- The print operator `grail_types::operator<<` on a transmitter, on a stream with the default
format flags: the layer as an `unsigned int` in decimal, a dot, and the id. -/
def GrailTypes.Transmitter.print (t : GrailTypes.Transmitter) : List Char :=
  Nat.toDigits 10 t.phy.toNat ++ '.' :: t.id.print

end OwlCommon
