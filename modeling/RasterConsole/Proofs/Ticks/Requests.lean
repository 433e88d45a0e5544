import RasterConsole.Ticks
import Mathlib.Algebra.Order.Field.Basic
import Mathlib.Algebra.Order.Field.Power
import Mathlib.Data.Rat.Cast.Defs
import Mathlib.Tactic.Linarith
import Mathlib.Tactic.NormNum
import Mathlib.Tactic.Positivity
import Mathlib.Tactic.Ring

/-!
# Ticks in floating point

A 64-bit pattern has a sign bit, an exponent field of eleven bits and a mantissa field of
fifty-two.  `Binary64.patternValue?` is the rational number that these fields stand for, by
the formula of the floating point standard, and `Binary64.value?` that of a number that has
been read; reading a pattern keeps its value (`value?_ofBits`).

A request in floating point is granted if its value is a natural number that fits into
64 bits, and then it stands for that number (`TickRequest.ticks_real_ofBits`).  There is one
pattern more: the number `2 ^ 64`, which is one too large, is taken for the largest count.
-/

namespace RasterConsole

namespace Binary64

/-! ### The value of a pattern -/

/-- The sign bit of a pattern. -/
def signBit (bits : UInt64) : Bool := bits.toBitVec.msb

/-- The exponent field of a pattern. -/
def exponentField (bits : UInt64) : BitVec 11 := bits.toBitVec.extractLsb' 52 11

/-- The mantissa field of a pattern. -/
def mantissaField (bits : UInt64) : BitVec 52 := bits.toBitVec.extractLsb' 0 52

/-- The part of a number that its mantissa counts, in units of `2 ^ (-52)`. -/
def fraction (bits : UInt64) : ℚ := (mantissaField bits).toNat / 2 ^ 52

/-- The factor that a sign stands for. -/
def signFactor (negative : Bool) : ℚ := if negative then -1 else 1

/-- The number that a pattern stands for.  A zero exponent marks the numbers without an
implicit one before the point; patterns with all ones for an exponent are no numbers. -/
def patternValue? (bits : UInt64) : Option ℚ :=
  if exponentField bits = BitVec.allOnes 11 then none
  else if exponentField bits = 0 then
    some (signFactor (signBit bits) * (fraction bits * 2 ^ (-1022 : ℤ)))
  else
    some (signFactor (signBit bits)
      * ((1 + fraction bits) * 2 ^ ((exponentField bits).toNat - 1023 : ℤ)))

/-- The rational number that has been read, if it is one. -/
def value? : Binary64 → Option ℚ
  | finite negative m q => some (signFactor negative * (m * 2 ^ q))
  | infinity _ | nan => none

theorem signBit_eq (bits : UInt64) :
  signBit bits = decide (0x8000000000000000 ≤ bits.toNat)
  := BitVec.msb_eq_decide _

theorem toNat_exponentField (bits : UInt64) :
  (exponentField bits).toNat = bits.toNat / 0x10000000000000 % 0x800
  := by
  rw [exponentField, BitVec.extractLsb'_toNat, Nat.shiftRight_eq_div_pow]
  rfl

theorem toNat_mantissaField (bits : UInt64) :
  (mantissaField bits).toNat = bits.toNat % 0x10000000000000
  := BitVec.extractLsb'_toNat 0 52 _

/-- A pattern is determined by its fields. -/
theorem pattern_ext {bits bits' : UInt64} (hsign : signBit bits = signBit bits')
    (hexponent : exponentField bits = exponentField bits')
    (hmantissa : mantissaField bits = mantissaField bits') :
  bits = bits'
  := by
  have hlt := bits.toNat_lt
  have hlt' := bits'.toNat_lt
  rw [signBit_eq, signBit_eq, decide_eq_decide] at hsign
  rw [← BitVec.toNat_inj, toNat_exponentField, toNat_exponentField] at hexponent
  rw [← BitVec.toNat_inj, toNat_mantissaField, toNat_mantissaField] at hmantissa
  rw [← UInt64.toNat_inj]
  omega

/-- A pattern is read by its fields. -/
theorem ofBits_eq (bits : UInt64) :
  ofBits bits =
    if exponentField bits = BitVec.allOnes 11 then
      if mantissaField bits = 0 then infinity (signBit bits) else nan
    else if exponentField bits = 0 then
      finite (signBit bits) (mantissaField bits).toNat (-1074)
    else
      finite (signBit bits) (2 ^ 52 + (mantissaField bits).toNat)
        ((exponentField bits).toNat - 1075)
  := by
  simp only [← BitVec.toNat_inj, toNat_exponentField, toNat_mantissaField, signBit_eq]
  rfl

/-- Counting in units of `2 ^ (-52)` is counting in whole units, fifty-two places lower. -/
theorem div_mul_zpow (x : ℚ) (e : ℤ) :
  x / 2 ^ 52 * 2 ^ (e + 52) = x * 2 ^ e
  := by
  rw [zpow_add₀ two_ne_zero]
  norm_num
  ring

/-- Reading a pattern keeps its value. -/
theorem value?_ofBits (bits : UInt64) :
  (ofBits bits).value? = patternValue? bits
  := by
  rw [ofBits_eq, patternValue?]
  split_ifs with hspecial hzero hsmall
  · rfl
  · rfl
  · rw [value?, ← div_mul_zpow]
    rfl
  · have hunits : ((2 ^ 52 + (mantissaField bits).toNat : ℕ) : ℚ) / 2 ^ 52
        = 1 + fraction bits := by
      rw [Nat.cast_add, add_div, fraction]
      norm_num
    have hplace : ((exponentField bits).toNat - 1075 + 52 : ℤ)
        = (exponentField bits).toNat - 1023 := by ring
    rw [value?, ← div_mul_zpow, hunits, hplace]

/-- A signed number is natural if it is without its sign, and if the sign says nothing. -/
theorem signFactor_mul_eq_iff (negative : Bool) {x : ℚ} (hx : 0 ≤ x) (n : ℕ) :
  signFactor negative * x = n ↔ x = n ∧ (negative = true → n = 0)
  := by
  cases negative with
  | false => simp [signFactor]
  | true =>
      have hn : (0 : ℚ) ≤ n := Nat.cast_nonneg n
      have hzero : (n : ℚ) = 0 ↔ n = 0 := Nat.cast_eq_zero
      simp only [signFactor, if_true, forall_const, ← hzero]
      constructor
      · intro h
        constructor
        · linarith
        · linarith
      · rintro ⟨hx, hn⟩
        linarith

/-! ### The one number that is too large -/

/-- The pattern of `2 ^ 64`. -/
def twoToThe64 : UInt64 := 0x43F0000000000000

theorem patternValue?_twoToThe64 :
  patternValue? twoToThe64 = some ((2 ^ 64 : ℕ) : ℚ)
  := by
  have hsign : signBit twoToThe64 = false := by decide
  have hexponent : (exponentField twoToThe64).toNat = 1087 := by decide
  have hmantissa : (mantissaField twoToThe64).toNat = 0 := by decide
  rw [patternValue?, if_neg (by decide), if_neg (by decide), hsign, fraction, hexponent,
    hmantissa]
  norm_num [signFactor]

theorem fraction_nonneg (bits : UInt64) :
  0 ≤ fraction bits
  := div_nonneg (Nat.cast_nonneg _) (by positivity)

theorem fraction_lt_one (bits : UInt64) :
  fraction bits < 1
  := by
  rw [fraction, div_lt_one (by positivity)]
  exact_mod_cast (mantissaField bits).isLt

/-- Without an implicit one a number is below one. -/
theorem fraction_mul_le_one (bits : UInt64) :
  fraction bits * 2 ^ (-1022 : ℤ) ≤ 1
  := by
  have hplace : (2 : ℚ) ^ (-1022 : ℤ) ≤ 1 := zpow_le_one_of_nonpos₀ one_le_two (by norm_num)
  apply mul_le_one₀ (fraction_lt_one bits).le (by positivity) hplace

/-- A number with one place before the point is a power of two only if it is one itself. -/
theorem place_unique {x : ℚ} {e n : ℤ} (hone : 1 ≤ x) (htwo : x < 2)
    (h : x * 2 ^ e = 2 ^ n) :
  e = n ∧ x = 1
  := by
  have hpos : (0 : ℚ) < 2 ^ e := by positivity
  have hle : e ≤ n := by
    rw [← zpow_le_zpow_iff_right₀ (one_lt_two : (1 : ℚ) < 2), ← h]
    apply le_mul_of_one_le_left hpos.le hone
  have hlt : n < e + 1 := by
    rw [← zpow_lt_zpow_iff_right₀ (one_lt_two : (1 : ℚ) < 2), ← h, zpow_add_one₀ two_ne_zero,
      mul_comm (2 ^ e)]
    apply mul_lt_mul_of_pos_right htwo hpos
  obtain rfl : e = n := by omega
  constructor
  · rfl
  · apply mul_right_cancel₀ hpos.ne' (h.trans (one_mul _).symm)

/-- No other pattern has the value `2 ^ 64`. -/
theorem patternValue?_eq_iff (bits : UInt64) :
  patternValue? bits = some ((2 ^ 64 : ℕ) : ℚ) ↔ bits = twoToThe64
  := by
  constructor
  · intro h
    have hnonneg := fraction_nonneg bits
    have hlt := fraction_lt_one bits
    unfold patternValue? at h
    split_ifs at h with hspecial hzero
    · rw [Option.some.injEq, signFactor_mul_eq_iff _ (by positivity)] at h
      obtain ⟨hvalue, -⟩ := h
      have hle := fraction_mul_le_one bits
      rw [hvalue] at hle
      norm_num at hle
    · rw [Option.some.injEq, signFactor_mul_eq_iff _ (by positivity)] at h
      obtain ⟨hvalue, hsign⟩ := h
      rw [Nat.cast_pow, Nat.cast_two, ← zpow_natCast] at hvalue
      obtain ⟨hplace, hone⟩ := place_unique (by linarith) (by linarith) hvalue
      apply pattern_ext
      · apply Bool.eq_false_of_not_eq_true
        intro htrue
        cases hsign htrue
      · apply BitVec.eq_of_toNat_eq
        change _ = 1087
        omega
      · have hmantissa : fraction bits = 0 := by linarith
        apply BitVec.eq_of_toNat_eq
        change _ = 0
        rw [fraction, div_eq_zero_iff, Nat.cast_eq_zero] at hmantissa
        apply hmantissa.resolve_right (by positivity)
  · rintro rfl
    apply patternValue?_twoToThe64

/-! ### Whole numbers -/

/-- A significand with an exponent is found to be the whole number that it is. -/
theorem whole?_eq_some_iff (m : Nat) (q : Int) (n : Nat) :
  whole? m q = some n ↔ (m * 2 ^ q : ℚ) = n
  := by
  cases q with
  | ofNat e =>
      rw [whole?, Option.some.injEq, Int.ofNat_eq_natCast, zpow_natCast]
      norm_cast
  | negSucc e =>
      have hpos : 0 < 2 ^ (e + 1) := Nat.two_pow_pos (e + 1)
      have hcast : (m * (2 ^ (e + 1))⁻¹ : ℚ) = n ↔ m = n * 2 ^ (e + 1) := by
        rw [← div_eq_mul_inv, div_eq_iff (by positivity)]
        norm_cast
      rw [whole?, zpow_negSucc, hcast]
      split_ifs with hdvd
      · rw [Option.some.injEq]
        apply Nat.div_eq_iff_eq_mul_left hpos (Nat.dvd_of_mod_eq_zero hdvd)
      · apply iff_of_false nofun
        rintro rfl
        apply hdvd (Nat.mul_mod_left n _)

/-- The numbers that have been read and are natural are the whole ones with a sign that says
nothing. -/
theorem value?_finite_eq_iff (negative : Bool) (m : Nat) (q : Int) (n : Nat) :
  (finite negative m q).value? = some (n : ℚ)
    ↔ whole? m q = some n ∧ (negative = true → n = 0)
  := by
  rw [value?, Option.some.injEq, signFactor_mul_eq_iff _ (by positivity), whole?_eq_some_iff]

/-- A number stands for ticks if it is natural and not larger than the limit, which is one
more than the largest count and stands for it. -/
theorem ticks?_eq_some_iff (x : Binary64) (n : Nat) :
  x.ticks? = some n
    ↔ ∃ k : ℕ, x.value? = some (k : ℚ) ∧ k ≤ maximumTicks + 1 ∧ min k maximumTicks = n
  := by
  cases x with
  | infinity _ | nan => simp [ticks?, value?]
  | finite negative m q =>
      simp only [value?_finite_eq_iff, ticks?]
      cases whole? m q with
      | none => simp
      | some k =>
          cases negative with
          | false => simp [Option.ite_none_right_eq_some]
          | true =>
              by_cases hk : k = 0
              · simp [hk]
              · simp [hk]

end Binary64

namespace TickRequest

open Binary64 (patternValue? ofBits twoToThe64)

/-- A request in floating point is granted or refused for what it is. -/
theorem ticks_real_eq_ok_iff (x : Binary64) (n : Nat) :
  (real x).ticks = .ok n ↔ x.ticks? = some n
  := by
  rw [ticks]
  cases x.ticks? with
  | none => simp
  | some k => simp

theorem ticks_real_of_ne_ok {x : Binary64} (h : ∀ n, (real x).ticks ≠ .ok n) :
  (real x).ticks = .error (.invalidTickRequest (.notWhole x))
  := by
  cases hticks : x.ticks? with
  | none => rw [ticks, hticks]
  | some n => cases h n ((ticks_real_eq_ok_iff x n).mpr hticks)

/-- Requests in floating point stand for what they are.  A pattern is granted if the number it
stands for is natural and fits into 64 bits, whatever its sign says of zero, and it stands for
so many ticks.  The pattern of `2 ^ 64` is granted too and stands for one tick less.  All other
patterns are refused, with the number in the cause. -/
theorem ticks_real_ofBits (bits : UInt64) :
  (∀ n, (real (ofBits bits)).ticks = .ok n
      ↔ (patternValue? bits = some (n : ℚ) ∧ n < 2 ^ 64)
        ∨ (bits = twoToThe64 ∧ n = 2 ^ 64 - 1))
    ∧ ((∃ n, (real (ofBits bits)).ticks = .ok n)
      ∨ (real (ofBits bits)).ticks
        = .error (.invalidTickRequest (.notWhole (ofBits bits))))
  := by
  constructor
  · intro n
    rw [ticks_real_eq_ok_iff, Binary64.ticks?_eq_some_iff, Binary64.value?_ofBits,
      ← Binary64.patternValue?_eq_iff]
    constructor
    · rintro ⟨k, hvalue, hle, rfl⟩
      rcases hle.lt_or_eq with hlt | rfl
      · left
        rw [min_eq_left (Nat.le_of_lt_succ hlt)]
        apply And.intro hvalue hlt
      · right
        apply And.intro hvalue rfl
    · rintro (⟨hvalue, hlt⟩ | ⟨hvalue, rfl⟩)
      · use n, hvalue, hlt.le
        apply min_eq_left (Nat.le_of_lt_succ hlt)
      · use maximumTicks + 1, hvalue, le_rfl
        rfl
  · by_cases h : ∃ n, (real (ofBits bits)).ticks = .ok n
    · left
      apply h
    · right
      apply ticks_real_of_ne_ok (not_exists.mp h)

/-- The number `2 ^ 64` is larger than every count of ticks, and yet the request is granted. -/
theorem ticks_real_twoToThe64 :
  (real (ofBits twoToThe64)).ticks = .ok (2 ^ 64 - 1)
    ∧ patternValue? twoToThe64 = some ((2 ^ 64 : ℕ) : ℚ)
    ∧ ¬ ∀ bits n, (real (ofBits bits)).ticks = .ok n → patternValue? bits = some (n : ℚ)
  := by
  have hticks : (real (ofBits twoToThe64)).ticks = .ok (2 ^ 64 - 1) := by decide +kernel
  have hvalue := Binary64.patternValue?_twoToThe64
  refine ⟨hticks, hvalue, ?_⟩
  intro h
  have hsame := hvalue.symm.trans (h _ _ hticks)
  rw [Option.some.injEq, Nat.cast_inj] at hsame
  cases hsame

end TickRequest

end RasterConsole
