import Mathlib.Data.Nat.Digits.Defs
import Mathlib.Tactic.Ring
import RasterConsole.Processor.Execution

/-!
# Numbers of many bytes

A row of bytes, the lowest one first, stands for a number: in base 256 if every byte is read as
a binary number, and in base 100 if it is read as two decimal digits (`Radix.number`).  A program
adds and subtracts such numbers byte by byte and lets the carry go from each byte to the next
(`Exec.bytewise`).

One law covers both operations and both ways to read a byte.  To subtract is to add the
complement, so the byte of the result and the carry that it leaves are the sum of two digits and
of the carry that came in (`Alu.Operation.sums_result`).  From this follows what whole rows come
to (`Exec.bytewise_adds`).  The flags of binary rows are those of signed numbers, which the highest
bytes decide (`Exec.bytewise_flagged`).
-/

namespace RasterConsole

/-! ### Rows of bytes as numbers -/

/-- A way to read a byte as a digit, with the complement of every digit to the highest one. -/
structure Radix where
  base : Nat
  digit : UInt8 → Nat
  /-- The byte stands for a digit. -/
  Valid : UInt8 → Prop
  complement : UInt8 → UInt8
  valid_complement : ∀ {byte}, Valid byte → Valid (complement byte)
  digit_complement : ∀ {byte}, Valid byte → digit (complement byte) + digit byte + 1 = base

namespace Radix

theorem toNat_sub_of_toNat_le {top byte : UInt8} (h : byte.toNat ≤ top.toNat) :
  (top - byte).toNat = top.toNat - byte.toNat
  := UInt8.toNat_sub_of_le top byte (UInt8.le_iff_toNat_le.mpr h)

theorem toNat_complement (byte : UInt8) :
  (255 - byte).toNat = 255 - byte.toNat
  := toNat_sub_of_toNat_le (Nat.le_of_lt_succ byte.toNat_lt)

/-- Every byte is a digit in base 256. -/
def binary : Radix where
  base := 256
  digit byte := byte.toNat
  Valid _ := True
  complement byte := 255 - byte
  valid_complement h := h
  digit_complement {byte} _ := by
    have hbyte := byte.toNat_lt
    rw [toNat_complement]
    omega

/-- A byte is a digit in base 100 if its halves are decimal digits. -/
def packed : Radix where
  base := 100
  digit byte := byte.toNat / 16 * 10 + byte.toNat % 16
  Valid byte := byte.toNat / 16 ≤ 9 ∧ byte.toNat % 16 ≤ 9
  complement byte := 0x99 - byte
  valid_complement {byte} h := by
    have hle : byte.toNat ≤ 0x99 := by omega
    have hcomplement : (0x99 - byte).toNat = 0x99 - byte.toNat := toNat_sub_of_toNat_le hle
    rw [hcomplement]
    omega
  digit_complement {byte} h := by
    have hle : byte.toNat ≤ 0x99 := by omega
    have hcomplement : (0x99 - byte).toNat = 0x99 - byte.toNat := toNat_sub_of_toNat_le hle
    rw [hcomplement]
    omega

/-- How the arithmetic unit reads bytes in the mode that the decimal flag selects. -/
def ofMode (decimal : Bool) : Radix := if decimal then packed else binary

/-- The number that a row of bytes stands for, the lowest byte first. -/
def number (r : Radix) (bytes : List UInt8) : Nat := Nat.ofDigits r.base (bytes.map r.digit)

/-- What is borrowed is what the carry does not bring. -/
theorem carry_add_borrow (carry : Bool) :
  carry.toNat + (!carry).toNat = 1
  := by cases carry <;> rfl

section

variable {r : Radix} {bytes us vs : List UInt8} {carry carry' : Bool}

@[simp]
theorem number_nil (r : Radix) :
  r.number [] = 0
  := rfl

@[simp]
theorem number_cons (r : Radix) (byte : UInt8) (bytes : List UInt8) :
  r.number (byte :: bytes) = r.digit byte + r.base * r.number bytes
  := Nat.ofDigits_cons

/-- A number and its complement make up the highest number of their length. -/
theorem number_complement (h : ∀ byte ∈ bytes, r.Valid byte) :
  r.number (bytes.map r.complement) + r.number bytes + 1 = r.base ^ bytes.length
  := by
  induction bytes with
  | nil => rfl
  | cons byte rest ih =>
      obtain ⟨hvalid, hrest⟩ := List.forall_mem_cons.mp h
      have hbyte := r.digit_complement hvalid
      rw [List.map_cons, number_cons, number_cons, List.length_cons, pow_succ', ← ih hrest]
      calc r.digit (r.complement byte) + r.base * r.number (rest.map r.complement)
            + (r.digit byte + r.base * r.number rest) + 1
          = (r.digit (r.complement byte) + r.digit byte + 1)
            + r.base * (r.number (rest.map r.complement) + r.number rest) := by ring
        _ = r.base + r.base * (r.number (rest.map r.complement) + r.number rest) := by rw [hbyte]
        _ = _ := by ring

theorem number_lt (h : ∀ byte ∈ bytes, r.Valid byte) :
  r.number bytes < r.base ^ bytes.length
  := by
  have hboth := r.number_complement h
  omega

/-- The byte that a result holds and the carry that it leaves are the sum of two digits and a
carry. -/
structure Sums (r : Radix) (a m : Nat) (carry : Bool) (result : Alu.Result) : Prop where
  valid : r.Valid result.value
  sum_eq : r.digit result.value + r.base * result.carry.toNat = a + m + carry.toNat

/-- A row of bytes and the carry that it leaves are the sum of two rows and a carry. -/
structure Adds (r : Radix) (us vs : List UInt8) (carry : Bool) (bytes : List UInt8)
    (carry' : Bool) : Prop where
  length_eq : bytes.length = us.length
  valid : ∀ byte ∈ bytes, r.Valid byte
  sum_eq : r.number bytes + r.base ^ us.length * carry'.toNat
    = r.number us + r.number vs + carry.toNat

theorem adds_nil (r : Radix) (carry : Bool) :
  r.Adds [] [] carry [] carry
  := ⟨rfl, nofun, by simp⟩

/-- The carry that the lowest byte leaves goes into the rest. -/
theorem Adds.cons {u v : UInt8} {result : Alu.Result}
    (hresult : r.Sums (r.digit u) (r.digit v) carry result)
    (h : r.Adds us vs result.carry bytes carry') :
  r.Adds (u :: us) (v :: vs) carry (result.value :: bytes) carry'
  := by
  obtain ⟨hvalid, hbyte⟩ := hresult
  obtain ⟨hlength, hrest, hsum⟩ := h
  refine ⟨congrArg (· + 1) hlength, List.forall_mem_cons.mpr ⟨hvalid, hrest⟩, ?_⟩
  rw [number_cons, number_cons, number_cons, List.length_cons, pow_succ']
  calc r.digit result.value + r.base * r.number bytes
        + r.base * r.base ^ us.length * carry'.toNat
      = r.digit result.value
        + r.base * (r.number bytes + r.base ^ us.length * carry'.toNat) := by ring
    _ = r.digit result.value + r.base * (r.number us + r.number vs + result.carry.toNat) := by
      rw [hsum]
    _ = r.digit result.value + r.base * result.carry.toNat
        + r.base * (r.number us + r.number vs) := by ring
    _ = r.digit u + r.digit v + carry.toNat + r.base * (r.number us + r.number vs) := by rw [hbyte]
    _ = _ := by ring

/-- The bytes hold the sum as far as there is room for it, and the carry says whether that is
not all. -/
theorem Adds.outcome (h : r.Adds us vs carry bytes carry') :
  r.number bytes = (r.number us + r.number vs + carry.toNat) % r.base ^ us.length
    ∧ (carry' = true ↔ r.base ^ us.length ≤ r.number us + r.number vs + carry.toNat)
  := by
  have hlt := r.number_lt h.valid
  rw [h.length_eq] at hlt
  rw [← h.sum_eq]
  cases carry' with
  | false => simpa using ⟨(Nat.mod_eq_of_lt hlt).symm, hlt⟩
  | true => simpa using (Nat.mod_eq_of_lt hlt).symm

/-- If the second row is a complement, then the bytes hold a difference, and the carry says that
nothing had to be borrowed for it. -/
theorem Adds.outcome_complement (h : r.Adds us (vs.map r.complement) carry bytes carry')
    (hlength : us.length = vs.length) (hvs : ∀ byte ∈ vs, r.Valid byte) :
  (r.number bytes : Int)
      = ((r.number us : Int) - r.number vs - (!carry).toNat) % (r.base : Int) ^ us.length
    ∧ (carry' = true ↔ 0 ≤ (r.number us : Int) - r.number vs - (!carry).toNat)
  := by
  have hlt := r.number_lt h.valid
  have hboth := r.number_complement hvs
  have hsum := h.sum_eq
  have hcarry := carry_add_borrow carry
  rw [h.length_eq] at hlt
  rw [← hlength] at hboth
  rw [← Int.natCast_pow]
  generalize r.base ^ us.length = limit at hlt hboth hsum ⊢
  -- what is borrowed is one more than the highest number
  have hdifference : (r.number us : Int) - r.number vs - (!carry).toNat
      = r.number bytes + limit * (carry'.toNat - 1) := by
    cases carry' with
    | false =>
        simp only [Bool.toNat_false] at hsum ⊢
        omega
    | true =>
        simp only [Bool.toNat_true, Nat.mul_one] at hsum ⊢
        omega
  rw [hdifference, Int.add_mul_emod_self_left, Int.emod_eq_of_lt (by omega) (by omega)]
  cases carry' with
  | false => simpa using hlt
  | true => simp

end

end Radix

/-! ### The arithmetic unit -/

namespace Alu

open Radix

theorem toNat_decide (p : Prop) [Decidable p] :
  (decide p).toNat = if p then 1 else 0
  := Bool.cond_decide p 1 0

theorem sums_addBinary (a m : UInt8) (carry : Bool) :
  binary.Sums (binary.digit a) (binary.digit m) carry (addBinary a m carry)
  := by
  refine ⟨trivial, ?_⟩
  have ha := a.toNat_lt
  have hm := m.toNat_lt
  have hcarry := carry.toNat_le
  simp only [binary, addBinary, toNat_decide, UInt8.toNat_ofNat']
  split_ifs
  · omega
  · omega

/-- In binary mode to subtract is to add the complement, down to the flags. -/
theorem subtractBinary_eq (a m : UInt8) (carry : Bool) :
  subtractBinary a m carry = addBinary a (255 - m) carry
  := by
  have hm := m.toNat_lt
  have hcarry := carry_add_borrow carry
  have hvalue : (a.toNat + 512 - (m.toNat + (!carry).toNat)).toUInt8
      = (a.toNat + (255 - m).toNat + carry.toNat).toUInt8 := by
    apply UInt8.toNat_inj.mp
    rw [UInt8.toNat_ofNat', UInt8.toNat_ofNat', toNat_complement]
    omega
  have hsign : isNegative (255 - m) = !isNegative m := by
    rw [isNegative, isNegative, toNat_complement, ← decide_not, decide_eq_decide]
    omega
  rw [subtractBinary, addBinary]
  simp only [hvalue, hsign, Result.mk.injEq, decide_eq_decide, and_true, true_and]
  constructor
  · rw [toNat_complement]
    omega
  · cases isNegative a <;> cases isNegative m <;> rfl

/-- A sum of two decimal digits and a carry is corrected to its last digit, and runs over if it
has a second one. -/
theorem corrected_sum {sum : Nat} (h : sum < 20) :
  ∃ digit extra, digit < 10 ∧ extra ≤ 1 ∧ sum = digit + 10 * extra
    ∧ (if 9 < sum then sum + 6 else sum) % 16 = digit
    ∧ (if 15 < (if 9 < sum then sum + 6 else sum) then 1 else 0) = extra
  := by
  rcases Nat.lt_or_ge 9 sum with hsum | hsum
  · rw [if_pos hsum, if_pos (by omega)]
    exact ⟨sum - 10, 1, by omega⟩
  · rw [if_neg (by omega), if_neg (by omega)]
    exact ⟨sum, 0, by omega⟩

/-- A difference of two decimal digits and a borrow is corrected to a digit, and borrows if it is
negative. -/
theorem corrected_difference {difference : Int} (h : -10 ≤ difference) (h' : difference < 10) :
  ∃ digit extra : Nat, digit < 10 ∧ extra ≤ 1 ∧ difference = digit - 10 * extra
    ∧ (if difference < 0 then difference - 6 else difference) % 16 = digit
    ∧ (if difference < 0 then 1 else 0) = (extra : Int)
  := by
  rcases lt_or_ge difference 0 with hdifference | hdifference
  · rw [if_pos hdifference, if_pos hdifference]
    exact ⟨(difference + 10).toNat, 1, by omega⟩
  · rw [if_neg (by omega), if_neg (by omega)]
    exact ⟨difference.toNat, 0, by omega⟩

/-- The halves of a byte, of which the upper one may have run over. -/
theorem halves_toUInt8 (high : Nat) {low : Nat} (hlow : low < 16) :
  (high * 16 + low).toUInt8.toNat / 16 = high % 16 ∧ (high * 16 + low).toUInt8.toNat % 16 = low
  := by
  rw [UInt8.toNat_ofNat']
  omega

theorem sums_addDecimal {a m : UInt8} (ha : packed.Valid a) (hm : packed.Valid m)
    (carry : Bool) :
  packed.Sums (packed.digit a) (packed.digit m) carry (addDecimal a m carry)
  := by
  have hcarry := carry.toNat_le
  suffices hsums : ((addDecimal a m carry).value.toNat / 16 ≤ 9
        ∧ (addDecimal a m carry).value.toNat % 16 ≤ 9)
      ∧ (addDecimal a m carry).value.toNat / 16 * 10 + (addDecimal a m carry).value.toNat % 16
          + 100 * (addDecimal a m carry).carry.toNat
        = a.toNat / 16 * 10 + a.toNat % 16 + (m.toNat / 16 * 10 + m.toNat % 16) + carry.toNat
    from ⟨hsums.1, hsums.2⟩
  simp only [packed] at ha hm
  simp only [addDecimal, toNat_decide]
  generalize a.toNat % 16 = aLow, a.toNat / 16 = aHigh, m.toNat % 16 = mLow,
    m.toNat / 16 = mHigh at ha hm ⊢
  obtain ⟨low, extra, hlow, hextra, hsum, hcorrected, hhalf⟩ :=
    corrected_sum (show aLow + mLow + carry.toNat < 20 by omega)
  rw [hcorrected, hhalf]
  obtain ⟨high, out, hhigh, hout, hsum', hcorrected', hhalf'⟩ :=
    corrected_sum (show aHigh + mHigh + extra < 20 by omega)
  obtain ⟨hupper, hlower⟩ := halves_toUInt8 (if 9 < aHigh + mHigh + extra then
    aHigh + mHigh + extra + 6 else aHigh + mHigh + extra) (show low < 16 by omega)
  rw [hhalf', hupper, hlower, hcorrected']
  omega

theorem sums_subtractDecimal {a m : UInt8} (ha : packed.Valid a) (hm : packed.Valid m)
    (carry : Bool) :
  packed.Sums (packed.digit a) (packed.digit (packed.complement m)) carry
    (subtractDecimal a m carry)
  := by
  have hcomplement := packed.digit_complement hm
  have hcarry := carry_add_borrow carry
  suffices hsums : ((subtractDecimal a m carry).value.toNat / 16 ≤ 9
        ∧ (subtractDecimal a m carry).value.toNat % 16 ≤ 9)
      ∧ (subtractDecimal a m carry).value.toNat / 16 * 10
          + (subtractDecimal a m carry).value.toNat % 16
          + 100 * (subtractDecimal a m carry).carry.toNat
        = a.toNat / 16 * 10 + a.toNat % 16 + packed.digit (packed.complement m) + carry.toNat
    from ⟨hsums.1, hsums.2⟩
  have hbytes : 16 * (a.toNat / 16) + a.toNat % 16 = a.toNat
    ∧ 16 * (m.toNat / 16) + m.toNat % 16 = m.toNat := ⟨Nat.div_add_mod _ _, Nat.div_add_mod _ _⟩
  generalize packed.digit (packed.complement m) = complement at hcomplement ⊢
  simp only [packed] at ha hm hcomplement
  simp only [subtractDecimal, subtractBinary, toNat_decide, Int.ofNat_eq_natCast]
  generalize a.toNat % 16 = aLow, a.toNat / 16 = aHigh, m.toNat % 16 = mLow,
    m.toNat / 16 = mHigh at ha hm hbytes hcomplement ⊢
  obtain ⟨low, extra, hlow, hextra, hsum, hcorrected, hhalf⟩ :=
    corrected_difference (show (-10 : Int) ≤ aLow - mLow - (!carry).toNat by omega) (by omega)
  rw [hcorrected, hhalf]
  obtain ⟨high, out, hhigh, hout, hsum', hcorrected', -⟩ :=
    corrected_difference (show (-10 : Int) ≤ aHigh - mHigh - extra by omega) (by omega)
  obtain ⟨hupper, hlower⟩ := halves_toUInt8 high (show low < 16 by omega)
  have hvalue : ((high : Int) * 16 + low).toNat = high * 16 + low := Int.toNat_natCast _
  rw [hcorrected', hvalue, hupper, hlower]
  refine ⟨by omega, ?_⟩
  split_ifs
  · omega
  · omega

/-- The operations of the arithmetic unit. -/
inductive Operation where
  | add
  | subtract

namespace Operation

/-- The mnemonic for an operation. -/
def mnemonic : Operation → Mnemonic
  | add => .adc
  | subtract => .sbc

/-- What the arithmetic unit does. -/
def result : Operation → Bool → UInt8 → UInt8 → Bool → Result
  | add => Alu.add
  | subtract => Alu.subtract

/-- The byte that is added. -/
def addend (operation : Operation) (r : Radix) (m : UInt8) : UInt8 :=
  match operation with
  | add => m
  | subtract => r.complement m

theorem map_addend_add (r : Radix) (bytes : List UInt8) :
  bytes.map (add.addend r) = bytes
  := List.map_id' bytes

/-- In both modes the arithmetic unit adds two digits and a carry. -/
theorem sums_result (operation : Operation) (decimal : Bool) {a m : UInt8}
    (ha : (ofMode decimal).Valid a) (hm : (ofMode decimal).Valid m) (carry : Bool) :
  (ofMode decimal).Sums ((ofMode decimal).digit a)
    ((ofMode decimal).digit (operation.addend (ofMode decimal) m)) carry
    (operation.result decimal a m carry)
  := by
  cases operation with
  | add =>
      cases decimal with
      | false => exact sums_addBinary a m carry
      | true => exact sums_addDecimal ha hm carry
  | subtract =>
      cases decimal with
      | false =>
          change binary.Sums _ _ carry (subtractBinary a m carry)
          rw [subtractBinary_eq]
          exact sums_addBinary a (255 - m) carry
      | true => exact sums_subtractDecimal ha hm carry

end Operation

end Alu

/-! ### Signed numbers -/

namespace Radix

/-- The number that a row of binary bytes stands for if its highest bit counts as negative. -/
def signedNumber (bytes : List UInt8) : Int :=
  Int.bmod (binary.number bytes) (256 ^ bytes.length)

/-- An integer that a row of bytes can stand for as a signed number. -/
def FitsSigned (length : Nat) (value : Int) : Prop :=
  -2 ^ (8 * length - 1) ≤ value ∧ value < 2 ^ (8 * length - 1)

section

variable {bytes : List UInt8}

/-- The limits of the signed numbers of some length are those of one byte less, times 256. -/
theorem two_pow_sign {length : Nat} (h : length ≠ 0) :
  (2 : Int) ^ (8 * (length + 1) - 1) = 256 * 2 ^ (8 * length - 1)
  := by
  have hexponent : 8 * (length + 1) - 1 = 8 + (8 * length - 1) := by omega
  rw [hexponent, pow_add]
  norm_num

theorem fitsSigned_one (value : Int) :
  FitsSigned 1 value ↔ -128 ≤ value ∧ value < 128
  := by norm_num [FitsSigned]

/-- The lowest byte has no say in whether a signed number fits. -/
theorem fitsSigned_succ {length : Nat} (h : length ≠ 0) (byte : UInt8) (value : Int) :
  FitsSigned (length + 1) (byte.toNat + 256 * value) ↔ FitsSigned length value
  := by
  have hbyte := byte.toNat_lt
  rw [FitsSigned, FitsSigned, two_pow_sign h]
  generalize (2 : Int) ^ (8 * length - 1) = limit
  omega

theorem signedNumber_singleton (byte : UInt8) :
  signedNumber [byte] = if isNegative byte then (byte.toNat : Int) - 256 else byte.toNat
  := by
  have hbyte := byte.toNat_lt
  have hnumber : binary.number [byte] = byte.toNat := by simp [binary]
  rw [signedNumber, hnumber, isNegative, Int.bmod]
  simp only [List.length_singleton, pow_one, decide_eq_true_eq]
  split_ifs <;> omega

theorem two_dvd_limit (h : bytes ≠ []) :
  2 ∣ 256 ^ bytes.length
  := dvd_pow (by decide) (mt List.length_eq_zero_iff.mp h)

/-- Only the highest byte of a signed number is signed. -/
theorem signedNumber_cons (byte : UInt8) (h : bytes ≠ []) :
  signedNumber (byte :: bytes) = byte.toNat + 256 * signedNumber bytes
  := by
  have hbyte := byte.toNat_lt
  have hlt : binary.number bytes < 256 ^ bytes.length := number_lt fun _ _ => trivial
  obtain ⟨half, hhalf⟩ := two_dvd_limit h
  have hnumber : binary.number (byte :: bytes) = byte.toNat + 256 * binary.number bytes :=
    number_cons binary byte bytes
  rw [signedNumber, signedNumber, hnumber, List.length_cons, pow_succ', hhalf, Int.bmod, Int.bmod]
  rw [hhalf] at hlt
  rw [Int.emod_eq_of_lt (by omega) (by omega), Int.emod_eq_of_lt (by omega) (by omega)]
  split_ifs <;> omega

/-- The complement of a signed number is as far below zero as the number is above it, less
one. -/
theorem signedNumber_complement (h : bytes ≠ []) :
  signedNumber (bytes.map binary.complement) = -1 - signedNumber bytes
  := by
  have hboth := @number_complement binary bytes fun _ _ => trivial
  obtain ⟨half, hhalf⟩ := two_dvd_limit h
  change _ = 256 ^ bytes.length at hboth
  rw [signedNumber, signedNumber, List.length_map, hhalf, Int.bmod, Int.bmod]
  rw [hhalf] at hboth
  rw [Int.emod_eq_of_lt (by omega) (by omega), Int.emod_eq_of_lt (by omega) (by omega)]
  split_ifs <;> omega

/-- The sign of a row of bytes is in its highest byte. -/
theorem testBit_number_cons (byte : UInt8) (h : bytes ≠ []) :
  (binary.number (byte :: bytes)).testBit (8 * (bytes.length + 1) - 1)
    = (binary.number bytes).testBit (8 * bytes.length - 1)
  := by
  have hlength : bytes.length ≠ 0 := mt List.length_eq_zero_iff.mp h
  have hnumber : binary.number (byte :: bytes) = 2 ^ 8 * binary.number bytes + byte.toNat := by
    rw [number_cons, Nat.add_comm]
    rfl
  rw [hnumber, Nat.testBit_two_pow_mul_add _ byte.toNat_lt, if_neg (by omega)]
  congr 1

theorem testBit_number_singleton (byte : UInt8) :
  (binary.number [byte]).testBit 7 = isNegative byte
  := by
  have hbyte := byte.toNat_lt
  have hnumber : binary.number [byte] = byte.toNat := by simp [binary]
  rw [hnumber, isNegative, Nat.testBit_eq_decide_div_mod_eq, decide_eq_decide]
  omega

end

/-- The flags say whether the signed sum of two rows and a carry has no room, and what the sign
of the row is that it leaves. -/
structure Flagged (us vs : List UInt8) (carry : Bool) (bytes : List UInt8) (status : Status) :
    Prop where
  overflow_iff : status.overflow = true
    ↔ ¬ FitsSigned us.length (signedNumber us + signedNumber vs + carry.toNat)
  negative_eq : status.negative = (binary.number bytes).testBit (8 * us.length - 1)

/-- The flags behind a single byte. -/
theorem flagged_addBinary (u v : UInt8) (carry : Bool) (status : Status) :
  Flagged [u] [v] carry [(Alu.addBinary u v carry).value]
    (status.after (Alu.addBinary u v carry))
  := by
  constructor
  · have hu := u.toNat_lt
    have hv := v.toNat_lt
    have hcarry := carry.toNat_le
    have hvalue : (Alu.addBinary u v carry).value.toNat = (u.toNat + v.toNat + carry.toNat) % 256 :=
      UInt8.toNat_ofNat'
    change (isNegative u == isNegative v
      && isNegative u != isNegative (Alu.addBinary u v carry).value) = true ↔ _
    rw [List.length_singleton, fitsSigned_one, signedNumber_singleton, signedNumber_singleton]
    simp only [isNegative, hvalue, Bool.and_eq_true, beq_iff_eq, bne_iff_ne, decide_eq_decide,
      decide_eq_true_eq, ne_eq]
    split_ifs <;> omega
  · exact (testBit_number_singleton _).symm

/-- The flags behind longer rows are those behind their upper parts, if the carry that the lowest
bytes leave goes into these. -/
theorem Flagged.cons {us vs bytes : List UInt8} {u v : UInt8} {carry : Bool}
    {result : Alu.Result} {status : Status}
    (h : Flagged us vs result.carry bytes status)
    (hresult : binary.Sums (binary.digit u) (binary.digit v) carry result)
    (hlength : us.length = vs.length) (hbytes : bytes.length = us.length) (hne : us ≠ []) :
  Flagged (u :: us) (v :: vs) carry (result.value :: bytes) status
  := by
  have hus : us.length ≠ 0 := mt List.length_eq_zero_iff.mp hne
  have hvs : vs ≠ [] := fun hvs => hus (hlength.trans (congrArg List.length hvs))
  constructor
  · have hsum : u.toNat + v.toNat + carry.toNat
        = result.value.toNat + 256 * result.carry.toNat := hresult.sum_eq.symm
    have hvalue : signedNumber (u :: us) + signedNumber (v :: vs) + carry.toNat
        = result.value.toNat
          + 256 * (signedNumber us + signedNumber vs + result.carry.toNat) := by
      rw [signedNumber_cons u hne, signedNumber_cons v hvs]
      omega
    rw [hvalue, List.length_cons, fitsSigned_succ hus]
    exact h.overflow_iff
  · rw [h.negative_eq, ← hbytes, List.length_cons, ← hbytes]
    symm
    apply testBit_number_cons
    exact fun hnil => hus (hbytes.symm.trans (congrArg List.length hnil))

end Radix

/-! ### Programs that go from byte to byte -/

/-- The registers with the result of an operation in the accumulator and its flags. -/
def Core.take (core : Core) (result : Alu.Result) : Core :=
  { core with a := result.value, status := core.status.after result }

namespace Exec

open Alu Radix

/-- Takes the bytes of one number into the accumulator, the lowest one first, and runs an
instruction on each with the byte of another number for its operand.  The result lists what the
accumulator holds each time. -/
def bytewise (irqVector : UInt16) (mnemonic : Mnemonic) : List UInt8 → List UInt8 →
    Exec (List UInt8)
  | u :: us, v :: vs => do
    execute irqVector .lda (.immediate u)
    execute irqVector mnemonic (.immediate v)
    let byte := (← core).a
    let bytes ← bytewise irqVector mnemonic us vs
    return byte :: bytes
  | _, _ => return []

section

variable {core : Core} {us vs : List UInt8}

/-- What the lowest bytes come to, before the rest. -/
theorem bytewise_cons (irqVector : UInt16) (operation : Operation) (core : Core) (u v : UInt8)
    (us vs : List UInt8) :
  bytewise irqVector operation.mnemonic (u :: us) (v :: vs) core
    = (bytewise irqVector operation.mnemonic us vs
        (core.take (operation.result core.status.decimal u v core.status.carry))).andThen
      fun bytes core' => .done
        ((operation.result core.status.decimal u v core.status.carry).value :: bytes) core'
  := by
  cases operation with
  | add => rfl
  | subtract => rfl

/-- A program that goes from byte to byte asks nothing of the bus, and adds two rows. -/
theorem bytewise_adds (irqVector : UInt16) (operation : Operation)
    (hlength : us.length = vs.length)
    (hus : ∀ byte ∈ us, (ofMode core.status.decimal).Valid byte)
    (hvs : ∀ byte ∈ vs, (ofMode core.status.decimal).Valid byte) :
  ∃ bytes core', bytewise irqVector operation.mnemonic us vs core = .done bytes core'
    ∧ (ofMode core.status.decimal).Adds us
      (vs.map (operation.addend (ofMode core.status.decimal))) core.status.carry bytes
      core'.status.carry
  := by
  induction us generalizing core vs with
  | nil =>
      obtain rfl : vs = [] := List.length_eq_zero_iff.mp hlength.symm
      exact ⟨[], core, rfl, adds_nil _ _⟩
  | cons u us ih =>
      obtain _ | ⟨v, vs⟩ := vs
      · cases hlength
      · obtain ⟨hu, hus⟩ := List.forall_mem_cons.mp hus
        obtain ⟨hv, hvs⟩ := List.forall_mem_cons.mp hvs
        have hsums := operation.sums_result core.status.decimal hu hv core.status.carry
        obtain ⟨bytes, core', hdone, hrest⟩ :=
          @ih (core.take (operation.result core.status.decimal u v core.status.carry)) vs
            (Nat.succ.inj hlength) hus hvs
        refine ⟨_ :: bytes, core', ?_, hrest.cons hsums⟩
        rw [bytewise_cons, hdone]
        rfl

theorem bytewise_adc_cons (irqVector : UInt16) (hbinary : core.status.decimal = false)
    (u v : UInt8) (us vs : List UInt8) :
  bytewise irqVector .adc (u :: us) (v :: vs) core
    = (bytewise irqVector .adc us vs (core.take (addBinary u v core.status.carry))).andThen
      fun bytes core' => .done ((addBinary u v core.status.carry).value :: bytes) core'
  := by
  have hcons := bytewise_cons irqVector .add core u v us vs
  rw [hbinary] at hcons
  exact hcons

/-- In binary mode to subtract a number is to add its complement. -/
theorem bytewise_sbc (irqVector : UInt16) (hbinary : core.status.decimal = false) :
  bytewise irqVector .sbc us vs core
    = bytewise irqVector .adc us (vs.map binary.complement) core
  := by
  induction us generalizing core vs with
  | nil => cases vs <;> rfl
  | cons u us ih =>
      cases vs with
      | nil => rfl
      | cons v vs =>
          have hcons := bytewise_cons irqVector .subtract core u v us vs
          have hresult : Operation.subtract.result core.status.decimal u v core.status.carry
              = addBinary u (binary.complement v) core.status.carry := by
            rw [hbinary]
            exact subtractBinary_eq u v core.status.carry
          have hrest := @ih (core.take (addBinary u (binary.complement v) core.status.carry)) vs
            hbinary
          rw [hresult] at hcons
          rw [List.map_cons, bytewise_adc_cons irqVector hbinary, ← hrest]
          exact hcons

/-- In binary mode every byte is a digit. -/
theorem bytewise_adc_adds (irqVector : UInt16) (hbinary : core.status.decimal = false)
    (hlength : us.length = vs.length) :
  ∃ bytes core', bytewise irqVector .adc us vs core = .done bytes core'
    ∧ binary.Adds us vs core.status.carry bytes core'.status.carry
  := by
  have hmode : ofMode core.status.decimal = binary := by
    rw [hbinary]
    rfl
  have hvalid : ∀ byte, (ofMode core.status.decimal).Valid byte := by
    intro byte
    rw [hmode]
    trivial
  obtain ⟨bytes, core', hdone, hadds⟩ := bytewise_adds irqVector .add hlength
    (fun byte _ => hvalid byte) (fun byte _ => hvalid byte)
  rw [hmode, Operation.map_addend_add] at hadds
  exact ⟨bytes, core', hdone, hadds⟩

/-- The flags behind rows of bytes are those behind the highest bytes. -/
theorem bytewise_flagged {irqVector : UInt16} {bytes : List UInt8} {core' : Core}
    (hbinary : core.status.decimal = false) (hlength : us.length = vs.length) (hne : us ≠ [])
    (h : bytewise irqVector .adc us vs core = .done bytes core') :
  Flagged us vs core.status.carry bytes core'.status
  := by
  induction us generalizing core vs bytes with
  | nil => exact absurd rfl hne
  | cons u us ih =>
      obtain _ | ⟨v, vs⟩ := vs
      · cases hlength
      · rw [bytewise_adc_cons irqVector hbinary] at h
        rcases eq_or_ne us [] with rfl | hus
        · obtain rfl : vs = [] := List.length_eq_zero_iff.mp (Nat.succ.inj hlength).symm
          cases h
          exact flagged_addBinary u v core.status.carry core.status
        · have hnext : (core.take (addBinary u v core.status.carry)).status.decimal = false :=
            hbinary
          obtain ⟨bytes', core'', hdone, hadds⟩ :=
            bytewise_adc_adds irqVector hnext (Nat.succ.inj hlength)
          rw [hdone] at h
          cases h
          have hflags := ih hnext (Nat.succ.inj hlength) hus hdone
          exact hflags.cons (sums_addBinary u v core.status.carry) (Nat.succ.inj hlength)
            hadds.length_eq hus

/-- In decimal mode a program that adds or subtracts two numbers byte by byte, each byte a pair of
decimal digits, ends with pairs of decimal digits.  They are the sum or the difference as far as
there is room for it, and the carry says whether the sum has no room, or that the difference is
not negative. -/
theorem bytewise_decimal (irqVector : UInt16) (hdecimal : core.status.decimal = true)
    (hlength : us.length = vs.length) (hus : ∀ byte ∈ us, packed.Valid byte)
    (hvs : ∀ byte ∈ vs, packed.Valid byte) :
  (∃ bytes core', bytewise irqVector .adc us vs core = .done bytes core'
      ∧ bytes.length = us.length ∧ (∀ byte ∈ bytes, packed.Valid byte)
      ∧ packed.number bytes
        = (packed.number us + packed.number vs + core.status.carry.toNat) % 100 ^ us.length
      ∧ (core'.status.carry = true
        ↔ 100 ^ us.length ≤ packed.number us + packed.number vs + core.status.carry.toNat))
    ∧ ∃ bytes core', bytewise irqVector .sbc us vs core = .done bytes core'
      ∧ bytes.length = us.length ∧ (∀ byte ∈ bytes, packed.Valid byte)
      ∧ (packed.number bytes : Int)
        = ((packed.number us : Int) - packed.number vs - (!core.status.carry).toNat)
          % 100 ^ us.length
      ∧ (core'.status.carry = true
        ↔ 0 ≤ (packed.number us : Int) - packed.number vs - (!core.status.carry).toNat)
  := by
  have hmode : ofMode core.status.decimal = packed := by rw [hdecimal]; rfl
  rw [← hmode] at hus hvs
  constructor
  · obtain ⟨bytes, core', hdone, hadds⟩ := bytewise_adds irqVector .add hlength hus hvs
    rw [hmode] at hadds
    obtain ⟨hnumber, hcarry⟩ := hadds.outcome
    rw [Operation.map_addend_add] at hnumber hcarry
    exact ⟨bytes, core', hdone, hadds.length_eq, hadds.valid, hnumber, hcarry⟩
  · obtain ⟨bytes, core', hdone, hadds⟩ := bytewise_adds irqVector .subtract hlength hus hvs
    rw [hmode] at hadds hvs
    obtain ⟨hnumber, hcarry⟩ := hadds.outcome_complement hlength hvs
    exact ⟨bytes, core', hdone, hadds.length_eq, hadds.valid, hnumber, hcarry⟩

/-- Registers with the carry set, in one of the two modes. -/
def smallCarrying (decimal : Bool) : Core :=
  { Core.initial 0 with status := { Status.initial with decimal := decimal, carry := true } }

/-- 5999 and 7028 with a carry, in two bytes each. -/
theorem bytewise_decimal_small :
  (smallCarrying true).status.decimal = true
    ∧ ([0x99, 0x59] : List UInt8).length = ([0x28, 0x70] : List UInt8).length
    ∧ (∀ byte ∈ [0x99, 0x59], packed.Valid byte) ∧ (∀ byte ∈ [0x28, 0x70], packed.Valid byte)
    ∧ (∃ bytes core', bytewise 0 .adc [0x99, 0x59] [0x28, 0x70] (smallCarrying true)
        = .done bytes core' ∧ packed.number bytes = 3028 ∧ core'.status.carry = true)
    ∧ ∃ bytes core', bytewise 0 .sbc [0x99, 0x59] [0x28, 0x70] (smallCarrying true)
        = .done bytes core' ∧ (packed.number bytes : Int) = 8971 ∧ ¬ core'.status.carry = true
  := by
  have hus : ∀ byte ∈ [0x99, 0x59], packed.Valid byte := by simp [packed]
  have hvs : ∀ byte ∈ [0x28, 0x70], packed.Valid byte := by simp [packed]
  have hnumbers : packed.number [0x99, 0x59] = 5999 ∧ packed.number [0x28, 0x70] = 7028 := by
    simp [packed]
  obtain ⟨⟨bytes, core', hdone, -, -, hnumber, hcarry⟩,
    bytes', core'', hdone', -, -, hnumber', hcarry'⟩ :=
    @bytewise_decimal (smallCarrying true) [0x99, 0x59] [0x28, 0x70] 0 rfl rfl hus hvs
  rw [hnumbers.1, hnumbers.2] at hnumber hcarry hnumber' hcarry'
  refine ⟨rfl, rfl, hus, hvs, ⟨bytes, core', hdone, hnumber, hcarry.mpr ?_⟩,
    bytes', core'', hdone', hnumber', fun h => absurd (hcarry'.mp h) ?_⟩
  · decide
  · decide

/-- In binary mode a program that adds or subtracts two numbers byte by byte ends with the bytes
of the sum or the difference as far as there is room for it.  The carry says whether the sum has
no room, or that the difference is not negative; the overflow flag says whether the sum or the
difference of the signed numbers has no room, and the negative flag is the highest bit of the
bytes. -/
theorem bytewise_binary (irqVector : UInt16) (hbinary : core.status.decimal = false)
    (hlength : us.length = vs.length) (hne : us ≠ []) :
  (∃ bytes core', bytewise irqVector .adc us vs core = .done bytes core'
      ∧ bytes.length = us.length
      ∧ binary.number bytes
        = (binary.number us + binary.number vs + core.status.carry.toNat) % 256 ^ us.length
      ∧ (core'.status.carry = true
        ↔ 256 ^ us.length ≤ binary.number us + binary.number vs + core.status.carry.toNat)
      ∧ (core'.status.overflow = true ↔ ¬ FitsSigned us.length
        (signedNumber us + signedNumber vs + core.status.carry.toNat))
      ∧ core'.status.negative = (binary.number bytes).testBit (8 * us.length - 1))
    ∧ ∃ bytes core', bytewise irqVector .sbc us vs core = .done bytes core'
      ∧ bytes.length = us.length
      ∧ (binary.number bytes : Int)
        = ((binary.number us : Int) - binary.number vs - (!core.status.carry).toNat)
          % 256 ^ us.length
      ∧ (core'.status.carry = true
        ↔ 0 ≤ (binary.number us : Int) - binary.number vs - (!core.status.carry).toNat)
      ∧ (core'.status.overflow = true ↔ ¬ FitsSigned us.length
        (signedNumber us - signedNumber vs - (!core.status.carry).toNat))
      ∧ core'.status.negative = (binary.number bytes).testBit (8 * us.length - 1)
  := by
  constructor
  · obtain ⟨bytes, core', hdone, hadds⟩ := bytewise_adc_adds irqVector hbinary hlength
    obtain ⟨hnumber, hcarry⟩ := hadds.outcome
    obtain ⟨hextraflow, hnegative⟩ := bytewise_flagged hbinary hlength hne hdone
    exact ⟨bytes, core', hdone, hadds.length_eq, hnumber, hcarry, hextraflow, hnegative⟩
  · have hlength' : us.length = (vs.map binary.complement).length := by
      rw [hlength, List.length_map]
    have hvs : vs ≠ [] := by
      rintro rfl
      exact hne (List.length_eq_zero_iff.mp hlength)
    obtain ⟨bytes, core', hdone, hadds⟩ := bytewise_adc_adds irqVector hbinary hlength'
    obtain ⟨hnumber, hcarry⟩ := hadds.outcome_complement hlength fun _ _ => trivial
    obtain ⟨hextraflow, hnegative⟩ := bytewise_flagged hbinary hlength' hne hdone
    have hdifference : signedNumber us + signedNumber (vs.map binary.complement)
          + core.status.carry.toNat
        = signedNumber us - signedNumber vs - (!core.status.carry).toNat := by
      have hborrow := carry_add_borrow core.status.carry
      rw [signedNumber_complement hvs]
      omega
    rw [hdifference] at hextraflow
    rw [bytewise_sbc irqVector hbinary]
    exact ⟨bytes, core', hdone, hadds.length_eq, hnumber, hcarry, hextraflow, hnegative⟩

/-- 0x7F80 and 0x80 with a carry, in two bytes each: the signed sum has no room, the unsigned one
has. -/
theorem bytewise_binary_small :
  (smallCarrying false).status.decimal = false
    ∧ ([0x80, 0x7F] : List UInt8).length = ([0x80, 0x00] : List UInt8).length
    ∧ ([0x80, 0x7F] : List UInt8) ≠ []
    ∧ (∃ bytes core', bytewise 0 .adc [0x80, 0x7F] [0x80, 0x00] (smallCarrying false)
        = .done bytes core' ∧ binary.number bytes = 0x8001 ∧ ¬ core'.status.carry = true
        ∧ core'.status.overflow = true ∧ core'.status.negative = true)
    ∧ ∃ bytes core', bytewise 0 .sbc [0x80, 0x7F] [0x80, 0x00] (smallCarrying false)
        = .done bytes core' ∧ (binary.number bytes : Int) = 0x7F00 ∧ core'.status.carry = true
        ∧ ¬ core'.status.overflow = true ∧ core'.status.negative = false
  := by
  have hnumbers : binary.number [0x80, 0x7F] = 0x7F80 ∧ binary.number [0x80, 0x00] = 0x80 := by
    simp [binary]
  have hsigned : signedNumber [0x80, 0x7F] = 0x7F80 ∧ signedNumber [0x80, 0x00] = 0x80 := by
    simp [signedNumber, hnumbers, Int.bmod]
  obtain ⟨⟨bytes, core', hdone, -, hnumber, hcarry, hextraflow, hnegative⟩,
    bytes', core'', hdone', -, hnumber', hcarry', hextraflow', hnegative'⟩ :=
    @bytewise_binary (smallCarrying false) [0x80, 0x7F] [0x80, 0x00] 0 rfl rfl
      (List.cons_ne_nil _ _)
  rw [hnumbers.1, hnumbers.2] at hnumber hcarry hnumber' hcarry'
  rw [hsigned.1, hsigned.2] at hextraflow hextraflow'
  have hsum : binary.number bytes = 0x8001 := hnumber
  have hdifference : (binary.number bytes' : Int) = 0x7F00 := hnumber'
  have hdifference' : binary.number bytes' = 0x7F00 := Int.ofNat_inj.mp hdifference
  rw [hsum] at hnegative
  rw [hdifference'] at hnegative'
  refine ⟨rfl, rfl, List.cons_ne_nil _ _,
    ⟨bytes, core', hdone, hsum, fun h => absurd (hcarry.mp h) ?_, hextraflow.mpr ?_, hnegative⟩,
    bytes', core'', hdone', hdifference, hcarry'.mpr ?_, fun h => hextraflow'.mp h ?_, hnegative'⟩
  · decide
  · exact fun h => absurd h.2 (by decide)
  · decide
  · exact ⟨by decide, by decide⟩

end

end Exec

end RasterConsole
