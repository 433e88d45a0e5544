import RasterConsole.Word
import RasterConsole.Processor.Status

/-!
# The arithmetic unit

Addition and subtraction with carry, on bytes read as binary numbers or as two decimal
digits.  A carry that comes out of a subtraction says that nothing had to be borrowed.
Each operation gives the result and the four flags that depend on it; which of the flags
follow the decimal result and which the binary one is part of the definition.  Shifts give
the result and the bit that leaves the byte.
-/

namespace RasterConsole

namespace Alu

/-- The result of an addition or subtraction, with the flags that it leaves. -/
structure Result where
  value : UInt8
  carry : Bool
  overflow : Bool
  zero : Bool
  negative : Bool
  deriving Repr, DecidableEq

/-- The sum of two bytes and a carry. -/
def addBinary (a m : UInt8) (carry : Bool) : Result :=
  let sum := a.toNat + m.toNat + carry.toNat
  let value := sum.toUInt8
  { value := value
    carry := decide (256 ≤ sum)
    overflow := isNegative a == isNegative m && isNegative a != isNegative value
    zero := value == 0
    negative := isNegative value }

/-- The sum of two pairs of decimal digits and a carry.  The negative and overflow flags
follow the high digit before its own correction, the zero flag the binary sum. -/
def addDecimal (a m : UInt8) (carry : Bool) : Result :=
  let low := a.toNat % 16 + m.toNat % 16 + carry.toNat
  let lowDigit := if 9 < low then low + 6 else low
  let high := a.toNat / 16 + m.toNat / 16 + (if 15 < lowDigit then 1 else 0)
  let highDigit := if 9 < high then high + 6 else high
  let half := decide (8 ≤ high % 16)
  { value := (highDigit * 16 + lowDigit % 16).toUInt8
    carry := decide (15 < highDigit)
    overflow := isNegative a == isNegative m && isNegative a != half
    zero := (a.toNat + m.toNat + carry.toNat) % 256 == 0
    negative := half }

/-- The difference of two bytes, less one unless the carry is set. -/
def subtractBinary (a m : UInt8) (carry : Bool) : Result :=
  let subtrahend := m.toNat + (!carry).toNat
  let value := (a.toNat + 512 - subtrahend).toUInt8
  { value := value
    carry := decide (subtrahend ≤ a.toNat)
    overflow := isNegative a != isNegative m && isNegative a != isNegative value
    zero := value == 0
    negative := isNegative value }

/-- The difference of two pairs of decimal digits, less one unless the carry is set.  All
flags follow the binary difference. -/
def subtractDecimal (a m : UInt8) (carry : Bool) : Result :=
  let low := Int.ofNat (a.toNat % 16) - Int.ofNat (m.toNat % 16) - Int.ofNat (!carry).toNat
  let lowDigit := if low < 0 then low - 6 else low
  let high := Int.ofNat (a.toNat / 16) - Int.ofNat (m.toNat / 16) - (if low < 0 then 1 else 0)
  let highDigit := if high < 0 then high - 6 else high
  { subtractBinary a m carry with
    value := ((highDigit % 16) * 16 + lowDigit % 16).toNat.toUInt8 }

/-- The sum of two bytes in the mode that the decimal flag selects. -/
def add (decimal : Bool) (a m : UInt8) (carry : Bool) : Result :=
  if decimal then addDecimal a m carry else addBinary a m carry

/-- The difference of two bytes in the mode that the decimal flag selects. -/
def subtract (decimal : Bool) (a m : UInt8) (carry : Bool) : Result :=
  if decimal then subtractDecimal a m carry else subtractBinary a m carry

/-- A byte shifted left, with `carry` coming in on the right, and the bit that goes out. -/
def shiftLeft (carry : Bool) (value : UInt8) : UInt8 × Bool :=
  ((value.toNat * 2 + carry.toNat).toUInt8, isNegative value)

/-- A byte shifted right, with `carry` coming in on the left, and the bit that goes out. -/
def shiftRight (carry : Bool) (value : UInt8) : UInt8 × Bool :=
  ((value.toNat / 2 + 128 * carry.toNat).toUInt8, value.toNat % 2 == 1)

end Alu

/-- The status after an addition or subtraction. -/
def Status.after (s : Status) (result : Alu.Result) : Status :=
  { s with
    carry := result.carry
    overflow := result.overflow
    zero := result.zero
    negative := result.negative }

end RasterConsole
