/-!
# The status register

Eight flags, which instructions set one by one and which the stack holds as one byte.
-/

namespace RasterConsole

/-- The flags of the processor. -/
structure Status where
  carry : Bool
  zero : Bool
  interrupt : Bool
  decimal : Bool
  brk : Bool
  unused : Bool
  overflow : Bool
  negative : Bool
  deriving Repr, DecidableEq, Inhabited

namespace Status

/-- The flags at power on: interrupts are off, and the unused flag is set as always. -/
def initial : Status where
  carry := false
  zero := false
  interrupt := true
  decimal := false
  brk := false
  unused := true
  overflow := false
  negative := false

/-- The flags as one byte, from carry in the lowest bit to negative in the highest. -/
def toByte (s : Status) : UInt8 :=
  (s.carry.toNat + 2 * s.zero.toNat + 4 * s.interrupt.toNat + 8 * s.decimal.toNat
    + 16 * s.brk.toNat + 32 * s.unused.toNat + 64 * s.overflow.toNat
    + 128 * s.negative.toNat).toUInt8

/-- The flags in a byte. -/
def ofByte (byte : UInt8) : Status where
  carry := byte.toNat.testBit 0
  zero := byte.toNat.testBit 1
  interrupt := byte.toNat.testBit 2
  decimal := byte.toNat.testBit 3
  brk := byte.toNat.testBit 4
  unused := byte.toNat.testBit 5
  overflow := byte.toNat.testBit 6
  negative := byte.toNat.testBit 7

/-- The byte that goes on the stack, in which the two flags without a place in the
processor are set. -/
def pushed (s : Status) : UInt8 := toByte { s with brk := true, unused := true }

/-- The flags of a byte that comes from the stack. -/
def pulled (byte : UInt8) : Status := { ofByte byte with brk := false, unused := true }

/-- The flags after a value has been seen: whether it is zero, and whether negative. -/
def seen (s : Status) (value : UInt8) : Status :=
  { s with zero := value == 0, negative := decide (128 ≤ value.toNat) }

end Status

end RasterConsole
