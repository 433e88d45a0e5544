/-!
# Bytes and words

A word is two bytes, of which the high one names the page of an address.  Arithmetic on
both wraps around.
-/

namespace RasterConsole

/-- The word made of two bytes. -/
def wordOf (low high : UInt8) : UInt16 := high.toUInt16 * 256 + low.toUInt16

/-- The low byte of a word. -/
def lowByte (word : UInt16) : UInt8 := word.toUInt8

/-- The high byte of a word: the page of an address. -/
def highByte (word : UInt16) : UInt8 := (word / 256).toUInt8

/-- The word for a byte that counts from -128 to 127. -/
def signExtend (byte : UInt8) : UInt16 :=
  if byte < 128 then byte.toUInt16 else byte.toUInt16 + 0xFF00

/-- Whether a byte is negative when read as a signed number. -/
def isNegative (byte : UInt8) : Bool := decide (128 ≤ byte.toNat)

end RasterConsole
