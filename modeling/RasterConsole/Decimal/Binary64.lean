/-!
# Binary floating point numbers

`Binary64` is the number that a 64-bit floating point pattern stands for: an exact
multiple of a power of two, an infinity, or no number at all.  `ofBits` reads the
pattern: one sign bit, eleven bits of exponent, fifty-two of fraction.  Everything
later is exact arithmetic on the significand and the exponent.
-/

namespace RasterConsole

/-- The meaning of a 64-bit floating point pattern.  `finite negative m q` is `m * 2 ^ q`,
with a minus sign when `negative` holds. -/
inductive Binary64 where
  | finite (negative : Bool) (significand : Nat) (exponent : Int)
  | infinity (negative : Bool)
  | nan
  deriving Repr, DecidableEq

namespace Binary64

/-- The number of a bit pattern.  A zero exponent field marks the numbers without the
implicit leading bit, a full one the infinities and the patterns that are no number. -/
def ofBits (bits : UInt64) : Binary64 :=
  let pattern := bits.toNat
  let negative := decide (0x8000000000000000 ≤ pattern)
  let field := pattern / 0x10000000000000 % 0x800
  let fraction := pattern % 0x10000000000000
  if field = 2047 then
    if fraction = 0 then infinity negative else nan
  else if field = 0 then finite negative fraction (-1074)
  else finite negative (0x10000000000000 + fraction) (Int.ofNat field - 1075)

/-- The whole number `m * 2 ^ q`, if it is one. -/
def whole? (significand : Nat) (exponent : Int) : Option Nat :=
  match exponent with
  | .ofNat e => some (significand * Nat.pow 2 e)
  | .negSucc e =>
    if significand % Nat.pow 2 (e + 1) = 0 then some (significand / Nat.pow 2 (e + 1)) else none

end Binary64

end RasterConsole
