/-!
# Hexadecimal numbers in messages

`hexadecimal width n` writes `n` in base sixteen with upper-case digits, filled up on the
left with zeros to at least `width` digits.  No digit is lost when `n` needs more.
-/

namespace RasterConsole.Text

/-- The digits of `n` in base sixteen, most significant first. -/
def hexDigits (n : Nat) : List Char := (Nat.toDigits 16 n).map Char.toUpper

/-- `n` in base sixteen, at least `width` digits long. -/
def hexadecimal (width n : Nat) : String :=
  String.ofList ((hexDigits n).leftpad width '0')

end RasterConsole.Text
