import RasterConsole.Toml.Text

/-!
# Numbers, dates and truth values

Integers in four bases, floating point numbers, dates and times with the larger parts
first, and the two truth values.
-/

namespace RasterConsole.Toml

namespace Reader

/-- The digits at the start of a text and the rest of it, where each digit may have one
underscore before it. -/
def splitDigits (isDigit : Char → Bool) (text : List Char) :
    Option (List Char × List Char) :=
  match text with
  | [] => some ([], [])
  | c :: rest =>
    if c == '_' then
      match rest with
      | d :: rest =>
        if isDigit d then
          (splitDigits isDigit rest).map fun (digits, rest) => (d :: digits, rest)
        else none
      | [] => none
    else if isDigit c then
      (splitDigits isDigit rest).map fun (digits, rest) => (c :: digits, rest)
    else some ([], c :: rest)

/-- One or more digits, with single underscores between them. -/
def digits (isDigit : Char → Bool) : Reader (List Char) := do
  let first ← oneOf isDigit
  let more : Reader (List Char) := fun _ text => splitDigits isDigit text
  return first :: (← more)

/-- The digits of a decimal integer, which starts with zero only if it is zero. -/
def decimalDigits : Reader (List Char) := do
  if ← accept ['0'] then return ['0']
  digits Char.isDigit

/-- The number that digits write in a base. -/
def valueOf (base : Nat) (digits : List Char) : Nat :=
  digits.foldl (fun value c => value * base + (hexValue? c).getD 0) 0

/-- Whether a character is a digit of a base. -/
def isDigitOf (base : Nat) (c : Char) : Bool :=
  match hexValue? c with
  | some value => value < base
  | none => false

/-- An integer, which has to fit into 64 bits with a sign. -/
def integer (value : Int) : Reader Node :=
  if -0x8000000000000000 ≤ value ∧ value < 0x8000000000000000 then return .integer value
  else failure

/-- An integer in a base other than ten, after the two characters that name the base. -/
def radixInteger (base : Nat) : Reader Node := do
  integer (Int.ofNat (valueOf base (← digits (isDigitOf base))))

/-- The smallest number that is rounded to infinity instead of a 64-bit floating point
number. -/
def floatLimit : Nat := Nat.pow 2 1024 - Nat.pow 2 970

/-- Whether `digits * 10 ^ place` is rounded to infinity.  Far from the limit the number
of digits decides, so no huge power is computed. -/
def overflows (digits : List Char) (place : Int) : Bool :=
  let significant := digits.dropWhile (· == '0')
  let value := valueOf 10 significant
  let magnitude := Int.ofNat significant.length + place
  if significant.isEmpty || magnitude < 300 then false
  else if 320 < magnitude then true
  else decide (floatLimit * Nat.pow 10 (-place).toNat ≤ value * Nat.pow 10 place.toNat)

/-- A sign, and whether it is a minus. -/
def sign : Reader (Option Bool) := do
  if ← accept ['-'] then return some true
  if ← accept ['+'] then return some false
  return none

/-- The digits after a decimal point, if there is one. -/
def fraction : Reader (Option (List Char)) := do
  if ← accept ['.'] then return some (← digits Char.isDigit) else return none

/-- The power of ten that a number is multiplied with, if one is given. -/
def exponent : Reader (Option Int) := do
  if ← acceptOne fun c => c == 'e' || c == 'E' then
    let negative := (← sign) == some true
    let power := Int.ofNat (valueOf 10 (← digits Char.isDigit))
    return some (if negative then -power else power)
  else return none

/-- A decimal number after its sign. -/
def decimalNumber (negative : Bool) : Reader Node := do
  let whole ← decimalDigits
  let fraction ← fraction
  let exponent ← exponent
  if fraction.isNone && exponent.isNone then
    let value := Int.ofNat (valueOf 10 whole)
    integer (if negative then -value else value)
  else
    let after := fraction.getD []
    let place := exponent.getD 0 - Int.ofNat after.length
    if !negative && overflows (whole ++ after) place then failure else return .float

/-- A number. -/
def number : Reader Node := do
  let found ← sign
  if ← accept ['i', 'n', 'f'] then return .float
  if ← accept ['n', 'a', 'n'] then return .float
  if found.isNone then
    if ← accept ['0', 'x'] then return ← radixInteger 16
    if ← accept ['0', 'o'] then return ← radixInteger 8
    if ← accept ['0', 'b'] then return ← radixInteger 2
  decimalNumber (found == some true)

/-- A number of exactly `count` decimal digits. -/
def fixedDigits (count : Nat) (value : Nat) : Reader Nat :=
  match count with
  | 0 => return value
  | count + 1 => do
    let c ← oneOf Char.isDigit
    fixedDigits count (value * 10 + (c.toNat - 48))

/-- A number of two decimal digits between two limits. -/
def twoDigits (low high : Nat) : Reader Nat := do
  let value ← fixedDigits 2 0
  if low ≤ value ∧ value ≤ high then return value else failure

/-- The number of days of a month. -/
def daysOf (year month : Nat) : Nat :=
  if month = 2 then
    if year % 4 = 0 ∧ (year % 100 ≠ 0 ∨ year % 400 = 0) then 29 else 28
  else if month = 4 ∨ month = 6 ∨ month = 9 ∨ month = 11 then 30
  else 31

/-- A date. -/
def date : Reader Unit := do
  let year ← fixedDigits 4 0
  expect ['-']
  let month ← twoDigits 1 12
  expect ['-']
  let _ ← twoDigits 1 (daysOf year month)

/-- A time of day. -/
def time : Reader Unit := do
  let _ ← twoDigits 0 23
  expect [':']
  let _ ← twoDigits 0 59
  expect [':']
  let _ ← twoDigits 0 60
  if ← accept ['.'] then
    let _ ← oneOf Char.isDigit
    let _ ← span Char.isDigit

/-- A distance from universal time. -/
def offset : Reader Unit := do
  unless ← acceptOne fun c => c == 'Z' || c == 'z' do
    let _ ← oneOf fun c => c == '+' || c == '-'
    let _ ← twoDigits 0 23
    expect [':']
    let _ ← twoDigits 0 59

/-- A time of day with or without its distance from universal time. -/
def offsetTime : Reader Unit := do
  time
  offset <|> pure ()

/-- A date, a time, or both. -/
def dateTime : Reader Node :=
  (do
    date
    (do
      let _ ← oneOf fun c => c == 'T' || c == 't' || c == ' '
      offsetTime) <|> pure ()
    return .datetime)
  <|> (do
    time
    return .datetime)

/-- A truth value. -/
def boolean : Reader Node := do
  if ← accept ['t', 'r', 'u', 'e'] then return .boolean true
  expect ['f', 'a', 'l', 's', 'e']
  return .boolean false

end Reader

end RasterConsole.Toml
