import RasterConsole.Toml.Node
import RasterConsole.Toml.Reader

/-!
# Strings and keys

Four kinds of string: with or without escapes, on one line or on several.  A key is one or
more names with dots between them; a name is bare or a string on one line.
-/

namespace RasterConsole.Toml

namespace Reader

/-- The quotation mark of strings with escapes. -/
def doubleQuote : Char := '\x22'

/-- The quotation mark of strings without escapes. -/
def singleQuote : Char := '\x27'

/-- The character that starts an escape. -/
def backslash : Char := '\x5c'

/-- The value of a hexadecimal digit. -/
def hexValue? (c : Char) : Option Nat :=
  if '0' ≤ c && c ≤ '9' then some (c.toNat - 48)
  else if 'A' ≤ c && c ≤ 'F' then some (c.toNat - 55)
  else if 'a' ≤ c && c ≤ 'f' then some (c.toNat - 87)
  else none

/-- The number that some hexadecimal digits write. -/
def codePoint (count : Nat) (value : Nat) : Reader Nat :=
  match count with
  | 0 => return value
  | count + 1 => do
    let c ← oneOf fun c => (hexValue? c).isSome
    codePoint count (value * 16 + (hexValue? c).getD 0)

/-- The character with a given code point, which has to be one of a character. -/
def scalar (value : Nat) : Reader Char :=
  if value.isValidChar then return Char.ofNat value else failure

/-- The character that an escape stands for. -/
def escape : Reader Char := do
  match ← oneOf fun _ => true with
  | 'b' => return '\x08'
  | 't' => return '\t'
  | 'n' => return '\n'
  | 'f' => return '\x0c'
  | 'r' => return '\r'
  | 'u' => scalar (← codePoint 4 0)
  | 'U' => scalar (← codePoint 8 0)
  | c => if c == doubleQuote || c == backslash then return c else failure

/-- A run of characters that stand for themselves. -/
def plainRun (quote : Char) (escapes : Bool) : Reader (List Char) := do
  let run ← span fun c => isPlain c && c != quote && !(escapes && c == backslash)
  if run.isEmpty then failure else return run

/-- A piece of a string on one line, or none at its closing quote. -/
def linePiece (quote : Char) (escapes : Bool) : Reader (Option (List Char)) := do
  if ← accept [quote] then return none
  if escapes then
    if ← accept [backslash] then return some [← escape]
  return some (← plainRun quote escapes)

/-- A string on one line. -/
def lineString (quote : Char) (escapes : Bool) : Reader String := do
  expect [quote]
  return String.ofList (← many (linePiece quote escapes)).flatten

/-- A piece of a string on several lines, or none at its closing quotes.  One or two
quotes stand for themselves, also right before the closing ones.  A backslash at the end
of a line swallows the blanks and line ends after it. -/
def blockPiece (quote : Char) (escapes : Bool) : Reader (Option (List Char)) := do
  let quotes := ((← get).takeWhile (· == quote)).length
  if quotes = 3 then
    expect [quote, quote, quote]
    return none
  else if 6 ≤ quotes then failure
  else if 0 < quotes then
    let text := List.replicate (if quotes < 3 then quotes else quotes - 3) quote
    expect text
    return some text
  else if ← newline then return some ['\n']
  else if escapes then
    if ← accept [backslash] then
      let rest ← get
      blanks
      if ← newline then
        space
        return some []
      set rest
      return some [← escape]
    return some (← plainRun quote escapes)
  else return some (← plainRun quote escapes)

/-- A string on several lines.  A line end right after the opening quotes is dropped. -/
def blockString (quote : Char) (escapes : Bool) : Reader String := do
  expect [quote, quote, quote]
  let _ ← newline
  return String.ofList (← many (blockPiece quote escapes)).flatten

/-- A string of either length. -/
def anyString (quote : Char) (escapes : Bool) : Reader String := do
  if [quote, quote, quote].isPrefixOf (← get) then blockString quote escapes
  else lineString quote escapes

/-- Whether a character may stand in a bare name. -/
def isBare (c : Char) : Bool := c.isAlphanum || c == '_' || c == '-'

/-- A name of a key. -/
def name : Reader String := do
  match ← peek? with
  | some c =>
    if c == doubleQuote then lineString doubleQuote true
    else if c == singleQuote then lineString singleQuote false
    else
      let bare ← span isBare
      if bare.isEmpty then failure else return String.ofList bare
  | none => failure

/-- A name with blanks around it. -/
def spacedName : Reader String := do
  blanks
  let found ← name
  blanks
  return found

/-- The number of names that a key has to stay below. -/
def keyLimit : Nat := 80

/-- A key.  After the first name there is room for all but one of the names that reach the
limit. -/
def key : Reader Path := do
  let first ← spacedName
  let more : Reader (Option String) := do
    if ← accept ['.'] then return some (← spacedName) else return none
  let names := first :: (← collect more (keyLimit - 1) [])
  return ⟨names.dropLast, names.getLastD first⟩

end Reader

end RasterConsole.Toml
