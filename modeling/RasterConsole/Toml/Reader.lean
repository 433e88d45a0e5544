/-!
# Reading text

A `Reader` takes a piece from the front of a text and gives what the piece means, or
refuses.  Here are the readers for single characters and for what stands between the
parts of a TOML document: blanks, line ends and comments.
-/

namespace RasterConsole.Toml

/-- A function from a text to a value and the rest of the text.  It also knows a number
that is larger than the length of the text from which the reading has started. -/
abbrev Reader (α : Type) := ReaderT Nat (StateT (List Char) Option) α

namespace Reader

variable {α : Type}

/-- Reads from the start of a text. -/
def start (reader : Reader α) (text : List Char) : Option (α × List Char) :=
  reader (text.length + 1) text

/-- The next character, which stays. -/
def peek? : Reader (Option Char) := return (← get).head?

/-- The next character if it satisfies a condition. -/
def oneOf (allowed : Char → Bool) : Reader Char := fun _ text =>
  match text with
  | c :: rest => if allowed c then some (c, rest) else none
  | [] => none

/-- Takes the next character if it satisfies a condition, and tells whether it did. -/
def acceptOne (allowed : Char → Bool) : Reader Bool := fun _ text =>
  match text with
  | c :: rest => if allowed c then some (true, rest) else some (false, text)
  | [] => some (false, [])

/-- As many of the next characters as satisfy a condition. -/
def span (allowed : Char → Bool) : Reader (List Char) := fun _ text =>
  some (text.takeWhile allowed, text.dropWhile allowed)

/-- Takes the given characters if they are next, and tells whether they were. -/
def accept (expected : List Char) : Reader Bool := fun _ text =>
  if expected.isPrefixOf text then some (true, text.drop expected.length)
  else some (false, text)

/-- Takes the given characters. -/
def expect (expected : List Char) : Reader Unit := do
  unless ← accept expected do failure

/-- Repeats a reader until it has no more to give, at most `limit` times. -/
def collect (item : Reader (Option α)) (limit : Nat) (found : List α) : Reader (List α) :=
  match limit with
  | 0 => failure
  | limit + 1 => do
    match ← item with
    | some value => collect item limit (value :: found)
    | none => return found.reverse

/-- Repeats a reader until it has no more to give.  Each time it has to take at least one
character, so the length of the text is limit enough. -/
def many (item : Reader (Option α)) : Reader (List α) := do
  collect item (← read) []

/-- Blanks and tabs. -/
def isBlank (c : Char) : Bool := c == ' ' || c == '\t'

/-- Whether a character may stand in a comment or a string: all but control characters,
with the exception of the tab. -/
def isPlain (c : Char) : Bool := c == '\t' || (32 ≤ c.toNat && c.toNat != 127)

/-- Skips blanks and tabs. -/
def blanks : Reader Unit := do let _ ← span isBlank

/-- Takes a line end if it is next, and tells whether it was. -/
def newline : Reader Bool := do
  if ← accept ['\n'] then return true
  accept ['\r', '\n']

/-- Skips a comment. -/
def comment : Reader Unit := do
  if ← accept ['#'] then let _ ← span isPlain

/-- Takes the rest of a line that has nothing more to say. -/
def lineEnd : Reader Unit := do
  blanks
  comment
  unless (← get).isEmpty do
    unless ← newline do failure

/-- The text after blanks and line ends and, if they are allowed, comments.  `inComment`
tells whether a comment has started. -/
def afterGap (comments inComment : Bool) (text : List Char) : List Char :=
  match text with
  | [] => []
  | '\n' :: rest => afterGap comments false rest
  | '\r' :: '\n' :: rest => afterGap comments false rest
  | c :: rest =>
    if inComment then
      if isPlain c then afterGap comments true rest else c :: rest
    else if isBlank c then afterGap comments false rest
    else if comments && c == '#' then afterGap comments true rest
    else c :: rest

/-- Skips blanks, line ends and comments. -/
def gap : Reader Unit := modify (afterGap true false)

/-- Skips blanks and line ends. -/
def space : Reader Unit := modify (afterGap false false)

end Reader

end RasterConsole.Toml
