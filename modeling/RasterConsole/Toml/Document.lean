import RasterConsole.Toml.Scalar

/-!
# Documents

A document is a sequence of lines: headers, which open tables, and assignments, which give
a value to a key of the table opened last.  `parse?` gives the members of the document's
own table, if the text is a document.
-/

namespace RasterConsole.Toml

namespace Reader

/-- The items of an array after its opening bracket.  Line ends and comments may stand
between them, and a comma after the last. -/
def arrayItems (value : Reader Node) : Reader (List Node) := do
  gap
  if ← accept [']'] then return []
  let first ← value
  gap
  let rest ← many do
    if ← accept [']'] then return none
    expect [',']
    gap
    if (← peek?) == some ']' then return some none
    let item ← value
    gap
    return some (some item)
  return first :: rest.filterMap id

/-- A key with its value, as it stands in a table. -/
def assignment (value : Reader Node) : Reader (Path × Node) := do
  let path ← key
  expect ['=']
  blanks
  return (path, ← value)

/-- The assignments of a table after its opening brace.  They stand on one line, and no
comma stands after the last. -/
def inlineItems (value : Reader Node) : Reader (List (Path × Node)) := do
  blanks
  if ← accept ['\x7d'] then return []
  let first ← assignment value
  blanks
  let rest ← many do
    if ← accept ['\x7d'] then return none
    expect [',']
    let item ← assignment value
    blanks
    return some item
  return first :: rest

/-- The number of arrays and tables between braces that may stand in one another. -/
def nestingLimit : Nat := 79

/-- A value in which arrays and tables may stand in one another up to a depth. -/
def value (depth : Nat) : Reader Node := do
  match ← peek? with
  | none => failure
  | some c =>
    if c == doubleQuote then return .string (← anyString doubleQuote true)
    else if c == singleQuote then return .string (← anyString singleQuote false)
    else if c == 't' || c == 'f' then boolean
    else if c == '[' then
      match depth with
      | 0 => failure
      | depth + 1 =>
        expect ['[']
        return .array (← arrayItems (value depth))
    else if c == '\x7b' then
      match depth with
      | 0 => failure
      | depth + 1 =>
        expect ['\x7b']
        match Members.ofAssignments (← inlineItems (value depth)) with
        | some members => return .table .inline members
        | none => failure
    else dateTime <|> number

end Reader

/-- A line of a document. -/
inductive Line where
  | blank
  | header (path : Path)
  | elementHeader (path : Path)
  | assignment (path : Path) (value : Node)

namespace Reader

/-- The next line, or none at the end of the text. -/
def line : Reader (Option Line) := do
  blanks
  match ← peek? with
  | none => return none
  | some '[' =>
    let element ← accept ['[', '[']
    unless element do expect ['[']
    let path ← key
    expect (if element then [']', ']'] else [']'])
    lineEnd
    return some (if element then .elementHeader path else .header path)
  | some c =>
    if c == '#' || c == '\n' || c == '\r' then
      lineEnd
      return some .blank
    else
      let (path, found) ← assignment (value nestingLimit)
      lineEnd
      return some (.assignment path found)

end Reader

/-- A document as far as it has been read: its members, and the names of the header that
assignments stand under. -/
structure Draft where
  members : Members
  header : List String

/-- The document after one more line. -/
def Draft.add (d : Draft) : Line → Option Draft
  | .blank => some d
  | .header path => do return ⟨← d.members.openTable path, path.names⟩
  | .elementHeader path => do return ⟨← d.members.openElement path, path.names⟩
  | .assignment path value => do
    return { d with members := ← d.members.assignUnder d.header path value }

/-- The text without a byte order mark. -/
def withoutMark : List Char → List Char
  | [] => []
  | c :: rest => if c == '\uFEFF' then rest else c :: rest

/-- The members of the document that a text writes. -/
def parse? (text : String) : Option Members := do
  let (lines, _) ← (Reader.many Reader.line).start (withoutMark text.toList)
  let document ← lines.foldlM Draft.add ⟨[], []⟩
  return document.members

end RasterConsole.Toml
