/-!
# JSON documents

The values that a report needs, and `Json.pretty`, which spreads one over lines: every
member of an array or an object stands on a line of its own, two blanks deeper than the
bracket that holds it.  Names of members are written as they are, so they may not hold a
quote, a backslash or a control character.
-/

namespace RasterConsole.Text

/-- A value of a report. -/
inductive Json where
  | null
  | boolean (value : Bool)
  | number (value : Nat)
  | array (items : List Json)
  | object (members : List (String × Json))

namespace Json

/-- The start of a line at a depth. -/
def margin (depth : Nat) : String := String.ofList ('\n' :: List.replicate (2 * depth) ' ')

/-- Brackets around lines, which come with their margins; without lines nothing stands
between them. -/
def enclose (depth : Nat) (first last : String) (lines : List String) : String :=
  if lines.isEmpty then first ++ last
  else first ++ String.intercalate "," lines ++ margin depth ++ last

mutual

/-- The text of a value that starts at a depth. -/
def prettyAt (depth : Nat) : Json → String
  | null => "null"
  | boolean value => if value then "true" else "false"
  | number value => toString value
  | array items => enclose depth "[" "]" (itemLines (depth + 1) items)
  | object members => enclose depth "\x7b" "\x7d" (memberLines (depth + 1) members)

/-- The lines of the items of an array. -/
def itemLines (depth : Nat) : List Json → List String
  | [] => []
  | item :: rest => (margin depth ++ prettyAt depth item) :: itemLines depth rest

/-- The lines of the members of an object. -/
def memberLines (depth : Nat) : List (String × Json) → List String
  | [] => []
  | (name, value) :: rest =>
    (margin depth ++ "\"" ++ name ++ "\": " ++ prettyAt depth value) :: memberLines depth rest

end

/-- The text of a document. -/
def pretty (document : Json) : String := prettyAt 0 document

end Json

end RasterConsole.Text
