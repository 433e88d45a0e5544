/-!
# Values of a TOML document

A document is a table: names with nodes.  `Node` is what a name can stand for.  Tables
come about in several ways, and it depends on the way, their `Origin`, whether later parts
of the document may still add to them.  `Members.reach` finds the place where a part of
the document adds something; `assign`, `openTable` and `openElement` are the additions.
-/

namespace RasterConsole.Toml

/-- How a table has come about. -/
inductive Origin where
  /-- By a header of its own; also the document itself. -/
  | header
  /-- On the way to a table with a longer header. -/
  | implied
  /-- On the way to a member with a dotted key. -/
  | dotted
  /-- As a value between braces, which is complete. -/
  | inline
  deriving Repr, DecidableEq

/-- What a name stands for.  Of numbers with a fraction, of dates and of times only the
kind is kept. -/
inductive Node where
  | string (text : String)
  | integer (value : Int)
  | float
  | boolean (value : Bool)
  | datetime
  | array (items : List Node)
  | table (origin : Origin) (members : List (String × Node))
  /-- An array of tables, each opened by a header with double brackets. -/
  | tables (elements : List (List (String × Node)))

/-- The contents of a table. -/
abbrev Members := List (String × Node)

/-- A dotted key: the names on the way, and the last name. -/
structure Path where
  parents : List String
  name : String
  deriving Repr, DecidableEq

/-- All names of a dotted key. -/
def Path.names (p : Path) : List String := p.parents ++ [p.name]

namespace Members

/-- The node of a name. -/
def node? (members : Members) (name : String) : Option Node :=
  match members with
  | [] => none
  | (other, node) :: rest => if other == name then some node else node? rest name

/-- The members with a new node for a name: in place of the old one, or at the end. -/
def put (members : Members) (name : String) (node : Node) : Members :=
  match members with
  | [] => [(name, node)]
  | (other, old) :: rest =>
    if other == name then (name, node) :: rest else (other, old) :: put rest name node

/-- Whether the names of a dotted key may lead through a table of this origin. -/
def allowsDotted : Origin → Bool
  | .implied | .dotted => true
  | .header | .inline => false

/-- The members after `change` has been made in the table that `names` lead to.  Tables
missing on the way are created.  The way leads into the last element of an array of
tables.  It never leads into a value, and the way of a dotted key never into a table that
a header has opened. -/
def reach (dottedKey : Bool) (change : Origin → Members → Option Members) :
    List String → Origin → Members → Option Members
  | [], origin, members => change origin members
  | name :: rest, _, members =>
    match members.node? name with
    | none => do
      let origin := if dottedKey then Origin.dotted else Origin.implied
      let inner ← reach dottedKey change rest origin []
      return members.put name (.table origin inner)
    | some (.table origin inner) =>
      if origin = .inline || (dottedKey && !allowsDotted origin) then none
      else do
        let inner ← reach dottedKey change rest origin inner
        return members.put name (.table origin inner)
    | some (.tables elements) =>
      match elements.getLast? with
      | none => none
      | some inner => do
        let inner ← reach dottedKey change rest .header inner
        return members.put name (.tables (elements.dropLast ++ [inner]))
    | some _ => none

/-- The members of a table after a line that gives a value to a key.  A name is given a
value only once, and a dotted key does not end in a table opened otherwise. -/
def assign (path : Path) (value : Node) : Origin → Members → Option Members :=
  reach true (fun origin members =>
    if (origin == .dotted) == path.parents.isEmpty then none
    else
      match members.node? path.name with
      | some _ => none
      | none => some (members.put path.name value)) path.parents

/-- The members of the document after a header that opens a table. -/
def openTable (path : Path) (document : Members) : Option Members :=
  reach false (fun _ members =>
    match members.node? path.name with
    | none => some (members.put path.name (.table .header []))
    | some (.table .implied inner) => some (members.put path.name (.table .header inner))
    | some _ => none) path.parents .header document

/-- The members of the document after a header that opens an element of an array. -/
def openElement (path : Path) (document : Members) : Option Members :=
  reach false (fun _ members =>
    match members.node? path.name with
    | none => some (members.put path.name (.tables [[]]))
    | some (.tables elements) => some (members.put path.name (.tables (elements ++ [[]])))
    | some _ => none) path.parents .header document

/-- The members of the document after a line under the header with the given names. -/
def assignUnder (header : List String) (path : Path) (value : Node) (document : Members) :
    Option Members :=
  reach false (assign path value) header .header document

/-- The members of a table between braces. -/
def ofAssignments (lines : List (Path × Node)) : Option Members :=
  lines.foldlM (fun members (path, value) => assign path value .header members) []

end Members

end RasterConsole.Toml
