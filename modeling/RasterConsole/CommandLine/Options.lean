/-!
# Command line options

`Options.parse?` reads the arguments of the command line.  An option has the form
`--name=value` or `--name value`, where a separate value may not look like an option; after
`--` all arguments are words.  A switch takes no value, so what is attached to it counts as
a word.  There is exactly one word, the name of the program file, and no option is given
twice.
-/

namespace RasterConsole

/-- What the command line asks for. -/
structure Options where
  /-- The file with the settings. -/
  config? : Option String
  /-- The number of frames to run. -/
  frames : Nat
  /-- The number of ticks to run in place of frames. -/
  ticks? : Option Int
  /-- The load address in place of that of the settings. -/
  base? : Option UInt16
  /-- The file for the picture. -/
  output : String
  /-- Whether to print the state at the end. -/
  dumpState : Bool
  /-- The file with the program. -/
  program : String
  deriving Repr, DecidableEq

namespace Options

/-- The arguments sorted by option, with their values unread. -/
structure Given where
  config? : Option String := none
  frames? : Option String := none
  ticks? : Option String := none
  base? : Option String := none
  output? : Option String := none
  dumpState : Bool := false
  words : List String := []
  deriving Repr, DecidableEq

/-- Whether an argument looks like an option: it begins with a dash and has more to it.  A
name of one letter is ASCII if a value is attached to it, so an argument that would attach
a value to another letter is a word. -/
def isOption (argument : String) : Bool :=
  match argument.toList with
  | '-' :: c :: rest => c.toNat < 128 || !rest.contains '='
  | _ => false

/-- The name and the value, if there is one, in an option. -/
def splitOption? (argument : String) : Option (String × Option String) :=
  match argument.toList with
  | '-' :: '-' :: rest =>
    let name := String.ofList (rest.takeWhile (· != '='))
    match rest.dropWhile (· != '=') with
    | _ :: value => some (name, some (String.ofList value))
    | [] => some (name, none)
  | _ => none

/-- Records an option that takes a value. -/
def Given.set? (g : Given) (name value : String) : Option Given :=
  match name with
  | "config" => if g.config?.isSome then none else some { g with config? := some value }
  | "frames" => if g.frames?.isSome then none else some { g with frames? := some value }
  | "ticks" => if g.ticks?.isSome then none else some { g with ticks? := some value }
  | "base" => if g.base?.isSome then none else some { g with base? := some value }
  | "output" => if g.output?.isSome then none else some { g with output? := some value }
  | _ => none

/-- Sorts the arguments. -/
def collect? (g : Given) : List String → Option Given
  | [] => some g
  | argument :: rest =>
    if argument == "--" then some { g with words := g.words ++ rest }
    else if isOption argument then
      match splitOption? argument with
      | none => none
      | some ("dump-state", attached) =>
        if g.dumpState then none
        else collect? { g with dumpState := true, words := g.words ++ attached.toList } rest
      | some (name, some value) => do collect? (← g.set? name value) rest
      | some (name, none) =>
        match rest with
        | [] => none
        | value :: rest =>
          if isOption value then none else do collect? (← g.set? name value) rest
    else collect? { g with words := g.words ++ [argument] } rest

/-- The number that decimal digits write; there has to be one digit at least. -/
def digits? (text : List Char) : Option Nat :=
  if text.isEmpty || !text.all Char.isDigit then none
  else some (text.foldl (fun value c => value * 10 + (c.toNat - 48)) 0)

/-- A natural number below a limit, with or without a plus sign. -/
def natural? (limit : Nat) (text : String) : Option Nat := do
  let value ← match text.toList with
    | '+' :: rest => digits? rest
    | all => digits? all
  if value < limit then some value else none

/-- An integer of 64 bits, with or without a sign. -/
def integer? (text : String) : Option Int :=
  match text.toList with
  | '-' :: rest => do
    let value ← digits? rest
    if value ≤ 0x8000000000000000 then some (-Int.ofNat value) else none
  | _ => do
    let value ← natural? 0x8000000000000000 text
    return Int.ofNat value

/-- Reads a value if it is given. -/
def read? {α : Type} (read : String → Option α) : Option String → Option (Option α)
  | none => some none
  | some text => (read text).map some

/-- The options of a command line, unless it is malformed. -/
def parse? (arguments : List String) : Option Options := do
  let given ← collect? {} arguments
  let frames ← read? (natural? 0x100000000) given.frames?
  let ticks ← read? integer? given.ticks?
  let base ← read? (natural? 0x10000) given.base?
  match given.words with
  | [program] =>
    return {
      config? := given.config?
      frames := frames.getD 1
      ticks? := ticks
      base? := base.map Nat.toUInt16
      output := given.output?.getD "frame.png"
      dumpState := given.dumpState
      program := program }
  | _ => none

end Options

end RasterConsole
