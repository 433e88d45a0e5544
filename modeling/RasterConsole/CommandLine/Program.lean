import RasterConsole.CommandLine.Options
import RasterConsole.Report
import RasterConsole.Ticks

/-!
# The program of the command line

One call reads its arguments, builds a console from settings, boots a program, runs it, hands
the picture to a display that saves it as an image, and prints the state if it is asked to.
`execute` is one call.  It is written for any `World`, which finds files, saves images and
prints, and for any `Library`, which reads arguments and settings and writes documents down.
So it runs on the files of a computer, and as well where all that it does is kept in a list.

A call stops at the first failure.  The picture is saved before anything is printed, and
nothing is saved before the run has come to its end.
-/

namespace RasterConsole

open Text (Json)

namespace CommandLine

/-- What a call needs of the world around it. -/
structure World (m : Type → Type) where
  /-- The bytes of a file, if it can be read. -/
  read : String → m (Option (List UInt8))
  /-- Saves an image in a file, or tells why it has not been saved. -/
  save : String → Image → m (Except String Unit)
  /-- Prints a text. -/
  print : String → m Unit
  /-- Prints a text where errors are expected. -/
  complain : String → m Unit

/-- What a call leaves to others: how arguments, settings and documents are written. -/
structure Library where
  /-- The options that arguments give, unless they are malformed. -/
  options? : List String → Option Options
  /-- The settings that a text gives, unless it is malformed. -/
  settings? : String → Option Settings
  /-- The text of a document. -/
  render : Json → String

/-- Why a call fails. -/
inductive Failure where
  | usage
  | missing (file : String)
  | unsaved (reason : String)
  | fault (fault : Fault)
  /-- The run goes on for longer than anyone can wait. -/
  | endless
  deriving Repr, DecidableEq

/-- The words for a failure. -/
def Failure.message : Failure → String
  | usage => "Error: the arguments are malformed"
  | missing file => "Error: reading " ++ file
  | unsaved reason => "Error: " ++ (Fault.display reason).message
  | fault cause => "Error: " ++ cause.message
  | endless => ""

/-- The text that bytes encode, if they encode one. -/
def text? (bytes : List UInt8) : Option String := String.fromUTF8? ⟨bytes.toArray⟩

section

variable {m : Type → Type} [Monad m]

/-- Makes the cause of a fault the cause of a failure. -/
def orFail {α : Type} : Except Fault α → ExceptT Failure m α
  | .ok value => pure value
  | .error fault => throw (.fault fault)

/-- The console after an operation that has not failed. -/
def proceed : Except Fault Unit × Console → ExceptT Failure m Console
  | (.ok (), console) => pure console
  | (.error fault, _) => throw (.fault fault)

/-- Whether the last run of a console has come to its end.  A run that has been given up leaves
a part of its budget. -/
def hasEnded (c : Console) : Bool := c.processor.bus.budget.isSpent

/-- The console after a run that has come to its end. -/
def finish : Except Fault Unit × Console → ExceptT Failure m Console
  | (.ok (), console) => if hasEnded console then pure console else throw .endless
  | (.error fault, _) => throw (.fault fault)

/-- The console after a number of frames. -/
def runFrames [Arithmetic] (c : Console) : Nat → ExceptT Failure m Console
  | 0 => pure c
  | n + 1 => do runFrames (← finish c.runFrame) n

/-- The console after the ticks or frames that the options ask for. -/
def runAsAsked [Arithmetic] (options : Options) (c : Console) : ExceptT Failure m Console :=
  match options.ticks? with
  | some ticks => do finish (c.runTicks (← orFail (TickRequest.signed ticks).ticks))
  | none => runFrames c options.frames

variable (w : World m)

/-- The settings in a file. -/
def loadSettings (lib : Library) (file : String) : ExceptT Failure m Settings := do
  match (← w.read file).bind text? with
  | some text => orFail (Settings.ofText lib.settings? text)
  | none => throw (.fault (.config .unreadable))

/-- The settings that the options ask for. -/
def chooseSettings (lib : Library) (options : Options) : ExceptT Failure m Settings := do
  let source ← match options.config? with
    | some file => loadSettings w lib file
    | none => pure {}
  let settings := source.rebase options.base?
  orFail settings.validate
  return settings

/-- The bytes of the program. -/
def readProgram (file : String) : ExceptT Failure m (List UInt8) := do
  match ← w.read file with
  | some bytes => return bytes
  | none => throw (.missing file)

/-- The console that has run as the options ask for. -/
def finalConsole [Arithmetic] (lib : Library) (options : Options) :
    ExceptT Failure m Console := do
  let settings ← chooseSettings w lib options
  let program ← readProgram w options.program
  let console ← orFail (Console.build settings)
  let console ← proceed (console.boot program)
  runAsAsked options console

/-- The display that saves a frame in a file.  Its state is what there is to do. -/
def imageSink (file : String) : Sink (m (Except String Unit)) where
  take _ frame := (.ok (), w.save file frame.image)

/-- Hands the picture of a console to the display that saves it. -/
def savePicture [Arithmetic] (file : String) (c : Console) : ExceptT Failure m Unit := do
  let (result, saving) := c.present (imageSink w file) (pure (.ok ()))
  orFail result
  match ← saving with
  | .ok () => return
  | .error reason => throw (.unsaved reason)

/-- Does what the arguments ask for. -/
def perform [Arithmetic] (lib : Library) (arguments : List String) : ExceptT Failure m Unit := do
  match lib.options? arguments with
  | none => throw .usage
  | some options =>
    let console ← finalConsole w lib options
    savePicture w options.output console
    if options.dumpState then w.print (lib.render console.reportDocument ++ "\n")

/-- One call with its exit code, which is missing if the call does not end. -/
def execute [Arithmetic] (lib : Library) (arguments : List String) : m (Option UInt32) := do
  match ← (perform w lib arguments).run with
  | .ok () => return some 0
  | .error .endless => return none
  | .error failure =>
    w.complain (failure.message ++ "\n")
    return some 1

end

/-! ### Calls on record -/

/-- What a call does to the world around it. -/
inductive Effect where
  | saved (file : String) (image : Image)
  | printed (text : String)
  | complained (text : String)
  deriving DecidableEq

/-- The files that a call finds, and what comes of saving an image in a file: the answer, and
the image that is there afterwards, if there is one. -/
structure Host where
  file? : String → Option (List UInt8)
  save : String → Image → Except String Unit × Option Image

/-- The world of a host, in which all effects are kept, the oldest first. -/
def Host.world (h : Host) : World (StateM (List Effect)) where
  read file := return h.file? file
  save file image := do
    let (answer, left?) := h.save file image
    modify (· ++ (left?.map (Effect.saved file)).toList)
    return answer
  print text := modify (· ++ [.printed text])
  complain text := modify (· ++ [.complained text])

/-- One call on a host: its exit code, and its effects. -/
def call [Arithmetic] (h : Host) (lib : Library) (arguments : List String) :
    Option UInt32 × List Effect :=
  (execute h.world lib arguments).run []

/-- The images among effects. -/
def images (effects : List Effect) : List (String × Image) :=
  effects.filterMap fun
    | .saved file image => some (file, image)
    | .printed _ | .complained _ => none

/-- The text that effects leave on the standard output. -/
def output (effects : List Effect) : String :=
  String.join (effects.map fun
    | .printed text => text
    | .saved _ _ | .complained _ => "")

end CommandLine

end RasterConsole
