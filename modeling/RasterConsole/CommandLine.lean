import RasterConsole.CommandLine.Program
import RasterConsole.Settings.Reading

/-!
# The command line

`Library.standard` reads the arguments and the TOML documents that the program takes, and
writes a report as indented JSON.  `CommandLine.run` is a call with this library in given
surroundings, together with what it leaves behind.
-/

namespace RasterConsole

namespace CommandLine

/-- The way in which arguments, settings and documents are written. -/
def Library.standard : Library where
  options? := Options.parse?
  settings? := Settings.parse?
  render := Text.Json.pretty

/-- Whether a file name ends in the extension of the one image format there is, in upper
or lower case, after at least one other character. -/
def isImageName (file : String) : Bool :=
  let name := (file.toList.reverse.takeWhile (· != '/')).map Char.toLower
  match name with
  | 'g' :: 'n' :: 'p' :: '.' :: rest => !rest.isEmpty
  | _ => false

/-- Why an image cannot be saved under a name, whatever the file. -/
def imageDefect? (file : String) (image : Image) : Option String :=
  if !isImageName file then some "the image format is unknown"
  else if image.Whole then none
  else some "the image has the wrong size"

/-- The files that a call finds, and the names under which it can write one. -/
structure Surroundings where
  file? : String → Option (List UInt8)
  canWrite : String → Bool

/-- What comes of saving an image in given surroundings. -/
def Surroundings.save (s : Surroundings) (file : String) (image : Image) :
    Except String Unit × Option Image :=
  match imageDefect? file image with
  | some reason => (.error reason, none)
  | none =>
    if s.canWrite file then (.ok (), some image)
    else (.error "the file cannot be written", none)

/-- Surroundings as a host. -/
def Surroundings.host (s : Surroundings) : Host := ⟨s.file?, s.save⟩

/-- What a call leaves behind. -/
structure Outcome where
  exitCode : Nat
  failure? : Option Failure
  output : String
  image? : Option (String × Picture)

/-- The picture that an image shows. -/
def picture (image : Image) : Picture :=
  let rec pixels (known : Array Rgba) : List UInt8 → Array Rgba
    | red :: green :: blue :: alpha :: rest => pixels (known.push ⟨red, green, blue, alpha⟩) rest
    | _ => known
  ⟨image.width.toNat, image.height.toNat, pixels #[] image.bytes⟩

/-- The outcome of a call. -/
def run [Arithmetic] (s : Surroundings) (arguments : List String) : Outcome :=
  let (result, effects) := (perform s.host.world .standard arguments).run.run []
  { exitCode := match result with
      | .ok () => 0
      | .error _ => 1
    failure? := match result with
      | .ok () => none
      | .error failure => some failure
    output := output effects
    image? := (images effects).head?.map fun (file, image) => (file, picture image) }

end CommandLine

end RasterConsole
