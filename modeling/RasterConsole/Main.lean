import RasterConsole.CommandLine
import RasterConsole.Video.Png

/-!
# The entry point

The program on the files of a computer.
-/

namespace RasterConsole

/-- Saves an image in a PNG file, or tells why it has not been saved. -/
def saveImage (file : String) (image : Image) : IO (Except String Unit) := do
  match CommandLine.imageDefect? file image with
  | some reason => return .error reason
  | none =>
    try
      IO.FS.writeBinFile file ⟨(Png.encode image).toArray⟩
      return .ok ()
    catch e => return .error (toString e)

/-- The world of a computer. -/
def computer : CommandLine.World IO where
  read file := do
    try
      return some (← IO.FS.readBinFile file).toList
    catch _ => return none
  save := saveImage
  print := IO.print
  complain := IO.eprint

end RasterConsole

open RasterConsole in
/-- The entry point of the command line. -/
def main (arguments : List String) : IO UInt32 := do
  return (← CommandLine.execute computer .standard arguments).getD 1
