import RasterConsole.Arithmetic
import RasterConsole.Video.Palette
import RasterConsole.Fault

/-!
# Pictures

A picture is a rectangle of pixels, kept line after line in one array.  It starts out
transparent and is painted pixel by pixel.  `bytes` is the picture as a display takes it,
four bytes a pixel.  A `Sink` takes finished pictures; `present` hands it one after
checking that it has the size that the display expects.  An `Image` is a frame as a file
keeps it, whose sides are counted in words of 32 bits.
-/

namespace RasterConsole

open Arithmetic (keep keepPixels)

/-- A rectangle of pixels. -/
structure Picture where
  width : Nat
  height : Nat
  pixels : Array Rgba
  deriving DecidableEq, Inhabited

namespace Picture

/-- A picture that has not been painted. -/
def blank [Arithmetic] (width height : Nat) : Picture :=
  ⟨width, height, Array.replicate (keepPixels (width * height)) Rgba.transparent⟩

/-- The position of a pixel in the array. -/
def index [Arithmetic] (p : Picture) (x y : Nat) : Nat := keepPixels (y * p.width + x)

/-- Whether the array has a pixel for these coordinates. -/
def covers [Arithmetic] (p : Picture) (x y : Nat) : Bool := decide (p.index x y < p.pixels.size)

/-- The picture with one pixel painted in the color of a register value.  A pixel outside
the array is not painted. -/
def paint [Arithmetic] (p : Picture) (x y : Nat) (color : UInt8) : Picture :=
  { p with pixels := p.pixels.setIfInBounds (p.index x y) (Rgba.ofColor color) }

/-- The pixel at these coordinates, if the array has one. -/
def pixel? [Arithmetic] (p : Picture) (x y : Nat) : Option Rgba := p.pixels[p.index x y]?

/-- The pixels of one line, if the array has all of them. -/
def row? [Arithmetic] (p : Picture) (y : Nat) : Option (List Rgba) :=
  let start := keepPixels (y * p.width)
  let stop := keepPixels (y * p.width + p.width)
  if start ≤ stop ∧ stop ≤ p.pixels.size then some (p.pixels.extract start stop).toList
  else none

/-- The number of bytes of a line. -/
def pitch [Arithmetic] (p : Picture) : Nat := keep (p.width * 4)

/-- The number of bytes of the picture. -/
def byteCount (p : Picture) : Nat := p.pixels.size * 4

/-- The bytes of the picture. -/
def bytes (p : Picture) : List UInt8 := p.pixels.toList.flatMap Rgba.bytes

end Picture

/-- A finished picture on its way to a display. -/
structure Frame where
  bytes : List UInt8
  width : Nat
  height : Nat
  deriving DecidableEq

/-- A picture in a file. -/
structure Image where
  bytes : List UInt8
  width : UInt32
  height : UInt32
  deriving DecidableEq

/-- The frame as a file keeps it.  Of its sides the last 32 bits are left. -/
def Frame.image (frame : Frame) : Image where
  bytes := frame.bytes
  width := frame.width.toUInt32
  height := frame.height.toUInt32

/-- An image has sides, and as many bytes as they ask for. -/
structure Image.Whole (image : Image) : Prop where
  width_pos : 0 < image.width.toNat
  height_pos : 0 < image.height.toNat
  length_eq : image.bytes.length = image.width.toNat * image.height.toNat * 4

instance (image : Image) : Decidable image.Whole :=
  decidable_of_iff (0 < image.width.toNat ∧ 0 < image.height.toNat
      ∧ image.bytes.length = image.width.toNat * image.height.toNat * 4)
    ⟨fun ⟨hwidth, hheight, hlength⟩ => ⟨hwidth, hheight, hlength⟩,
      fun h => ⟨h.width_pos, h.height_pos, h.length_eq⟩⟩

/-- A display: it takes a frame, and answers with what it has become and whether it
could use the frame. -/
structure Sink (σ : Type) where
  take : σ → Frame → Except Fault Unit × σ

namespace Sink

/-- A display that keeps a copy of every frame. -/
def capture : Sink (Array Frame) where
  take frames frame := (.ok (), frames.push frame)

/-- A display that fails for a given reason. -/
def failing (reason : String) : Sink (Array Frame) where
  take frames _ := (.error (.display reason), frames)

end Sink

/-- Hands a frame to a display if it has as many bytes as its width and height ask for. -/
def Frame.present [Arithmetic] {σ : Type} (frame : Frame) (sink : Sink σ) (display : σ) :
    Except Fault Unit × σ :=
  let expected := keep (frame.width * frame.height * 4)
  if frame.bytes.length = expected then sink.take display frame
  else (.error (.frameSize expected frame.bytes.length), display)

end RasterConsole
