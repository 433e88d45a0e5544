import Mathlib.Data.Nat.Bitwise
import RasterConsole.Proofs.Video.Events
import RasterConsole.Proofs.Video.Exposure

/-!
# The engine in partial arithmetic

The engine is defined with operations that always have a result: a difference that would be
negative is zero, and so is a quotient by zero, and a pixel outside the picture is not painted.
Here is the same engine with operations that stop when there is no proper result: `Partial.minus`,
`Partial.quotient`, `Partial.remainder`, shifts of a byte by eight places or more, and accesses
outside a table or outside the picture.  A definition whose name ends in a question mark is the
engine on these operations, step by step; it has no value where one of them stops.

On an engine that is `Intact` none of them does (`Raster.Intact.advance?_eq`), and an engine stays
intact whatever happens to it.
-/

namespace RasterConsole

attribute [local instance] Arithmetic.exact

namespace Partial

/-- The difference of two numbers, if it is not negative. -/
def minus (n m : Nat) : Option Nat := if m ≤ n then some (n - m) else none

/-- The quotient of two numbers, if the divisor is not zero. -/
def quotient (n m : Nat) : Option Nat := if m = 0 then none else some (n / m)

/-- The remainder of a division, if the divisor is not zero. -/
def remainder (n m : Nat) : Option Nat := if m = 0 then none else some (n % m)

/-- A byte shifted left, if by fewer than eight places. -/
def shiftLeft (byte : UInt8) (places : Nat) : Option UInt8 :=
  if places < 8 then some (byte <<< places.toUInt8) else none

/-- A byte shifted right, if by fewer than eight places. -/
def shiftRight (byte : UInt8) (places : Nat) : Option UInt8 :=
  if places < 8 then some (byte >>> places.toUInt8) else none

theorem minus_of_le {n m : Nat} (h : m ≤ n) :
  minus n m = some (n - m)
  := if_pos h

theorem quotient_of_pos {m : Nat} (h : 0 < m) (n : Nat) :
  quotient n m = some (n / m)
  := if_neg (Nat.ne_of_gt h)

theorem remainder_of_pos {m : Nat} (h : 0 < m) (n : Nat) :
  remainder n m = some (n % m)
  := if_neg (Nat.ne_of_gt h)

end Partial

open Partial

namespace RegisterFile

/-- Whether a cell of the playfield is set, by a mask that is shifted to its bit. -/
def cell? (file : RegisterFile) (n : Nat) : Option Bool :=
  if n < 4 then do
    let mask ← shiftLeft 0x10 n
    return file.playfieldLeft &&& mask != 0
  else if n < 12 then do
    let mask ← shiftRight 0x80 (← minus n 4)
    return file.playfieldMiddle &&& mask != 0
  else if n < 20 then do
    let mask ← shiftLeft 0x01 (← minus n 12)
    return file.playfieldRight &&& mask != 0
  else return false

/-- A mask of one bit finds that bit. -/
theorem and_mask_ne_zero {byte mask : UInt8} {place : Nat} (h : mask.toNat = 2 ^ place) :
  (byte &&& mask != 0) = byte.toNat.testBit place
  := by
  rw [Bool.eq_iff_iff, bne_iff_ne, ne_eq, ← UInt8.toNat_inj, UInt8.toNat_and, h,
    Nat.and_two_pow]
  cases byte.toNat.testBit place with
  | false => simp
  | true => simp

/-- A bit that is shifted left stays in the byte. -/
theorem shiftLeft_bit {place n : Nat} (h : place + n < 8) :
  ∃ mask, shiftLeft (2 ^ place).toUInt8 n = some mask ∧ mask.toNat = 2 ^ (place + n)
  := by
  have hmasks : ∀ place < 8, ∀ n < 8, place + n < 8 →
      ((2 ^ place).toUInt8 <<< n.toUInt8).toNat = 2 ^ (place + n) := by decide
  refine ⟨_, if_pos (by omega), ?_⟩
  exact hmasks place (by omega) n (by omega) h

/-- The highest bit stays in the byte when it is shifted right. -/
theorem shiftRight_bit {n : Nat} (h : n < 8) :
  ∃ mask, shiftRight 0x80 n = some mask ∧ mask.toNat = 2 ^ (7 - n)
  := by
  have hmasks : ∀ n < 8, ((0x80 : UInt8) >>> n.toUInt8).toNat = 2 ^ (7 - n) := by decide
  exact ⟨_, if_pos h, hmasks n h⟩

/-- No mask is shifted too far for any cell. -/
theorem cell?_eq (file : RegisterFile) (n : Nat) :
  file.cell? n = some (file.cell n)
  := by
  unfold cell? cell
  split_ifs with hleft hmiddle hright
  · obtain ⟨mask, hmask, hbit⟩ := shiftLeft_bit (show 4 + n < 8 by omega)
    change shiftLeft 0x10 n = _ at hmask
    rw [hmask, ← and_mask_ne_zero hbit]
    rfl
  · obtain ⟨mask, hmask, hbit⟩ := shiftRight_bit (show n - 4 < 8 by omega)
    have hplace : 11 - n = 7 - (n - 4) := by omega
    rw [minus_of_le (by omega), hplace, ← and_mask_ne_zero hbit]
    change (shiftRight 0x80 (n - 4) >>= _) = _
    rw [hmask]
    rfl
  · obtain ⟨mask, hmask, hbit⟩ := shiftLeft_bit (show 0 + (n - 12) < 8 by omega)
    rw [Nat.zero_add] at hbit
    rw [minus_of_le (by omega), ← and_mask_ne_zero hbit]
    change (shiftLeft 0x01 (n - 12) >>= _) = _
    change shiftLeft 0x01 (n - 12) = _ at hmask
    rw [hmask]
    rfl
  · rfl

end RegisterFile

/-- The pixel for a color register value, if the palette has it. -/
def Rgba.ofColor? (color : UInt8) : Option Rgba := ntscPalette[color.toNat / 2]?

/-- The palette has a color for every value. -/
theorem Rgba.ofColor?_eq (color : UInt8) :
  ofColor? color = some (ofColor color)
  := by
  have hsize : ntscPalette.size = 128 := by decide +kernel
  have hcolor := color.toNat_lt
  have hlt : color.toNat / 2 < ntscPalette.size := by omega
  rw [ofColor?, ofColor, Array.getElem?_eq_getElem hlt, Array.getD_eq_getD_getElem?,
    Array.getElem?_eq_getElem hlt]
  rfl

/-- The picture with one pixel painted, if the array has it. -/
def Picture.paint? [Arithmetic] (p : Picture) (x y : Nat) (color : UInt8) : Option Picture := do
  let rgba ← Rgba.ofColor? color
  if p.covers x y then
    return { p with pixels := p.pixels.setIfInBounds (p.index x y) rgba }
  else none

theorem Picture.paint?_eq {p : Picture} {x y : Nat} (h : p.index x y < p.pixels.size)
    (color : UInt8) :
  p.paint? x y color = some (p.paint x y color)
  := by
  rw [paint?, Rgba.ofColor?_eq]
  exact if_pos (decide_eq_true h)

/-- The leading columns of every line, if the picture is no wider than a line. -/
def Geometry.hblankColumns? (g : Geometry) : Option Nat := minus g.ticksPerScanline g.visibleWidth

namespace Raster

/-- The cell of the playfield pattern that a column of the picture shows. -/
def cellOf? (g : Geometry) (file : RegisterFile) (x : Nat) : Option Nat :=
  let half := g.visibleWidth / 2
  if x < half then quotient (x * 20) (max half 1)
  else do
    let cell ← quotient ((← minus x half) * 20) (← minus g.visibleWidth half)
    if file.reflect then minus 19 cell else return cell

/-- The color register value for a column of the picture. -/
def colorOf? (g : Geometry) (file : RegisterFile) (x : Nat) : Option UInt8 := do
  let set ← file.cell? (← cellOf? g file x)
  return if set then file.playfieldColor else file.backgroundColor

/-- The engine with the next pixel painted and the next tick counted.  The pixel has to be
inside the picture. -/
def expose? (r : Raster) : Option Raster :=
  let band := r.classify r.beam.scanline
  match band with
  | .visible => do
    if (← r.geometry.hblankColumns?) ≤ r.beam.column then
      let x ← minus r.beam.column (← r.geometry.hblankColumns?)
      let y ← minus r.beam.scanline r.geometry.firstVisibleLine
      let color ← colorOf? r.geometry r.registers x
      if x < r.geometry.visibleWidth ∧ y < r.geometry.visibleHeight then
        let picture ← r.picture.paint? x y color
        return { r with picture := picture, running := r.running.count band true }
      else none
    else return { r with running := r.running.count band false }
  | _ => return { r with running := r.running.count band false }

/-- The engine after one tick. -/
def tick? (r : Raster) : Option Raster := do return (← r.expose?).move

/-- The engine after a number of ticks. -/
def advance? (r : Raster) : Nat → Option Raster
  | 0 => some r
  | n + 1 => do (← r.tick?).advance? n

/-- The number of ticks up to the start of the next line. -/
def ticksToLineEnd? (r : Raster) : Option Nat := minus r.geometry.ticksPerScanline r.beam.column

/-- The measures of the engine fit together: its geometry is a proper one, the beam is on the
frame, and the picture is of the size that the geometry asks for. -/
structure Intact (r : Raster) : Prop where
  valid : r.geometry.Valid
  onFrame : r.OnFrame
  sized : r.picture.Sized r.geometry.visibleWidth r.geometry.visibleHeight

section

variable {r : Raster}

theorem Intact.tick (h : r.Intact) :
  r.tick.Intact
  := by
  have hgeometry : r.tick.geometry = r.geometry := r.geometry_advance 1
  constructor
  · rw [hgeometry]
    exact h.valid
  · exact h.onFrame.tick
  · rw [hgeometry]
    exact sized_tick h.sized

theorem Intact.write (h : r.Intact) (w : RegisterWrite) :
  (r.write w).Intact
  := ⟨h.valid, ⟨h.onFrame.column_lt, h.onFrame.scanline_lt⟩, h.sized⟩

theorem Intact.meetAll (h : r.Intact) (events : List Event) :
  (r.meetAll events).Intact
  := by
  induction events generalizing r with
  | nil => exact h
  | cons event events ih =>
      cases event with
      | tick => exact ih h.tick
      | write w => exact ih (h.write w)

theorem intact_fresh {g : Geometry} (hg : g.Valid) :
  (fresh g).Intact
  := ⟨hg, onFrame_fresh hg, Picture.sized_blank _ _⟩

theorem Intact.advance (h : r.Intact) (n : Nat) :
  (r.advance n).Intact
  := by
  rw [← meetAll_replicate]
  apply h.meetAll

theorem Intact.perform (h : r.Intact) (operation : Operation) :
  (r.perform operation).Intact
  := by
  cases operation with
  | write w => exact h.write w
  | advance ticks => exact h.advance ticks
  | finishLine => exact h.advance r.ticksToLineEnd
  | takeReady => exact ⟨h.valid, ⟨h.onFrame.column_lt, h.onFrame.scanline_lt⟩, h.sized⟩

/-- A tick paints inside the picture or not at all. -/
theorem Intact.spot_lt (h : r.Intact) {x y : Nat} (hspot : r.spot? = some (x, y)) :
  x < r.geometry.visibleWidth ∧ y < r.geometry.visibleHeight
  := by
  obtain ⟨-, hy, hcolumn, -⟩ := (r.spot?_eq_some_iff x y).mp hspot
  have hlt := h.onFrame.column_lt
  have hwidth := h.valid.width_le
  simp only [Geometry.hblankColumns] at hcolumn
  omega

/-- The cell of a column inside the picture can be computed, also where the pattern is
reversed. -/
theorem cellOf?_eq {g : Geometry} (file : RegisterFile) {x : Nat} (hx : x < g.visibleWidth) :
  cellOf? g file x = some (cellOf g file x)
  := by
  unfold cellOf? cellOf
  simp only [Arithmetic.exact_keep]
  by_cases hleft : x < g.visibleWidth / 2
  · rw [if_pos hleft, if_pos hleft, Nat.max_eq_left (by omega), quotient_of_pos (by omega)]
  · have hrest : 0 < g.visibleWidth - g.visibleWidth / 2 := by omega
    have hcell : (x - g.visibleWidth / 2) * 20 / (g.visibleWidth - g.visibleWidth / 2) < 20 := by
      apply Nat.div_lt_of_lt_mul
      apply Nat.mul_lt_mul_of_pos_right (by omega) (by omega)
    rw [if_neg hleft, if_neg hleft, minus_of_le (by omega), minus_of_le (by omega)]
    change (quotient _ _ >>= _) = _
    rw [quotient_of_pos hrest]
    change (if file.reflect = true then minus 19 _ else some _) = _
    rw [minus_of_le (by omega), decide_eq_true hcell, Bool.and_true, apply_ite some]

theorem colorOf?_eq {g : Geometry} (file : RegisterFile) {x : Nat} (hx : x < g.visibleWidth) :
  colorOf? g file x = some (colorOf g file x)
  := by
  rw [colorOf?, cellOf?_eq file hx]
  change (file.cell? _ >>= _) = _
  rw [RegisterFile.cell?_eq]
  rfl

theorem Intact.hblankColumns?_eq (h : r.Intact) :
  r.geometry.hblankColumns? = some r.geometry.hblankColumns
  := minus_of_le h.valid.width_le

/-- A tick paints inside the picture or not at all. -/
theorem Intact.expose?_eq (h : r.Intact) :
  r.expose? = some r.expose
  := by
  unfold expose? expose spot?
  dsimp only
  cases hband : r.classify r.beam.scanline with
  | verticalSync | blank => rfl
  | visible =>
      obtain ⟨⟨hfirst, hlast⟩, -⟩ := (r.classify_eq_visible_iff _).mp hband
      have hcolumn := h.onFrame.column_lt
      have hline : r.geometry.hblankColumns + r.geometry.visibleWidth
          = r.geometry.ticksPerScanline := Nat.sub_add_cancel h.valid.width_le
      simp only [h.hblankColumns?_eq, Option.bind_eq_bind, Option.bind_some]
      split_ifs with hblank
      · have hx : r.beam.column - r.geometry.hblankColumns < r.geometry.visibleWidth := by omega
        have hy : r.beam.scanline - r.geometry.firstVisibleLine < r.geometry.visibleHeight := by
          omega
        simp only [minus_of_le hblank, minus_of_le hfirst, colorOf?_eq r.registers hx,
          Option.bind_some, if_pos (And.intro hx hy),
          Picture.paint?_eq (h.sized.index_lt hx hy)]
        rfl
      · rfl

theorem Intact.tick?_eq (h : r.Intact) :
  r.tick? = some r.tick
  := by
  rw [tick?, h.expose?_eq]
  rfl

/-- A line that is too short for the picture stops the engine. -/
example : (fresh ⟨8, 3, 0, 0, 0, 4⟩).tick? = none := by decide +kernel

/-- An intact engine runs any number of ticks, and paints only inside the picture. -/
theorem Intact.advance?_eq (h : r.Intact) (n : Nat) :
  r.advance? n = some (r.advance n)
  := by
  induction n generalizing r with
  | zero => rfl
  | succ n ih =>
      rw [advance?, h.tick?_eq]
      exact ih h.tick

theorem OnFrame.ticksToLineEnd?_eq (h : r.OnFrame) :
  r.ticksToLineEnd? = some r.ticksToLineEnd
  := minus_of_le (Nat.le_of_lt h.column_lt)

end

end Raster

end RasterConsole
