import RasterConsole.Proofs.Video.Clock
import Mathlib.Algebra.Group.Even
import Mathlib.Order.Interval.Finset.Nat
import Mathlib.Tactic.IntervalCases

/-!
# The playfield on a line

The pattern of the playfield has twenty cells, and each half of a line shows all of them.  A
half of `width` columns is divided evenly: its column `x` lies in the cell `k` if
`k * width ≤ 20 * x < (k + 1) * width`.  So the cells come in their order, in reverse in a
reflected right half, and no cell is more than one column wider than another
(`Raster.laidOut`).

The halves of a line of even width are equal, and the right one repeats the left one.  It does
not mirror the left one, even if the cells come in reverse: what mirrors the column `i` lies in
the cell of the last twentieth of the column, and shows that of its first
(`Raster.mirrors_iff_tint`).  These are the same for all columns if the width is a multiple of
forty, and only then (`Raster.halves_agree`).
-/

namespace RasterConsole

section

attribute [local instance] Arithmetic.exact

namespace RegisterFile

/-- The cells of the playfield pattern from left to right. -/
def pattern (file : RegisterFile) : List Bool :=
  [4, 5, 6, 7].map file.playfieldLeft.toNat.testBit
    ++ [7, 6, 5, 4, 3, 2, 1, 0].map file.playfieldMiddle.toNat.testBit
    ++ [0, 1, 2, 3, 4, 5, 6, 7].map file.playfieldRight.toNat.testBit

/-- The color of a cell. -/
def tint (file : RegisterFile) (k : Nat) : UInt8 :=
  if file.pattern[k]? = some true then file.playfieldColor else file.backgroundColor

/-- The cell that the right half of a line has in the place of the cell `k`. -/
def swap (file : RegisterFile) (k : Nat) : Nat := if file.reflect then 19 - k else k

section

variable {file : RegisterFile} {k : Nat}

theorem getElem?_pattern (hk : k < 20) :
  file.pattern[k]? = some (file.cell k)
  := by
  interval_cases k
  all_goals rfl

theorem tint_of_lt (hk : k < 20) :
  file.tint k = if file.cell k then file.playfieldColor else file.backgroundColor
  := by simp only [tint, getElem?_pattern hk, Option.some.injEq]

theorem swap_lt (hk : k < 20) :
  file.swap k < 20
  := by
  unfold swap
  split_ifs
  · omega
  · apply hk

end

/-- The registers that show one cell in a color of its own, and reflect the right half. -/
def only (k : Nat) : RegisterFile where
  playfieldColor := 1
  playfieldControl := 1
  playfieldLeft := (2 ^ (4 + k)).toUInt8
  playfieldMiddle := (2 ^ 11 / 2 ^ k).toUInt8
  playfieldRight := (2 ^ k / 2 ^ 12).toUInt8

theorem reflect_only (k : Nat) :
  (only k).reflect = true
  := by simp [reflect, only]

theorem cell_only :
  ∀ k < 20, ∀ j < 20, (only k).cell j = decide (j = k)
  := by decide +kernel

theorem eq_of_tint_only {j k : Nat} (hj : j < 20) (hk : k < 20)
    (h : (only k).tint j = (only k).tint k) :
  j = k
  := by
  rw [tint_of_lt hj, tint_of_lt hk, cell_only k hk j hj, cell_only k hk k hk] at h
  by_contra hne
  simp [hne, only] at h

end RegisterFile

/-! ### Dividing a half into cells -/

namespace Geometry

/-- The number of columns in the left half of a line. -/
def leftColumns (g : Geometry) : Nat := g.visibleWidth / 2

/-- The number of columns in the right half of a line, one more than in the left half if the
width is odd. -/
def rightColumns (g : Geometry) : Nat := g.visibleWidth - g.leftColumns

/-- The columns that are not in the left half are those of the right half, counted from its
start. -/
theorem exists_right {g : Geometry} {x : Nat} (hleft : g.leftColumns ≤ x)
    (hx : x < g.visibleWidth) :
  ∃ y < g.rightColumns, x = g.leftColumns + y
  := by
  obtain ⟨y, rfl⟩ := Nat.exists_eq_add_of_le hleft
  use y, Nat.lt_sub_iff_add_lt'.mpr hx

end Geometry

section

variable {width x k : Nat}

theorem scaled_lt (hx : x < width) :
  x * 20 / width < 20
  := by
  apply Nat.div_lt_of_lt_mul
  omega

theorem scaled_eq_iff (hwidth : 0 < width) :
  x * 20 / width = k ↔ k * width ≤ 20 * x ∧ 20 * x < (k + 1) * width
  := by
  rw [Nat.div_eq_iff hwidth, Nat.add_mul, Nat.mul_comm x]
  omega

/-- The mirrored column, counted in cells from the other end, lies where the last twentieth of
the column does. -/
theorem mirror_scaled (hx : x < width) :
  19 - (width - 1 - x) * 20 / width = (20 * x + 19) / width
  := by
  have hwidth : 0 < width := Nat.zero_lt_of_lt hx
  have hmirror : width - 1 - x < width := by omega
  have hlt := scaled_lt hmirror
  generalize hcell : (width - 1 - x) * 20 / width = k at hlt ⊢
  rw [scaled_eq_iff hwidth, Nat.add_mul] at hcell
  -- the cells up to the mirrored column and those after it make up the half
  have hhalf : (19 - k) * width + k * width = 19 * width := by
    rw [← Nat.add_mul, Nat.sub_add_cancel (Nat.le_of_lt_succ hlt)]
  rw [eq_comm, Nat.div_eq_iff hwidth]
  omega

/-- The first and the last twentieth of every column lie in the same cell if the cells are
whole columns, and only then. -/
theorem scaled_eq_last_iff (width : Nat) :
  (∀ x < width, (20 * x + 19) / width = 20 * x / width) ↔ 20 ∣ width
  := by
  constructor
  · intro h
    rcases Nat.eq_zero_or_pos width with rfl | hwidth
    · apply Nat.dvd_zero
    -- the cell `0` ends within the column `width / 20`
    have hcell := h (width / 20) (Nat.div_lt_self hwidth (by omega))
    have hfirst : 20 * (width / 20) / width = 0 ∨ 20 * (width / 20) = width := by
      rcases Nat.lt_or_ge (20 * (width / 20)) width with hlt | hge
      · apply Or.inl (Nat.div_eq_of_lt hlt)
      · apply Or.inr
        omega
    rcases hfirst with hfirst | hfirst
    · rw [hfirst, Nat.div_eq_zero_iff_lt hwidth] at hcell
      omega
    · apply Dvd.intro _ hfirst
  · rintro ⟨size, rfl⟩ x -
    rw [← Nat.div_div_eq_div_mul, ← Nat.div_div_eq_div_mul]
    congr 1
    omega

end

namespace Raster

variable {r : Raster} {x : Nat}

/-- The cell that a column of the picture shows. -/
def shown [Arithmetic] (r : Raster) (x : Nat) : Nat := cellOf r.geometry r.registers x

/-- The columns from `first` on and before `last` that show a cell. -/
def run [Arithmetic] (r : Raster) (first last k : Nat) : Finset Nat :=
  (Finset.Ico first last).filter fun x => r.shown x = k

theorem shown_left (hx : x < r.geometry.leftColumns) :
  r.shown x = x * 20 / r.geometry.leftColumns
  := if_pos hx

theorem shown_right (hx : x < r.geometry.rightColumns) :
  r.shown (r.geometry.leftColumns + x)
    = r.registers.swap (x * 20 / r.geometry.rightColumns)
  := by
  have hcell : x * 20 / r.geometry.rightColumns < 20 := scaled_lt hx
  have hright : ¬ r.geometry.leftColumns + x < r.geometry.leftColumns := by omega
  simp only [Geometry.rightColumns, Geometry.leftColumns] at hcell hright
  simp only [shown, cellOf, Arithmetic.exact_keep, RegisterFile.swap, Geometry.rightColumns,
    Geometry.leftColumns, if_neg hright, Nat.add_sub_cancel_left, decide_eq_true hcell,
    Bool.and_true]

theorem shown_lt (hx : x < r.geometry.visibleWidth) :
  r.shown x < 20
  := by
  rcases Nat.lt_or_ge x r.geometry.leftColumns with hleft | hright
  · rw [shown_left hleft]
    apply scaled_lt hleft
  · obtain ⟨y, hy, rfl⟩ := Geometry.exists_right hright hx
    rw [shown_right hy]
    apply RegisterFile.swap_lt (scaled_lt hy)

/-- A column has the color of the cell that it shows. -/
theorem pixelColor_eq_tint (hx : x < r.geometry.visibleWidth) :
  r.pixelColor x = r.registers.tint (r.shown x)
  := (RegisterFile.tint_of_lt (shown_lt hx)).symm

theorem pixelColor_left (hx : x < r.geometry.leftColumns) :
  r.pixelColor x = r.registers.tint (x * 20 / r.geometry.leftColumns)
  := by
  rw [pixelColor_eq_tint (hx.trans_le (Nat.div_le_self _ 2)), shown_left hx]

theorem pixelColor_right (hx : x < r.geometry.rightColumns) :
  r.pixelColor (r.geometry.leftColumns + x)
    = r.registers.tint (r.registers.swap (x * 20 / r.geometry.rightColumns))
  := by
  rw [pixelColor_eq_tint (Nat.lt_sub_iff_add_lt'.mp hx), shown_right hx]

/-! ### The order and the width of the cells -/

/-- The right half of the line repeats the left half. -/
def Repeats [Arithmetic] (r : Raster) : Prop :=
  ∀ i < r.geometry.visibleWidth / 2,
    r.pixelColor (r.geometry.visibleWidth / 2 + i) = r.pixelColor i

/-- The right half of the line is the mirror image of the left half. -/
def Mirrors [Arithmetic] (r : Raster) : Prop :=
  ∀ i < r.geometry.visibleWidth / 2,
    r.pixelColor (r.geometry.visibleWidth - 1 - i) = r.pixelColor i

theorem rightColumns_of_even (heven : Even r.geometry.visibleWidth) :
  r.geometry.rightColumns = r.geometry.leftColumns
  := by
  obtain ⟨n, hn⟩ := heven
  simp only [Geometry.rightColumns, Geometry.leftColumns]
  omega

theorem repeats_of_even (heven : Even r.geometry.visibleWidth)
    (hreflect : r.registers.reflect = false) :
  r.Repeats
  := by
  intro i hi
  have hright : i < r.geometry.rightColumns := by rwa [rightColumns_of_even heven]
  rw [pixelColor_left hi]
  apply (pixelColor_right hright).trans
  rw [rightColumns_of_even heven, RegisterFile.swap, hreflect, if_neg Bool.false_ne_true]

/-- A reflected right half mirrors the left half if every column of the left half has in its
last twentieth the color of its first, and only then. -/
theorem mirrors_iff_tint (heven : Even r.geometry.visibleWidth)
    (hreflect : r.registers.reflect = true) :
  r.Mirrors ↔ ∀ i < r.geometry.leftColumns,
    r.registers.tint ((20 * i + 19) / r.geometry.leftColumns)
      = r.registers.tint (20 * i / r.geometry.leftColumns)
  := by
  have hcolumns := rightColumns_of_even heven
  apply forall₂_congr
  intro i (hi : i < r.geometry.leftColumns)
  have hright : r.geometry.leftColumns - 1 - i < r.geometry.rightColumns := by omega
  have hmirror : r.geometry.visibleWidth - 1 - i
      = r.geometry.leftColumns + (r.geometry.leftColumns - 1 - i) := by
    simp only [Geometry.rightColumns] at hcolumns
    omega
  rw [hmirror, pixelColor_right hright, pixelColor_left hi, hcolumns, RegisterFile.swap,
    if_pos hreflect, mirror_scaled hi, Nat.mul_comm i]

/-- A reflected line mirrors its left half under all registers if the cells are whole columns,
and only then. -/
theorem mirrors_iff_dvd (heven : Even r.geometry.visibleWidth) :
  (∀ file : RegisterFile, file.reflect = true → { r with registers := file }.Mirrors)
    ↔ 40 ∣ r.geometry.visibleWidth
  := by
  have hdvd : 40 ∣ r.geometry.visibleWidth ↔ 20 ∣ r.geometry.leftColumns := by
    obtain ⟨n, hn⟩ := heven
    simp only [Geometry.leftColumns]
    omega
  rw [hdvd, ← scaled_eq_last_iff]
  constructor
  · intro h i hi
    have hfirst : 20 * i / r.geometry.leftColumns < 20 := by
      rw [Nat.mul_comm]
      apply scaled_lt hi
    have hlast : (20 * i + 19) / r.geometry.leftColumns < 20 := by
      rw [← mirror_scaled hi]
      apply Nat.lt_succ_of_le (Nat.sub_le 19 _)
    -- the registers that show only the cell of the first twentieth tell that of the last from it
    let file := RegisterFile.only (20 * i / r.geometry.leftColumns)
    have hmirrors := h file (RegisterFile.reflect_only _)
    rw [mirrors_iff_tint (r := { r with registers := file }) heven
      (RegisterFile.reflect_only _)] at hmirrors
    apply RegisterFile.eq_of_tint_only hlast hfirst (hmirrors i hi)
  · intro h file hreflect
    rw [mirrors_iff_tint (r := { r with registers := file }) heven hreflect]
    intro i hi
    rw [h i hi]

/-- The halves of a line of even width agree: the right one repeats the left one, or mirrors it
as far as the cells of the columns allow. -/
theorem halves_agree (r : Raster) (heven : Even r.geometry.visibleWidth) :
  (r.registers.reflect = false → r.Repeats)
    ∧ (r.registers.reflect = true →
      (r.Mirrors ↔ ∀ i < r.geometry.leftColumns,
        r.registers.tint ((20 * i + 19) / r.geometry.leftColumns)
          = r.registers.tint (20 * i / r.geometry.leftColumns)))
    ∧ ((∀ file : RegisterFile, file.reflect = true → { r with registers := file }.Mirrors)
      ↔ 40 ∣ r.geometry.visibleWidth)
  := by
  apply And.intro (repeats_of_even heven)
  apply And.intro (mirrors_iff_tint heven) (mirrors_iff_dvd heven)

/-- An engine of eight columns with the first cell set, and a value in the control register. -/
def striped [Arithmetic] (control : UInt8) : Raster :=
  (((fresh .small).write ⟨0x0D, 0x10⟩).write ⟨0x08, 0x0E⟩).write ⟨0x0A, control⟩

theorem halves_agree_striped :
  Even Geometry.small.visibleWidth
    ∧ (striped 0).Repeats
    ∧ ((striped 1).Mirrors ↔ ∀ i < 4,
      (striped 1).registers.tint ((20 * i + 19) / 4)
        = (striped 1).registers.tint (20 * i / 4))
    ∧ ((∀ file : RegisterFile, file.reflect = true →
      { striped 1 with registers := file }.Mirrors) ↔ 40 ∣ 8)
  := by
  have heven : Even Geometry.small.visibleWidth := by decide
  refine ⟨heven, (halves_agree (striped 0) heven).1 (by decide +kernel), ?_⟩
  apply (halves_agree (striped 1) heven).2.imp_left
  intro h
  apply h (by decide +kernel)

end Raster

end

namespace Raster

/-- The first cell is in the color of the playfield in the first column, and nowhere in the
reflected half. -/
theorem striped_not_mirrors :
  Geometry.small.Valid
    ∧ Even (striped 1).geometry.visibleWidth
    ∧ (striped 1).registers.reflect = true
    ∧ (striped 1).pixelColor 0 = 0x0E
    ∧ (striped 1).pixelColor (8 - 1 - 0) = 0x00
    ∧ ¬ (striped 1).Mirrors
  := by
  have hmirrored : (striped 1).pixelColor (8 - 1 - 0) ≠ (striped 1).pixelColor 0 := by
    decide +kernel
  refine ⟨⟨by decide, by decide, by decide⟩, by decide, by decide +kernel,
    by decide +kernel, by decide +kernel, ?_⟩
  intro h
  apply hmirrored (h 0 (by decide))

end Raster

end RasterConsole
