import RasterConsole.Video.Raster
import Mathlib.Tactic.Ring

/-!
# The clock of the raster engine

`Raster.clock` is the number of ticks since the engine was at the start of its first
frame, read off the frame counter and the beam.  A tick moves the clock on by one, so the
clock of an engine that has run `n` ticks is ahead by `n`, and column, line and frame of
the beam are the remainders and the quotient of the clock.  Ticks leave geometry and
registers alone, and running `m + n` ticks is running `m` and then `n`.
-/

namespace RasterConsole

attribute [local instance] Arithmetic.exact

namespace Geometry

/-- What validation promises about a geometry. -/
structure Valid (g : Geometry) : Prop where
  width_pos : 0 < g.visibleWidth
  height_pos : 0 < g.visibleHeight
  width_le : g.visibleWidth ≤ g.ticksPerScanline

theorem valid_of_validate {g : Geometry} (h : g.validate = .ok ()) :
  g.Valid
  := by
  unfold validate defect? at h
  split_ifs at h with hw hh ht hwt
  constructor
  · omega
  · omega
  · omega

theorem Valid.line_pos {g : Geometry} (h : g.Valid) :
  0 < g.ticksPerScanline
  := lt_of_lt_of_le h.width_pos h.width_le

theorem Valid.total_pos {g : Geometry} (h : g.Valid) :
  0 < g.totalScanlines
  := by
  have hheight := h.height_pos
  simp only [totalScanlines, Arithmetic.exact_keep]
  omega

/-- Three lines of ten ticks, all of them in the picture. -/
def small : Geometry := ⟨8, 3, 0, 0, 0, 10⟩

end Geometry

namespace Raster

/-! ### What a tick leaves alone -/

@[simp]
theorem geometry_expose [Arithmetic] (r : Raster) :
  r.expose.geometry = r.geometry
  := by
  unfold expose
  split
  · rfl
  · rfl

@[simp]
theorem registers_expose [Arithmetic] (r : Raster) :
  r.expose.registers = r.registers
  := by
  unfold expose
  split
  · rfl
  · rfl

@[simp]
theorem beam_expose [Arithmetic] (r : Raster) :
  r.expose.beam = r.beam
  := by
  unfold expose
  split
  · rfl
  · rfl

@[simp]
theorem frames_expose [Arithmetic] (r : Raster) :
  r.expose.frames = r.frames
  := by
  unfold expose
  split
  · rfl
  · rfl

@[simp]
theorem geometry_move [Arithmetic] (r : Raster) :
  r.move.geometry = r.geometry
  := by
  unfold move
  split_ifs
  · rfl
  · rfl
  · rfl

@[simp]
theorem registers_move [Arithmetic] (r : Raster) :
  r.move.registers = r.registers
  := by
  unfold move
  split_ifs
  · rfl
  · rfl
  · rfl

@[simp]
theorem picture_move [Arithmetic] (r : Raster) :
  r.move.picture = r.picture
  := by
  unfold move
  split_ifs
  · rfl
  · rfl
  · rfl

@[simp]
theorem geometry_tick [Arithmetic] (r : Raster) :
  r.tick.geometry = r.geometry
  := by
  rw [tick, geometry_move, geometry_expose]

@[simp]
theorem registers_tick [Arithmetic] (r : Raster) :
  r.tick.registers = r.registers
  := by
  rw [tick, registers_move, registers_expose]

@[simp]
theorem geometry_advance [Arithmetic] (r : Raster) (n : Nat) :
  (r.advance n).geometry = r.geometry
  := by
  induction n generalizing r with
  | zero => rfl
  | succ n ih => rw [advance, ih, geometry_tick]

@[simp]
theorem registers_advance [Arithmetic] (r : Raster) (n : Nat) :
  (r.advance n).registers = r.registers
  := by
  induction n generalizing r with
  | zero => rfl
  | succ n ih => rw [advance, ih, registers_tick]

@[simp]
theorem advance_zero [Arithmetic] (r : Raster) :
  r.advance 0 = r
  := rfl

/-- Running `m + n` ticks is running `m` ticks and then `n`. -/
theorem advance_add [Arithmetic] (r : Raster) (m n : Nat) :
  r.advance (m + n) = (r.advance m).advance n
  := by
  induction m generalizing r with
  | zero => rw [Nat.zero_add, advance_zero]
  | succ m ih => rw [Nat.succ_add, advance, advance, ih]

/-- Register writes leave everything but the registers alone. -/
theorem foldl_write (r : Raster) (ws : List RegisterWrite) :
  ws.foldl write r = { r with registers := ws.foldl RegisterFile.write r.registers }
  := by
  induction ws generalizing r with
  | nil => rfl
  | cons w ws ih =>
      rw [List.foldl_cons, ih]
      rfl

/-! ### The clock -/

/-- The beam is on the frame. -/
structure OnFrame [Arithmetic] (r : Raster) : Prop where
  column_lt : r.beam.column < r.geometry.ticksPerScanline
  scanline_lt : r.beam.scanline < r.geometry.totalScanlines

/-- The ticks since the start of the first frame. -/
def clock [Arithmetic] (r : Raster) : Nat :=
  r.frames * r.geometry.ticksPerFrame + r.beam.scanline * r.geometry.ticksPerScanline
    + r.beam.column

theorem onFrame_fresh {g : Geometry} (h : g.Valid) :
  (fresh g).OnFrame
  := ⟨h.line_pos, h.total_pos⟩

theorem OnFrame.tick {r : Raster} (h : r.OnFrame) :
  r.tick.OnFrame
  := by
  obtain ⟨hc, hs⟩ := h
  have hcolumns : 0 < r.geometry.ticksPerScanline := by omega
  have hlines : 0 < r.geometry.totalScanlines := by omega
  rw [Raster.tick]
  unfold move
  simp only [beam_expose, geometry_expose]
  split_ifs with hcolumn hline
  · exact ⟨hcolumn, hs⟩
  · exact ⟨hcolumns, hline⟩
  · exact ⟨hcolumns, hlines⟩

theorem OnFrame.advance {r : Raster} (h : r.OnFrame) (n : Nat) :
  (r.advance n).OnFrame
  := by
  induction n generalizing r with
  | zero => exact h
  | succ n ih => exact ih h.tick

/-- A tick moves the clock on by one: within a line, from line to line, and from the last
line of a frame to the first of the next. -/
theorem clock_tick {r : Raster} (h : r.OnFrame) :
  r.tick.clock = r.clock + 1
  := by
  obtain ⟨hc, hs⟩ := h
  rw [tick]
  unfold move
  simp only [beam_expose, geometry_expose]
  split_ifs with hcolumn hline
  · simp only [clock, frames_expose]
    omega
  · have hend : r.beam.column + 1 = r.geometry.ticksPerScanline := by omega
    simp only [clock, frames_expose]
    rw [Nat.add_assoc _ r.beam.column, hend]
    ring
  · have hend : r.beam.column + 1 = r.geometry.ticksPerScanline := by omega
    have hlast : r.beam.scanline + 1 = r.geometry.totalScanlines := by omega
    simp only [clock, frames_expose, Geometry.ticksPerFrame, Arithmetic.exact_keep]
    rw [Nat.add_assoc _ r.beam.column, hend, ← hlast]
    ring

theorem clock_advance {r : Raster} (h : r.OnFrame) (n : Nat) :
  (r.advance n).clock = r.clock + n
  := by
  induction n generalizing r with
  | zero => rfl
  | succ n ih =>
      rw [Raster.advance, ih h.tick, clock_tick h]
      omega

/-- The column of the beam is the remainder of the clock within a line. -/
theorem OnFrame.column_eq {r : Raster} (h : r.OnFrame) :
  r.beam.column = r.clock % r.geometry.ticksPerScanline
  := by
  have hclock : r.clock = r.beam.column + r.geometry.ticksPerScanline
      * (r.frames * r.geometry.totalScanlines + r.beam.scanline) := by
    simp only [clock, Geometry.ticksPerFrame, Arithmetic.exact_keep]
    ring
  rw [hclock, Nat.add_mul_mod_self_left, Nat.mod_eq_of_lt h.column_lt]

/-- The place of the beam within its frame is the remainder of the clock within a frame. -/
theorem OnFrame.place_eq {r : Raster} (h : r.OnFrame) :
  r.beam.scanline * r.geometry.ticksPerScanline + r.beam.column
    = r.clock % r.geometry.ticksPerFrame
  := by
  have hplace : r.beam.scanline * r.geometry.ticksPerScanline + r.beam.column
      < r.geometry.ticksPerFrame := by
    calc r.beam.scanline * r.geometry.ticksPerScanline + r.beam.column
        < (r.beam.scanline + 1) * r.geometry.ticksPerScanline := by
          rw [Nat.add_mul, Nat.one_mul]
          have hcolumn := h.column_lt
          omega
      _ ≤ r.geometry.totalScanlines * r.geometry.ticksPerScanline :=
          Nat.mul_le_mul_right _ h.scanline_lt
      _ = r.geometry.ticksPerFrame := Nat.mul_comm _ _
  have hclock : r.clock = r.beam.scanline * r.geometry.ticksPerScanline + r.beam.column
      + r.geometry.ticksPerFrame * r.frames := by
    simp only [clock]
    ring
  rw [hclock, Nat.add_mul_mod_self_left, Nat.mod_eq_of_lt hplace]

/-- The column after some ticks, counted around the line. -/
theorem column_advance {r : Raster} (h : r.OnFrame) (n : Nat) :
  (r.advance n).beam.column = (r.beam.column + n) % r.geometry.ticksPerScanline
  := by
  rw [(h.advance n).column_eq, clock_advance h, h.column_eq, geometry_advance, Nat.mod_add_mod]

/-! ### Engines in time -/

/-- Two engines have the same geometry and the beam at the same place of the same frame. -/
structure InTime (r r' : Raster) : Prop where
  geometry_eq : r'.geometry = r.geometry
  beam_eq : r'.beam = r.beam
  frames_eq : r'.frames = r.frames

theorem InTime.symm {r r' : Raster} (h : r.InTime r') :
  r'.InTime r
  := ⟨h.geometry_eq.symm, h.beam_eq.symm, h.frames_eq.symm⟩

theorem InTime.trans {r r' r'' : Raster} (h : r.InTime r') (h' : r'.InTime r'') :
  r.InTime r''
  := ⟨h'.geometry_eq.trans h.geometry_eq, h'.beam_eq.trans h.beam_eq,
    h'.frames_eq.trans h.frames_eq⟩

/-- The way of the beam does not depend on the registers. -/
theorem InTime.tick {r r' : Raster} (h : r.InTime r') :
  r.tick.InTime r'.tick
  := by
  obtain ⟨hgeometry, hbeam, hframes⟩ := h
  rw [Raster.tick, Raster.tick]
  unfold move
  simp only [beam_expose, geometry_expose, hgeometry, hbeam]
  split_ifs
  · exact ⟨by simp, rfl, by simp [hframes]⟩
  · exact ⟨by simp, rfl, by simp [hframes]⟩
  · exact ⟨by simp, rfl, by simp [hframes]⟩

theorem InTime.advance {r r' : Raster} (h : r.InTime r') (n : Nat) :
  (r.advance n).InTime (r'.advance n)
  := by
  induction n generalizing r r' with
  | zero => exact h
  | succ n ih => exact ih h.tick

theorem inTime_foldl_write (r : Raster) (ws : List RegisterWrite) :
  r.InTime (ws.foldl write r)
  := by
  rw [foldl_write]
  exact ⟨rfl, rfl, rfl⟩

theorem InTime.clock_eq {r r' : Raster} (h : r.InTime r') :
  r'.clock = r.clock
  := by
  rw [clock, clock, h.geometry_eq, h.beam_eq, h.frames_eq]

end Raster

end RasterConsole
