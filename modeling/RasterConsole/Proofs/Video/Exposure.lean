import RasterConsole.Proofs.Video.Clock

/-!
# What the picture shows

Every pixel of the picture shows the color that the registers gave it at the latest tick
that painted it, or is still transparent (`Raster.pixel_shows`).  Which registers were in
force at which tick is the `Timeline` of the operations on the engine, which knows nothing
of beam and picture; which ticks paint a pixel is a matter of counting (`Paints`).
-/

namespace RasterConsole

attribute [local instance] Arithmetic.exact

/-! ### Pictures -/

/-- A number counts rows of equal length and a place in the next one in one way only. -/
theorem row_place_inj {length row place row' place' : Nat} (h : place < length)
    (h' : place' < length) :
  row * length + place = row' * length + place' ↔ row = row' ∧ place = place'
  := by
  have hpos : 0 < length := Nat.lt_of_le_of_lt (Nat.zero_le _) h
  have hdiv : ∀ {row place}, place < length → (row * length + place) / length = row := by
    intro row place hplace
    rw [Nat.mul_comm, Nat.mul_add_div hpos, Nat.div_eq_of_lt hplace, Nat.add_zero]
  constructor
  · intro heq
    have hrow : row = row' := by
      calc row
          = (row * length + place) / length := (hdiv h).symm
        _ = (row' * length + place') / length := by rw [heq]
        _ = row' := hdiv h'
    subst hrow
    exact ⟨rfl, Nat.add_left_cancel heq⟩
  · rintro ⟨rfl, rfl⟩
    rfl

namespace Picture

/-- The picture has as many pixels as its width and height ask for. -/
structure Sized (width height : Nat) (p : Picture) : Prop where
  width_eq : p.width = width
  size_eq : p.pixels.size = width * height

theorem sized_blank (width height : Nat) :
  (blank width height).Sized width height
  := ⟨rfl, Array.size_replicate.trans (Arithmetic.exact_keepPixels _)⟩

theorem Sized.index_lt {width height x y : Nat} {p : Picture} (h : p.Sized width height)
    (hx : x < width) (hy : y < height) :
  p.index x y < p.pixels.size
  := by
  rw [index, Arithmetic.exact_keepPixels, h.width_eq, h.size_eq]
  calc y * width + x
      < y * width + width := by omega
    _ = (y + 1) * width := by rw [Nat.add_mul, Nat.one_mul]
    _ ≤ height * width := Nat.mul_le_mul_right _ hy
    _ = width * height := Nat.mul_comm _ _

theorem Sized.paint {width height : Nat} {p : Picture} (h : p.Sized width height) (x y : Nat)
    (color : UInt8) :
  (p.paint x y color).Sized width height
  := ⟨h.width_eq, Array.size_setIfInBounds.trans h.size_eq⟩

/-- A pixel shows what has been painted on it, and no more. -/
theorem Sized.pixel?_paint {width height x y x' y' : Nat} {p : Picture}
    (h : p.Sized width height) (hx : x < width) (hy : y < height) (hx' : x' < width)
    (color : UInt8) :
  (p.paint x' y' color).pixel? x y
    = if y' = y ∧ x' = x then some (Rgba.ofColor color) else p.pixel? x y
  := by
  have hlt := h.index_lt hx hy
  have hindex : p.index x' y' = p.index x y ↔ y' = y ∧ x' = x := by
    simp only [index, Arithmetic.exact_keepPixels, h.width_eq]
    apply row_place_inj hx' hx
  change (p.pixels.setIfInBounds (p.index x' y') (Rgba.ofColor color))[p.index x y]? = _
  split_ifs with hhere
  · rw [hindex.mpr hhere]
    apply Array.getElem?_setIfInBounds_self_of_lt hlt
  · apply Array.getElem?_setIfInBounds_ne
    rw [Ne, hindex]
    apply hhere

end Picture

/-! ### Operations -/

/-- What can be done to an engine. -/
inductive Raster.Operation where
  | write (w : RegisterWrite)
  | advance (ticks : Nat)
  | finishLine
  | takeReady
  deriving Repr, DecidableEq

/-- The engine after an operation. -/
def Raster.perform [Arithmetic] (r : Raster) : Operation → Raster
  | .write w => r.write w
  | .advance ticks => r.advance ticks
  | .finishLine => r.finishLine.2
  | .takeReady => r.takeReady.2

/-- The engine after one operation after the other. -/
def Raster.performAll [Arithmetic] (r : Raster) (operations : List Operation) : Raster :=
  operations.foldl perform r

/-- The registers that were in force at each tick so far, and those that will be at the
next. -/
structure Timeline where
  past : List RegisterFile := []
  current : RegisterFile := {}

namespace Timeline

/-- The timeline after a number of ticks. -/
def run (t : Timeline) (ticks : Nat) : Timeline :=
  { t with past := t.past ++ List.replicate ticks t.current }

/-- The timeline after an operation on an engine whose lines have `length` ticks. -/
def perform (length : Nat) (t : Timeline) : Raster.Operation → Timeline
  | .write w => { t with current := t.current.write w }
  | .advance ticks => t.run ticks
  | .finishLine => t.run (length - t.past.length % length)
  | .takeReady => t

/-- The timeline of operations on a new engine. -/
def of (length : Nat) (operations : List Raster.Operation) : Timeline :=
  operations.foldl (perform length) {}

theorem run_succ (t : Timeline) (ticks : Nat) :
  t.run (ticks + 1) = (t.run 1).run ticks
  := by
  simp only [run, List.append_assoc, List.replicate_append_replicate, Nat.add_comm ticks 1]

end Timeline

/-! ### Exposure -/

/-- A tick paints a pixel if it is the one in its frame at which the beam is there, and if
the registers do not blank the picture. -/
def Paints [Arithmetic] (g : Geometry) (x y tick : Nat) (file : RegisterFile) : Prop :=
  tick % g.ticksPerFrame
      = (g.firstVisibleLine + y) * g.ticksPerScanline + g.hblankColumns + x
    ∧ file.blankActive = false

/-- The color that a pixel has after the ticks of the past: that of the latest tick which
painted it, under the registers of that tick. -/
inductive Shows [Arithmetic] (g : Geometry) (past : List RegisterFile) (x y : Nat) : Rgba → Prop
  | painted {tick : Nat} {file : RegisterFile} (hfile : past[tick]? = some file)
      (hpaints : Paints g x y tick file)
      (hlatest : ∀ later file', tick < later → past[later]? = some file' →
        ¬ Paints g x y later file') :
    Shows g past x y (.ofColor (Raster.colorOf g file x))
  | untouched (hnever : ∀ tick file, past[tick]? = some file → ¬ Paints g x y tick file) :
    Shows g past x y .transparent

section

variable {g : Geometry} {past : List RegisterFile} {x y : Nat} {file : RegisterFile}

/-- A tick that paints the pixel decides its color. -/
theorem shows_append_of_paints (h : Paints g x y past.length file) :
  Shows g (past ++ [file]) x y (.ofColor (Raster.colorOf g file x))
  := by
  apply Shows.painted _ h
  · intro later file' hlater hfile'
    have hlength := (List.getElem?_eq_some_iff.mp hfile').1
    rw [List.length_append, List.length_singleton] at hlength
    omega
  · apply List.getElem?_concat_length

/-- The ticks after one more tick are those before it and the one. -/
theorem getElem?_append_singleton {tick : Nat} {file' : RegisterFile}
    (h : (past ++ [file])[tick]? = some file') :
  past[tick]? = some file' ∨ tick = past.length ∧ file' = file
  := by
  rw [List.getElem?_append] at h
  split_ifs at h with hlt
  · exact .inl h
  · right
    obtain ⟨hone, hfile⟩ := List.getElem?_eq_some_iff.mp h
    rw [List.length_singleton] at hone
    rw [List.getElem_singleton] at hfile
    exact ⟨by omega, hfile.symm⟩

/-- A tick that does not paint the pixel leaves its color alone. -/
theorem Shows.append {color : Rgba} (h : Shows g past x y color)
    (hnot : ¬ Paints g x y past.length file) :
  Shows g (past ++ [file]) x y color
  := by
  cases h with
  | painted hfile hpaints hlatest =>
      have hlt := (List.getElem?_eq_some_iff.mp hfile).1
      apply Shows.painted _ hpaints
      · intro later file' hlater hfile'
        rcases getElem?_append_singleton hfile' with hbefore | ⟨rfl, rfl⟩
        · apply hlatest later file' hlater hbefore
        · apply hnot
      · rw [List.getElem?_append_left hlt]
        apply hfile
  | untouched hnever =>
      apply Shows.untouched
      intro tick file' hfile'
      rcases getElem?_append_singleton hfile' with hbefore | ⟨rfl, rfl⟩
      · apply hnever tick file' hbefore
      · apply hnot

end

namespace Raster

/-! ### The tick that paints a pixel -/

/-- The column of the beam that paints a pixel lies on the line. -/
theorem hblankColumns_add_lt {g : Geometry} (hg : g.Valid) {x : Nat} (hx : x < g.visibleWidth) :
  g.hblankColumns + x < g.ticksPerScanline
  := by
  have hwidth := hg.width_le
  simp only [Geometry.hblankColumns]
  omega

/-- The lines of the picture come after those of vertical sync. -/
theorem classify_eq_visible_iff (r : Raster) (scanline : Nat) :
  r.classify scanline = .visible ↔
    (r.geometry.firstVisibleLine ≤ scanline
      ∧ scanline < r.geometry.firstVisibleLine + r.geometry.visibleHeight)
    ∧ r.registers.blankActive = false
  := by
  have hsync : r.geometry.vsyncLines ≤ r.geometry.firstVisibleLine := Nat.le_add_right _ _
  unfold classify bandOf
  simp only [Arithmetic.exact_keep]
  split_ifs with hband hblank
  · simp only [Bool.and_eq_true, decide_eq_true_eq] at hband
    simp only [false_iff]
    omega
  · simp only [Bool.or_eq_true, decide_eq_true_eq] at hblank
    simp only [false_iff, not_and, Bool.not_eq_false]
    intro hline
    rcases hblank with hline' | hblank
    · omega
    · apply hblank
  · simp only [Bool.or_eq_true, decide_eq_true_eq, not_or, Bool.not_eq_true] at hblank
    obtain ⟨⟨hfirst, hlast⟩, hblank⟩ := hblank
    simp only [true_iff]
    exact ⟨⟨by omega, by omega⟩, hblank⟩

/-- The next tick paints a pixel if the beam is there and the picture is not blanked. -/
theorem spot?_eq_some_iff (r : Raster) (x y : Nat) :
  r.spot? = some (x, y) ↔
    r.beam.scanline = r.geometry.firstVisibleLine + y ∧ y < r.geometry.visibleHeight
    ∧ r.beam.column = r.geometry.hblankColumns + x ∧ r.registers.blankActive = false
  := by
  unfold spot?
  split
  · rename_i hband
    obtain ⟨⟨hfirst, hlast⟩, hblank⟩ := (r.classify_eq_visible_iff _).mp hband
    split_ifs with hcolumn
    · rw [Option.some.injEq, Prod.mk.injEq]
      constructor
      · rintro ⟨rfl, rfl⟩
        exact ⟨by omega, by omega, by omega, hblank⟩
      · rintro ⟨hline, -, hplace, -⟩
        exact ⟨by omega, by omega⟩
    · simp only [false_iff]
      rintro ⟨-, -, hplace, -⟩
      omega
  · rename_i hband
    constructor
    · intro h
      cases h
    · rintro ⟨hline, hy, -, hblank⟩
      have hvisible := (r.classify_eq_visible_iff r.beam.scanline).mpr
        ⟨⟨by omega, by omega⟩, hblank⟩
      apply absurd hvisible hband

/-- The next tick paints a pixel if the clock says so. -/
theorem OnFrame.spot?_eq_iff {r : Raster} (h : r.OnFrame) (hg : r.geometry.Valid) {x y : Nat}
    (hx : x < r.geometry.visibleWidth) (hy : y < r.geometry.visibleHeight) :
  r.spot? = some (x, y) ↔ Paints r.geometry x y r.clock r.registers
  := by
  have hplace : r.beam.scanline * r.geometry.ticksPerScanline + r.beam.column
      = (r.geometry.firstVisibleLine + y) * r.geometry.ticksPerScanline
        + (r.geometry.hblankColumns + x)
      ↔ r.beam.scanline = r.geometry.firstVisibleLine + y
        ∧ r.beam.column = r.geometry.hblankColumns + x :=
    row_place_inj h.column_lt (hblankColumns_add_lt hg hx)
  rw [spot?_eq_some_iff, Paints, ← h.place_eq, Nat.add_assoc _ r.geometry.hblankColumns, hplace]
  constructor
  · rintro ⟨hline, -, hcolumn, hblank⟩
    exact ⟨⟨hline, hcolumn⟩, hblank⟩
  · rintro ⟨⟨hline, hcolumn⟩, hblank⟩
    exact ⟨hline, hy, hcolumn, hblank⟩

/-- A tick paints its own pixel and leaves all others alone. -/
theorem pixel?_tick {r : Raster} {x y : Nat}
    (hsized : r.picture.Sized r.geometry.visibleWidth r.geometry.visibleHeight)
    (h : r.OnFrame) (hg : r.geometry.Valid) (hx : x < r.geometry.visibleWidth)
    (hy : y < r.geometry.visibleHeight) :
  r.tick.picture.pixel? x y
    = if r.spot? = some (x, y) then some (Rgba.ofColor (r.pixelColor x))
      else r.picture.pixel? x y
  := by
  rw [tick, picture_move]
  unfold expose
  split
  · rename_i x' y' hspot
    obtain ⟨-, -, hcolumn, -⟩ := (r.spot?_eq_some_iff x' y').mp hspot
    have hx' : x' < r.geometry.visibleWidth := by
      have hlt := h.column_lt
      have hwidth := hg.width_le
      simp only [Geometry.hblankColumns] at hcolumn
      omega
    rw [hspot]
    dsimp only
    rw [hsized.pixel?_paint hx hy hx']
    by_cases hhere : y' = y ∧ x' = x
    · obtain ⟨rfl, rfl⟩ := hhere
      rw [if_pos ⟨rfl, rfl⟩, if_pos rfl]
    · rw [if_neg hhere, if_neg]
      intro hspot'
      cases hspot'
      apply hhere ⟨rfl, rfl⟩
  · rename_i hspot
    rw [hspot]
    rfl

/-- A tick paints nothing in vertical sync, in blanking and in the leading columns of a
line. -/
theorem picture_tick_of_dark {r : Raster}
    (h : r.classify r.beam.scanline ≠ .visible ∨ r.beam.column < r.geometry.hblankColumns) :
  r.tick.picture = r.picture
  := by
  rw [tick, picture_move]
  unfold expose
  split
  · rename_i x y hspot
    obtain ⟨hline, hy, hcolumn, hblank⟩ := (r.spot?_eq_some_iff x y).mp hspot
    rcases h with hband | hleading
    · rw [Ne, classify_eq_visible_iff] at hband
      apply absurd ⟨⟨by omega, by omega⟩, hblank⟩ hband
    · omega
  · rfl

theorem sized_tick {r : Raster} {width height : Nat} (h : r.picture.Sized width height) :
  r.tick.picture.Sized width height
  := by
  rw [tick, picture_move]
  unfold expose
  split
  · apply h.paint _ _ _
  · apply h

/-! ### The record of a run -/

/-- The timeline tells the registers of the engine and how long it has run, and the picture
shows what the timeline says. -/
structure Recorded [Arithmetic] (g : Geometry) (t : Timeline) (r : Raster) : Prop where
  geometry_eq : r.geometry = g
  onFrame : r.OnFrame
  registers_eq : r.registers = t.current
  clock_eq : r.clock = t.past.length
  sized : r.picture.Sized g.visibleWidth g.visibleHeight
  shows : ∀ x y, x < g.visibleWidth → y < g.visibleHeight →
    ∃ color, r.picture.pixel? x y = some color ∧ Shows g t.past x y color

section

variable {g : Geometry} {t : Timeline} {r : Raster}

/-- A tick enters the registers that were in force into the record. -/
theorem Recorded.tick (hg : g.Valid) (h : Recorded g t r) :
  Recorded g (t.run 1) r.tick
  := by
  obtain ⟨rfl, honFrame, hregisters, hclock, hsized, hshows⟩ := h
  constructor
  · apply geometry_tick
  · apply honFrame.tick
  · rw [registers_tick, hregisters]
    rfl
  · rw [clock_tick honFrame, hclock, Timeline.run, List.length_append, List.length_replicate]
  · apply sized_tick hsized
  · intro x y hx hy
    have hpaints := honFrame.spot?_eq_iff hg hx hy
    rw [pixel?_tick hsized honFrame hg hx hy]
    rw [hclock, hregisters] at hpaints
    by_cases hspot : r.spot? = some (x, y)
    · rw [if_pos hspot, pixelColor, hregisters]
      exact ⟨_, rfl, shows_append_of_paints (hpaints.mp hspot)⟩
    · rw [if_neg hspot]
      obtain ⟨color, hpixel, hcolor⟩ := hshows x y hx hy
      exact ⟨color, hpixel, hcolor.append (hpaints.not.mp hspot)⟩

theorem Recorded.advance (hg : g.Valid) (h : Recorded g t r) (ticks : Nat) :
  Recorded g (t.run ticks) (r.advance ticks)
  := by
  induction ticks generalizing t r with
  | zero =>
      rw [Timeline.run, List.replicate_zero, List.append_nil]
      apply h
  | succ ticks ih =>
      rw [Timeline.run_succ]
      apply ih (h.tick hg)

theorem Recorded.perform (hg : g.Valid) (h : Recorded g t r) (operation : Operation) :
  Recorded g (t.perform g.ticksPerScanline operation) (r.perform operation)
  := by
  cases operation with
  | write w =>
      obtain ⟨hgeometry, ⟨hcolumn, hscanline⟩, hregisters, hclock, hsized, hshows⟩ := h
      refine ⟨hgeometry, ⟨hcolumn, hscanline⟩, ?_, hclock, hsized, hshows⟩
      rw [Raster.perform, Raster.write, hregisters]
      rfl
  | advance ticks => exact h.advance hg ticks
  | finishLine =>
      have hticks : r.ticksToLineEnd
          = g.ticksPerScanline - t.past.length % g.ticksPerScanline := by
        rw [ticksToLineEnd, h.onFrame.column_eq, h.geometry_eq, h.clock_eq]
      rw [Raster.perform, finishLine, hticks]
      apply h.advance hg _
  | takeReady =>
      obtain ⟨hgeometry, ⟨hcolumn, hscanline⟩, hregisters, hclock, hsized, hshows⟩ := h
      exact ⟨hgeometry, ⟨hcolumn, hscanline⟩, hregisters, hclock, hsized, hshows⟩

theorem Recorded.performAll (hg : g.Valid) (h : Recorded g t r) (operations : List Operation) :
  Recorded g (operations.foldl (Timeline.perform g.ticksPerScanline) t) (r.performAll operations)
  := by
  induction operations generalizing t r with
  | nil => exact h
  | cons operation operations ih => exact ih (h.perform hg operation)

end

end Raster

end RasterConsole
