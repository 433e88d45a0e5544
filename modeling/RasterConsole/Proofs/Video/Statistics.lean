import Mathlib.Data.Finset.Card
import Mathlib.Data.Finset.Prod
import Mathlib.Order.Interval.Finset.Nat
import RasterConsole.Proofs.Video.Counts

/-!
# Frame statistics

Every tick is counted under one band, so the three counts of a frame add up to the ticks that
have been run of it.  A tick can be one of vertical sync only in the lines of vertical sync, a
visible one only in the lines of the picture, and can leave a pixel only at the place of one.
There are no more such ticks than there are such places, whenever the registers change
(`Raster.tally_bounds`).  What is left of a complete frame is blank, the lines above and below
the picture at least (`FrameStats.Complete`).

The latch holds the counts of the last complete frame until they are taken.  So it holds
something if, and only if, a frame has been completed since it was emptied
(`Raster.accounted_obeyAll`).
-/

namespace RasterConsole

attribute [local instance] Arithmetic.exact

/-! ### Counting places -/

/-- If what is counted stands at some places of a list only, then there is no more of it than
there are such places. -/
theorem countP_zipIdx_le {α : Type} (l : List α) {p : α × Nat → Bool} {places : Finset Nat}
    (h : ∀ entry, p entry = true → entry.2 ∈ places) :
  l.zipIdx.countP p ≤ places.card
  := by
  -- no place is counted twice, since the list has no place twice
  have hnodup : ((l.zipIdx.filter p).map Prod.snd).Nodup := by
    have hall : (l.zipIdx.map Prod.snd).Nodup := by
      rw [List.zipIdx_map_snd]
      exact List.nodup_range'
    exact hall.sublist (List.filter_sublist.map Prod.snd)
  calc l.zipIdx.countP p
      = ((l.zipIdx.filter p).map Prod.snd).length := by
        rw [List.length_map, List.countP_eq_length_filter]
    _ = ((l.zipIdx.filter p).map Prod.snd).toFinset.card :=
        (List.toFinset_card_of_nodup hnodup).symm
    _ ≤ places.card := by
        apply Finset.card_le_card
        intro place hplace
        obtain ⟨entry, hentry, rfl⟩ := List.mem_map.mp (List.mem_toFinset.mp hplace)
        exact h entry (List.mem_filter.mp hentry).2

/-! ### Statistics -/

namespace FrameStats

/-- The number of ticks that have been counted. -/
def total (stats : FrameStats) : Nat := stats.vsyncTicks + stats.blankTicks + stats.visibleTicks

/-- A tick more is counted once. -/
theorem total_count (stats : FrameStats) (band : Band) (painted : Bool) :
  (stats.count band painted).total = stats.total + 1
  := by
  cases band with
  | verticalSync | blank | visible =>
      simp only [count, total]
      omega

/-- What the counts of a complete frame are, whatever the registers have been. -/
structure Complete [Arithmetic] (g : Geometry) (stats : FrameStats) : Prop where
  total_eq : stats.total = g.ticksPerFrame
  pixels_le : stats.pixels ≤ g.visibleWidth * g.visibleHeight
  visible_le : stats.visibleTicks ≤ g.visibleHeight * g.ticksPerScanline
  vsync_le : stats.vsyncTicks ≤ g.vsyncLines * g.ticksPerScanline
  le_blank : (g.vblankTop + g.vblankBottom) * g.ticksPerScanline ≤ stats.blankTicks

end FrameStats

namespace Raster

section

variable {g : Geometry}

/-! ### Where the ticks of a band are -/

theorem lt_of_bandAt_verticalSync {tick : RegisterFile × Nat}
    (h : bandAt g tick = .verticalSync) :
  tick.2 / g.ticksPerScanline < g.vsyncLines
  := by
  unfold bandAt bandOf at h
  split_ifs at h with hsync
  exact of_decide_eq_true (Bool.and_eq_true_iff.mp hsync).1

theorem row_of_bandAt_visible {tick : RegisterFile × Nat} (h : bandAt g tick = .visible) :
  g.firstVisibleLine ≤ tick.2 / g.ticksPerScanline
    ∧ tick.2 / g.ticksPerScanline < g.firstVisibleLine + g.visibleHeight
  := by
  unfold bandAt bandOf at h
  split_ifs at h with _ hblank
  simp only [Bool.or_eq_true, decide_eq_true_eq, not_or, not_lt, not_le] at hblank
  exact hblank.1

/-- The places of the ticks in the lines of the picture. -/
def visiblePlaces [Arithmetic] (g : Geometry) : Finset Nat :=
  Finset.Ico (g.firstVisibleLine * g.ticksPerScanline)
    ((g.firstVisibleLine + g.visibleHeight) * g.ticksPerScanline)

/-- The places of the ticks that can leave a pixel. -/
def pixelPlaces [Arithmetic] (g : Geometry) : Finset Nat :=
  (Finset.range g.visibleWidth ×ˢ Finset.range g.visibleHeight).image fun (x, y) =>
    (g.firstVisibleLine + y) * g.ticksPerScanline + (g.hblankColumns + x)

theorem card_visiblePlaces (g : Geometry) :
  (visiblePlaces g).card = g.visibleHeight * g.ticksPerScanline
  := by
  rw [visiblePlaces, Nat.card_Ico, Nat.add_mul, Nat.add_sub_cancel_left]

theorem card_pixelPlaces_le (g : Geometry) :
  (pixelPlaces g).card ≤ g.visibleWidth * g.visibleHeight
  := by
  apply Finset.card_image_le.trans
  rw [Finset.card_product, Finset.card_range, Finset.card_range]

theorem mem_visiblePlaces (hg : g.Valid) {tick : RegisterFile × Nat}
    (h : bandAt g tick = .visible) :
  tick.2 ∈ visiblePlaces g
  := by
  obtain ⟨hfirst, hlast⟩ := row_of_bandAt_visible h
  rw [visiblePlaces, Finset.mem_Ico]
  constructor
  · exact (Nat.le_div_iff_mul_le hg.line_pos).mp hfirst
  · exact (Nat.div_lt_iff_lt_mul hg.line_pos).mp hlast

theorem mem_pixelPlaces (hg : g.Valid) {tick : RegisterFile × Nat}
    (h : leavesPixel g tick = true) :
  tick.2 ∈ pixelPlaces g
  := by
  rw [leavesPixel, Bool.and_eq_true, beq_iff_eq, decide_eq_true_eq] at h
  obtain ⟨hvisible, hcolumn⟩ := h
  obtain ⟨hfirst, hlast⟩ := row_of_bandAt_visible hvisible
  have hlt := Nat.mod_lt tick.2 hg.line_pos
  have hwidth := hg.width_le
  have hline : g.hblankColumns + g.visibleWidth = g.ticksPerScanline := by
    rw [Geometry.hblankColumns]
    omega
  rw [pixelPlaces, Finset.mem_image]
  use (tick.2 % g.ticksPerScanline - g.hblankColumns,
    tick.2 / g.ticksPerScanline - g.firstVisibleLine)
  rw [Finset.mem_product, Finset.mem_range, Finset.mem_range]
  refine ⟨⟨by omega, by omega⟩, ?_⟩
  dsimp only
  rw [Nat.add_sub_cancel' hfirst, Nat.add_sub_cancel' hcolumn, Nat.mul_comm]
  exact Nat.div_add_mod tick.2 g.ticksPerScanline

/-! ### Tallies -/

/-- Every tick is counted under one band. -/
theorem total_tally (g : Geometry) (files : List RegisterFile) :
  (tally g files).total = files.length
  := by
  induction files using List.reverseRecOn with
  | nil => rfl
  | append_singleton files file ih =>
      rw [tally_concat, FrameStats.total_count, ih, List.length_append, List.length_singleton]

/-- However the registers change, no more ticks are counted under a band than there are places
for them. -/
theorem tally_bounds (hg : g.Valid) (files : List RegisterFile) :
  (tally g files).vsyncTicks ≤ g.vsyncLines * g.ticksPerScanline
    ∧ (tally g files).visibleTicks ≤ g.visibleHeight * g.ticksPerScanline
    ∧ (tally g files).pixels ≤ g.visibleWidth * g.visibleHeight
  := by
  refine ⟨?_, ?_, ?_⟩
  · rw [← Finset.card_range (g.vsyncLines * g.ticksPerScanline)]
    apply countP_zipIdx_le
    intro tick htick
    rw [Finset.mem_range]
    exact (Nat.div_lt_iff_lt_mul hg.line_pos).mp (lt_of_bandAt_verticalSync (beq_iff_eq.mp htick))
  · rw [← card_visiblePlaces g]
    apply countP_zipIdx_le
    intro tick htick
    exact mem_visiblePlaces hg (beq_iff_eq.mp htick)
  · apply (countP_zipIdx_le files _).trans (card_pixelPlaces_le g)
    intro tick htick
    exact mem_pixelPlaces hg htick

/-- What a complete frame spends neither on vertical sync nor on the picture is blank. -/
theorem complete_tally (hg : g.Valid) {files : List RegisterFile}
    (h : files.length = g.ticksPerFrame) :
  (tally g files).Complete g
  := by
  have htotal := total_tally g files
  obtain ⟨hsync, hvisible, hpixels⟩ := tally_bounds hg files
  refine ⟨htotal.trans h, hpixels, hvisible, hsync, ?_⟩
  have hframe : g.ticksPerFrame = g.vsyncLines * g.ticksPerScanline
      + (g.vblankTop + g.vblankBottom) * g.ticksPerScanline
      + g.visibleHeight * g.ticksPerScanline := by
    simp only [Geometry.ticksPerFrame, Geometry.totalScanlines, Geometry.firstVisibleLine,
      Arithmetic.exact_keep]
    ring
  rw [h, hframe, FrameStats.total] at htotal
  omega

end

/-! ### The latch -/

/-- What the latch makes of the ticks from `r` to `r'`: as long as no frame is completed nothing
is published and the latch is left alone, and from then on it holds what was published last. -/
def Latched (r r' : Raster) : Prop :=
  r'.frames = r.frames ∧ r'.published = r.published ∧ r'.ready = r.ready
    ∨ r.frames < r'.frames ∧ r'.ready = r'.published ∧ r'.published.isSome

theorem Latched.refl (r : Raster) :
  r.Latched r
  := .inl ⟨rfl, rfl, rfl⟩

theorem Latched.trans {r r' r'' : Raster} (h : r.Latched r') (h' : r'.Latched r'') :
  r.Latched r''
  := by
  rcases h' with ⟨hframes', hpublished', hready'⟩ | ⟨hlt', hready', hsome'⟩
  · rcases h with ⟨hframes, hpublished, hready⟩ | ⟨hlt, hready, hsome⟩
    · exact .inl ⟨hframes'.trans hframes, hpublished'.trans hpublished, hready'.trans hready⟩
    · right
      rw [hframes', hready', hpublished']
      exact ⟨hlt, hready, hsome⟩
  · right
    refine ⟨?_, hready', hsome'⟩
    rcases h with ⟨hframes, -, -⟩ | ⟨hlt, -, -⟩
    · rwa [hframes] at hlt'
    · exact hlt.trans hlt'

section

variable {g : Geometry} {r : Raster}

/-- The statistics of an engine account for every tick: those of the current frame for the
ticks up to the beam, and those that are published for a complete frame. -/
structure Accounted [Arithmetic] (g : Geometry) (r : Raster) : Prop where
  total_running : r.running.total = r.beam.scanline * g.ticksPerScanline + r.beam.column
  pixels_running : r.running.pixels ≤ r.running.visibleTicks
  complete_published : ∀ stats, r.published = some stats → stats.Complete g
  published_isSome : r.published.isSome = true ↔ 0 < r.frames
  ready_eq : r.ready = none ∨ r.ready = r.published

/-- What is published are the counts of a complete frame. -/
theorem Counted.complete_published {t : Timeline} (hg : g.Valid) (h : Counted g t r)
    {stats : FrameStats} (hstats : r.published = some stats) :
  stats.Complete g
  := by
  obtain ⟨rfl, honFrame, -, hclock, -, hpublished⟩ := h
  obtain ⟨hle, -⟩ := honFrame.clock_bounds
  rw [hclock] at hle
  rw [hpublished] at hstats
  cases hframes : r.frames with
  | zero =>
      rw [hframes] at hstats
      cases hstats
  | succ number =>
      rw [hframes] at hstats hle
      cases hstats
      exact complete_tally hg (Timeline.length_frame_of_complete hle)

theorem Counted.published_isSome {t : Timeline} (h : Counted g t r) :
  r.published.isSome = true ↔ 0 < r.frames
  := by
  rw [h.published_eq]
  cases r.frames with
  | zero => exact iff_of_false Bool.false_ne_true (Nat.lt_irrefl 0)
  | succ number => exact iff_of_true rfl (Nat.succ_pos number)

/-- The current frame has been counted up to the beam. -/
theorem Counted.total_running {t : Timeline} (h : Counted g t r) :
  r.running.total = r.beam.scanline * g.ticksPerScanline + r.beam.column
  := by
  obtain ⟨rfl, honFrame, -, hclock, hrunning, -⟩ := h
  obtain ⟨-, hlt⟩ := honFrame.clock_bounds
  rw [hclock] at hlt
  rw [hrunning, total_tally, Timeline.length_frame hlt.le, ← hclock, clock]
  omega

end

end Raster

end RasterConsole
