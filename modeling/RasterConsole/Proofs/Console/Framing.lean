import RasterConsole.Proofs.Console.Reachable
import RasterConsole.Proofs.Video.Addressing

/-!
# The frame of a console

Nothing that a console does touches its settings, the geometry of its engine, or the size of the
picture, which is painted over in place.  This holds in every arithmetic, and so it holds as well
where a word has lost a part of the size that the settings ask for: the picture has the size that
the display expects, because both have lost the same part (`Console.Framed.length_bytes`).
-/

namespace RasterConsole

open Arithmetic (keep keepPixels)

section

variable [Arithmetic] {g : Geometry}

/-! ### The engine -/

/-- An engine of a geometry with a picture as it was made for it. -/
structure Raster.Framed (g : Geometry) (r : Raster) : Prop where
  geometry_eq : r.geometry = g
  size_eq : r.picture.pixels.size = keepPixels (g.visibleWidth * g.visibleHeight)

namespace Raster

variable {r : Raster}

theorem framed_fresh (g : Geometry) :
  (fresh g).Framed g
  := ⟨rfl, Array.size_replicate⟩

theorem Framed.reset (h : r.Framed g) :
  r.reset.Framed g
  := by
  rw [Raster.reset, h.geometry_eq]
  apply framed_fresh

theorem Framed.write (h : r.Framed g) (w : RegisterWrite) :
  (r.write w).Framed g
  := ⟨h.geometry_eq, h.size_eq⟩

theorem Framed.foldl_write (h : r.Framed g) (ws : List RegisterWrite) :
  (ws.foldl Raster.write r).Framed g
  := by
  induction ws generalizing r with
  | nil => exact h
  | cons w ws ih => exact ih (h.write w)

theorem Framed.expose (h : r.Framed g) :
  r.expose.Framed g
  := by
  unfold Raster.expose
  dsimp only
  split
  · exact ⟨h.geometry_eq, (Array.size_setIfInBounds ..).trans h.size_eq⟩
  · exact ⟨h.geometry_eq, h.size_eq⟩

theorem Framed.move (h : r.Framed g) :
  r.move.Framed g
  := by
  unfold Raster.move
  split_ifs
  · exact ⟨h.geometry_eq, h.size_eq⟩
  · exact ⟨h.geometry_eq, h.size_eq⟩
  · exact ⟨h.geometry_eq, h.size_eq⟩

theorem Framed.advance (h : r.Framed g) (ticks : Nat) :
  (r.advance ticks).Framed g
  := by
  induction ticks generalizing r with
  | zero => exact h
  | succ ticks ih => exact ih h.expose.move

end Raster

/-! ### The bus -/

namespace Bus

variable {b : Bus}

/-- A bus whose engine is framed. -/
def Framed (g : Geometry) (b : Bus) : Prop := b.raster.Framed g

theorem Framed.flush (h : b.Framed g) :
  b.flush.Framed g
  := by
  have hpay : b.pay.Framed g := h.advance _
  unfold Bus.flush
  dsimp only
  split_ifs
  · exact hpay.foldl_write b.waiting
  · exact hpay

theorem Framed.touch (h : b.Framed g) (address : UInt16) :
  (b.touch address).Framed g
  := by
  unfold Bus.touch
  dsimp only
  split_ifs
  · unfold waitForLine
    split_ifs
    · exact h.flush.advance _
    · exact Framed.flush (b := { b.flush with owed := _ }) h.flush
  · exact h.flush

theorem Framed.read (h : b.Framed g) (address : UInt16) :
  (b.read address).2.Framed g
  := by
  unfold Bus.read
  split_ifs
  · exact h.touch address
  · exact h

theorem Framed.post (h : b.Framed g) (w : RegisterWrite) :
  (b.post w).Framed g
  := by
  unfold Bus.post
  split_ifs
  · exact Raster.Framed.write h w
  · exact h

theorem Framed.write (h : b.Framed g) (address : UInt16) (value : UInt8) :
  (b.write address value).2.Framed g
  := by
  unfold Bus.write
  split_ifs
  · exact h.touch address
  · exact (h.touch address).post ⟨address, value⟩
  · split
    · exact h
    · exact h

end Bus

/-! ### The processor -/

namespace Processor

variable {p : Processor}

theorem framed_step (h : p.bus.Framed g) :
  p.step.2.bus.Framed g
  := step_preserves (fun _ address h => h.read address)
    (fun _ address value h => h.write address value) (fun _ _ h => h) h

end Processor

/-! ### The console -/

namespace Console

variable {s : Settings} {c : Console}

/-- A console with given settings and with an engine that they frame. -/
structure Framed (s : Settings) (c : Console) : Prop where
  settings_eq : c.settings = s
  bus : c.processor.bus.Framed s.geometry

/-- Nothing that a console does changes the geometry of its engine, or the size of the picture. -/
theorem lasting_framed (s : Settings) :
  Lasting s fun p => p.bus.Framed s.geometry
  where
  fresh := Raster.framed_fresh s.geometry
  grant _ h := h
  flush h := h.flush
  step h := Processor.framed_step h
  reset {p} h := by
    rw [Processor.bus_reset]
    exact h
  restart _ h := Raster.Framed.reset h
  takeReady h := ⟨h.geometry_eq, h.size_eq⟩

theorem Reachable.framed (hc : Reachable s c) :
  c.Framed s
  := ⟨hc.settings_eq, (lasting_framed s).of_reachable hc⟩

/-- The bytes of the picture are as many as are left of their number. -/
theorem Framed.length_bytes (h : c.Framed s) :
  c.picture.bytes.length = keep (s.geometry.visibleWidth * s.geometry.visibleHeight * 4)
  := by
  rw [Picture.length_bytes, picture, raster, h.bus.size_eq, Arithmetic.keepPixels_mul]

end Console

end

end RasterConsole
