import RasterConsole.Proofs.Console.Exactness
import RasterConsole.Proofs.Console.Faults
import RasterConsole.Proofs.Processor.Partial

/-!
# The console in partial arithmetic

The operations of a console on the processor, the bus and the engine in partial arithmetic.  A
program is copied to memory cell by cell, and each cell has to be there.

Every console that comes up in use has an intact bus (`Reachable.intact`), so that none of its
operations stops: whatever it is asked to do, and whatever program it runs, it does in partial
arithmetic what it does otherwise (`Console.never_stops`).
-/

namespace RasterConsole

attribute [local instance] Arithmetic.exact

/-! ### The size of a picture -/

namespace Raster

variable {r : Raster}

theorem sized_meetAll {width height : Nat} (h : r.picture.Sized width height)
    (es : List Event) :
  (r.meetAll es).picture.Sized width height
  := by
  induction es generalizing r with
  | nil => apply h
  | cons event es ih =>
      cases event with
      | tick => exact ih (sized_tick h)
      | write w => exact ih (r := r.write w) h

/-- Whatever has happened to an engine, its picture has the size that its geometry asks for. -/
theorem HasMet.sized {past : List Event} (h : r.HasMet past) :
  r.picture.Sized r.geometry.visibleWidth r.geometry.visibleHeight
  := by
  have hpicture : r.takeReady.2.picture
      = ((fresh r.geometry).meetAll past).takeReady.2.picture := congrArg Raster.picture h
  change r.picture = ((fresh r.geometry).meetAll past).picture at hpicture
  rw [hpicture]
  apply sized_meetAll
  apply Picture.sized_blank

end Raster

/-! ### Loading a program -/

namespace Memory

variable {m : Memory}

/-- The memory with consecutive bytes stored from `address` on, if it has all these cells. -/
def storeAll? (m : Memory) (address : Nat) : List UInt8 → Option Memory
  | [] => some m
  | byte :: rest =>
    if address < m.capacity then (m.store address byte).storeAll? (address + 1) rest else none

/-- The memory after bytes are copied to `base`.  All of them have to fit. -/
def load? (m : Memory) (base : Nat) (bytes : List UInt8) : Option (Except Fault Memory) := do
  if base + bytes.length ≤ m.capacity then return .ok (← m.storeAll? base bytes)
  else return .error (.loadOverflow base bytes.length m.capacity)

/-- The memory after a word is written. -/
def writeWord? (m : Memory) (address : Nat) (word : UInt16) : Option (Except Fault Memory) := do
  if address + 1 < m.capacity then
    return .ok (← m.storeAll? address [lowByte word, highByte word])
  else return .error (m.outside (address + 1))

theorem storeAll?_eq {address : Nat} {bytes : List UInt8}
    (h : address + bytes.length ≤ m.capacity) :
  m.storeAll? address bytes = some (m.storeAll address bytes)
  := by
  induction bytes generalizing m address with
  | nil => rfl
  | cons byte rest ih =>
      rw [List.length_cons] at h
      rw [storeAll?, if_pos (by omega), storeAll]
      apply ih
      rw [capacity_store]
      omega

/-- Bytes are copied only where they fit. -/
theorem load?_eq (m : Memory) (base : Nat) (bytes : List UInt8) :
  m.load? base bytes = some (m.load base bytes)
  := by
  unfold load? load
  split_ifs with hfits
  · rw [storeAll?_eq hfits]
    rfl
  · rfl

theorem writeWord?_eq (m : Memory) (address : Nat) (word : UInt16) :
  m.writeWord? address word = some (m.writeWord address word)
  := by
  unfold writeWord? writeWord
  split_ifs with hfits
  · rw [storeAll?_eq hfits]
    rfl
  · rfl

end Memory

namespace Console

/-- The memory with a program at its base and both vectors pointing there. -/
def install? (layout : Layout) (memory : Memory) (program : List UInt8) :
    Option (Except Fault Memory) := do
  match ← memory.load? layout.base.toNat program with
  | .error fault => return .error fault
  | .ok memory =>
    match ← memory.writeWord? layout.resetVector.toNat layout.base with
    | .error fault => return .error fault
    | .ok memory => memory.writeWord? layout.irqVector.toNat layout.base

theorem install?_eq (layout : Layout) (memory : Memory) (program : List UInt8) :
  install? layout memory program = some (install layout memory program)
  := by
  unfold install? install
  rw [Memory.load?_eq]
  cases memory.load layout.base.toNat program with
  | error _ => rfl
  | ok loaded =>
      change (loaded.writeWord? _ _ >>= _) = some (loaded.writeWord _ _ >>= _)
      rw [Memory.writeWord?_eq]
      cases loaded.writeWord layout.resetVector.toNat layout.base with
      | error _ => rfl
      | ok vectored => exact vectored.writeWord?_eq layout.irqVector.toNat layout.base

/-! ### The operations -/

/-- Clears memory and engine, installs a program and enters it. -/
def boot? (c : Console) (program : List UInt8) : Option (Except Fault Unit × Console) := do
  let bus := c.processor.bus.reset
  match ← install? c.settings.layout bus.memory program with
  | .ok memory =>
    return guard c.settings { c.processor with bus := { bus with memory := memory } }.reset
  | .error fault => return (.error fault, ⟨c.settings, { c.processor with bus := bus }, true⟩)

/-- Runs one instruction and pays all its ticks. -/
def step? (c : Console) : Option (Except Fault Unit × Console) := do
  if c.faulted then return (.error .faulted, c)
  else
    let (result, p) ← (c.processor.grant .unlimited).step?
    return guard c.settings (result, (← p.flush?).grant (.ticks 0))

/-- Runs the program until the engine has run a number of ticks. -/
def runTicks? (c : Console) (ticks : Nat) : Option (Except Fault Unit × Console) := do
  if c.faulted then return (.error .faulted, c)
  else
    let (result, p) ← (c.processor.grant (.ticks ticks)).runWithin? (patience ticks)
    return guard c.settings (result.getD (.ok ()), p)

/-- Runs the program for as many ticks as a frame has, and takes the finished frame. -/
def runFrame? (c : Console) : Option (Except Fault Unit × Console) := do
  match ← c.runTicks? c.settings.geometry.ticksPerFrame with
  | (.error fault, c) => return (.error fault, c)
  | (.ok (), c) =>
    let ⟨settings, ⟨core, layout, bus⟩, faulted⟩ := c
    let (_, raster) := bus.raster.takeReady
    return (.ok (), ⟨settings, ⟨core, layout, { bus with raster := raster }⟩, faulted⟩)

section

variable {σ : Type} (sink : Sink σ)

/-- The result of an operation of a console in front of a display, with the console and the
display that it leaves. -/
def perform? (c : Console) (display : σ) :
    Operation → Option (Except Fault Unit × Console × σ)
  | .boot program => do let (result, c) ← c.boot? program; return (result, c, display)
  | .reset => return c.perform sink display .reset
  | .step => do let (result, c) ← c.step?; return (result, c, display)
  | .runTicks ticks => do let (result, c) ← c.runTicks? ticks; return (result, c, display)
  | .runFrame => do let (result, c) ← c.runFrame?; return (result, c, display)
  | .present => return c.perform sink display .present

/-- The console and the display after operations in a row, whether or not they fail. -/
def performAll? (c : Console) (display : σ) : List Operation → Option (Console × σ)
  | [] => some (c, display)
  | operation :: rest => do
    let (_, c, display) ← c.perform? sink display operation
    c.performAll? display rest

end

section

variable {s : Settings} {c : Console}

/-- Whatever a console has been through, its bus is intact. -/
theorem Reachable.intact (h : Reachable s c) :
  c.processor.bus.Intact
  := by
  obtain ⟨past, hpast⟩ := h.exists_hasMet
  have hconsistent := h.sound.processor.consistent
  have hvalid : c.processor.bus.raster.geometry.Valid := by
    rw [h.sound.processor.suits.geometry_eq]
    exact Settings.geometry_valid h.sound.valid
  exact ⟨hconsistent, ⟨hvalid, hconsistent.onFrame, hpast.sized⟩⟩

/-- Booting stops on no console. -/
theorem boot?_eq (c : Console) (program : List UInt8) :
  c.boot? program = some (c.boot program)
  := by
  unfold Console.boot? Console.boot
  dsimp only
  rw [install?_eq]
  cases install c.settings.layout c.processor.bus.reset.memory program with
  | ok _ => rfl
  | error _ => rfl

theorem step?_eq (h : c.processor.bus.Intact) :
  c.step? = some c.step
  := by
  unfold Console.step? Console.step
  split_ifs
  · rfl
  · have hgrant := h.grant .unlimited
    have hstep := Processor.intact_step (p := c.processor.grant .unlimited) hgrant
    rw [Processor.step?_eq hgrant]
    dsimp only [Option.bind_eq_bind, Option.bind_some]
    rw [Processor.flush?_eq hstep]
    rfl

theorem runTicks?_eq (h : c.processor.bus.Intact) (ticks : Nat) :
  c.runTicks? ticks = some (c.runTicks ticks)
  := by
  unfold Console.runTicks? Console.runTicks
  split_ifs
  · rfl
  · rw [Processor.runWithin?_eq (p := c.processor.grant _) (h.grant _)]
    rfl

theorem runFrame?_eq (h : c.processor.bus.Intact) :
  c.runFrame? = some c.runFrame
  := by
  unfold Console.runFrame? Console.runFrame
  rw [runTicks?_eq h]
  rcases c.runTicks c.settings.geometry.ticksPerFrame with ⟨_ | _, _⟩
  · rfl
  · rfl

section

variable {σ : Type} (sink : Sink σ) (display : σ)

theorem perform?_eq (h : c.processor.bus.Intact) (operation : Operation) :
  c.perform? sink display operation = some (c.perform sink display operation)
  := by
  cases operation with
  | boot program =>
      rw [perform?, boot?_eq]
      rfl
  | step =>
      rw [perform?, step?_eq h]
      rfl
  | runTicks ticks =>
      rw [perform?, runTicks?_eq h]
      rfl
  | runFrame =>
      rw [perform?, runFrame?_eq h]
      rfl
  | reset | present => rfl

theorem Reachable.performAll?_eq (h : Reachable s c) (operations : List Operation) :
  c.performAll? sink display operations = some (c.performAll sink display operations)
  := by
  induction operations generalizing c display with
  | nil => rfl
  | cons operation rest ih =>
      rw [performAll?, perform?_eq sink display h.intact]
      exact ih _ (h.perform sink display operation)

/-- A console never stops.  Take any settings from which a console can be built, let it boot any
programs, and ask it for anything in any order.  Then all it does has a result in partial
arithmetic, and this is the result that it has otherwise: no instruction meets an operand that
it cannot use, no pixel is painted outside the picture, no difference is negative that should
not be, no divisor is zero, and no byte is shifted by eight places or more. -/
theorem never_stops (hc : build s = .ok c) (operations : List Operation) :
  c.performAll? sink display operations = some (c.performAll sink display operations)
  := (Reachable.build hc).performAll?_eq sink display operations

/-- A use of the small console.  Its first program reflects the playfield, line after line,
and its second one is too long. -/
def smallShow : List Operation :=
  [.boot [0x85, 0x02, 0xA9, 0x01, 0x85, 0x0A, 0x4C, 0x80, 0x00], .step, .runTicks 7, .runFrame,
    .present, .reset, .runFrame, .boot (List.replicate 0x81 0xEA), .present]

/-- The console after this use, with what the display has kept. -/
def smallShown : Console × Array Frame :=
  performAll .capture ⟨.small, Processor.fresh .small, false⟩ #[] smallShow

/-- The console shows one picture and ends up faulted, but it does not stop. -/
theorem never_stops_small :
  build .small = .ok ⟨.small, Processor.fresh .small, false⟩
    ∧ performAll? .capture ⟨.small, Processor.fresh .small, false⟩ #[] smallShow = some smallShown
    ∧ smallShown.1.faulted = true ∧ smallShown.2.size = 1
  := by
  have hbuild : build .small = .ok ⟨.small, Processor.fresh .small, false⟩ := rfl
  refine ⟨hbuild, ?_, by decide +kernel, by decide +kernel⟩
  apply never_stops Sink.capture #[] hbuild smallShow

end

end

end Console

end RasterConsole
