import RasterConsole.Proofs.Video.Clock

/-!
# What happens to an engine

From one reset to the next an engine runs ticks and takes register writes.  A list of
`Event`s tells which of them, in their order, and `Raster.meetAll` is the engine after
them.  The clock goes on by the ticks among the events (`clock_meetAll`), and the registers
hold what the writes among them leave (`registers_meetAll`).

`Event.dated` tells of every write how many ticks had been run when the engine took it.
-/

namespace RasterConsole

attribute [local instance] Arithmetic.exact

/-- The latest entry of a list that meets a condition is a new one, if that does. -/
theorem find?_reverse_concat {α : Type} (P : α → Prop) [DecidablePred P] (entries : List α)
    (entry : α) :
  (entries ++ [entry]).reverse.find? P
    = if P entry then some entry else entries.reverse.find? P
  := by
  rw [List.reverse_concat, List.find?_cons]
  split_ifs with h
  · rw [decide_eq_true h]
  · rw [decide_eq_false h]

namespace Raster

/-- What happens to an engine. -/
inductive Event where
  | tick
  | write (w : RegisterWrite)
  deriving Repr, DecidableEq

/-- A register write with a number of ticks: those that had been run when it was made. -/
structure DatedWrite where
  tick : Nat
  write : RegisterWrite
  deriving Repr, DecidableEq

namespace Event

/-- The number of ticks among events. -/
def ticks : List Event → Nat
  | [] => 0
  | tick :: rest => ticks rest + 1
  | write _ :: rest => ticks rest

/-- The writes among events. -/
def writes : List Event → List RegisterWrite
  | [] => []
  | tick :: rest => writes rest
  | write w :: rest => w :: writes rest

/-- The writes among events that follow on `elapsed` ticks. -/
def dated (elapsed : Nat) : List Event → List DatedWrite
  | [] => []
  | tick :: rest => dated (elapsed + 1) rest
  | write w :: rest => ⟨elapsed, w⟩ :: dated elapsed rest

section

variable (es fs : List Event) (ws : List RegisterWrite) (elapsed n : Nat)

@[simp]
theorem ticks_append :
  ticks (es ++ fs) = ticks es + ticks fs
  := by
  induction es with
  | nil => simp [ticks]
  | cons e es ih =>
      cases e with
      | tick =>
          simp only [List.cons_append, ticks, ih]
          omega
      | write w => simp only [List.cons_append, ticks, ih]

@[simp]
theorem writes_append :
  writes (es ++ fs) = writes es ++ writes fs
  := by
  induction es with
  | nil => rfl
  | cons e es ih =>
      cases e with
      | tick => exact ih
      | write w => exact congrArg (List.cons w) ih

theorem dated_append :
  dated elapsed (es ++ fs) = dated elapsed es ++ dated (elapsed + ticks es) fs
  := by
  induction es generalizing elapsed with
  | nil => rfl
  | cons e es ih =>
      cases e with
      | tick =>
          simp only [List.cons_append, dated, ticks, ih]
          rw [Nat.add_assoc, Nat.add_comm 1]
      | write w => exact congrArg (List.cons _) (ih elapsed)

@[simp]
theorem ticks_replicate :
  ticks (List.replicate n tick) = n
  := by
  induction n with
  | zero => rfl
  | succ n ih => exact congrArg (· + 1) ih

@[simp]
theorem writes_replicate :
  writes (List.replicate n tick) = []
  := by
  induction n with
  | zero => rfl
  | succ n ih => exact ih

@[simp]
theorem dated_replicate :
  dated elapsed (List.replicate n tick) = []
  := by
  induction n generalizing elapsed with
  | zero => rfl
  | succ n ih => exact ih _

@[simp]
theorem ticks_map_write :
  ticks (ws.map write) = 0
  := by
  induction ws with
  | nil => rfl
  | cons w ws ih => exact ih

@[simp]
theorem writes_map_write :
  writes (ws.map write) = ws
  := by
  induction ws with
  | nil => rfl
  | cons w ws ih => exact congrArg (List.cons w) ih

@[simp]
theorem dated_map_write :
  dated elapsed (ws.map write) = ws.map (DatedWrite.mk elapsed)
  := by
  induction ws with
  | nil => rfl
  | cons w ws ih => exact congrArg (List.cons _) ih

/-- The dates leave no write out. -/
theorem map_write_dated :
  (dated elapsed es).map DatedWrite.write = writes es
  := by
  induction es generalizing elapsed with
  | nil => rfl
  | cons e es ih =>
      cases e with
      | tick => exact ih _
      | write w => exact congrArg (List.cons w) (ih _)

end

end Event

/-- The engine after an event. -/
def meet [Arithmetic] (r : Raster) : Event → Raster
  | .tick => r.tick
  | .write w => r.write w

/-- The engine after one event after the other. -/
def meetAll [Arithmetic] (r : Raster) (events : List Event) : Raster := events.foldl meet r

section

variable (r : Raster) (es fs : List Event)

theorem meetAll_tick_cons :
  r.meetAll (.tick :: es) = r.tick.meetAll es
  := rfl

theorem meetAll_append :
  r.meetAll (es ++ fs) = (r.meetAll es).meetAll fs
  := List.foldl_append

/-- Ticks on end are what the engine runs when it is advanced. -/
theorem meetAll_replicate (n : Nat) :
  r.meetAll (List.replicate n .tick) = r.advance n
  := by
  induction n generalizing r with
  | zero => rfl
  | succ n ih => exact ih r.tick

theorem meetAll_map_write (ws : List RegisterWrite) :
  r.meetAll (ws.map .write) = ws.foldl write r
  := List.foldl_map

@[simp]
theorem geometry_meetAll :
  (r.meetAll es).geometry = r.geometry
  := by
  induction es generalizing r with
  | nil => rfl
  | cons e es ih =>
      cases e with
      | tick => rw [meetAll_tick_cons, ih, geometry_tick]
      | write w => exact ih (r.write w)

/-- The registers hold what the writes leave, whenever they are made. -/
theorem registers_meetAll :
  (r.meetAll es).registers = (Event.writes es).foldl RegisterFile.write r.registers
  := by
  induction es generalizing r with
  | nil => rfl
  | cons e es ih =>
      cases e with
      | tick =>
          rw [meetAll_tick_cons, ih, registers_tick]
          rfl
      | write w => exact ih (r.write w)

variable {r}

theorem OnFrame.write (h : r.OnFrame) (w : RegisterWrite) :
  (r.write w).OnFrame
  := ⟨h.column_lt, h.scanline_lt⟩

theorem OnFrame.meetAll (h : r.OnFrame) :
  (r.meetAll es).OnFrame
  := by
  induction es generalizing r with
  | nil => exact h
  | cons e es ih =>
      cases e with
      | tick => exact ih h.tick
      | write w => exact ih (h.write w)

/-- The clock goes on by the ticks among the events. -/
theorem clock_meetAll (h : r.OnFrame) :
  (r.meetAll es).clock = r.clock + Event.ticks es
  := by
  induction es generalizing r with
  | nil => rfl
  | cons e es ih =>
      cases e with
      | tick =>
          rw [meetAll_tick_cons, ih h.tick, clock_tick h, Event.ticks]
          omega
      | write w => exact ih (h.write w)

end

end Raster

end RasterConsole
