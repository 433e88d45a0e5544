import RasterConsole.Proofs.Bus.Ledger

/-!
# The delivery of register writes

The bus makes every register write that it is given, once, in the order in which they were
given, and no earlier than the beam gets to where it was when the write was given.
`Bus.issues` lists the writes with the time of the beam when each of them was given to the
bus, and `Bus.history` is all that has happened to the engine, the writes among it.
`Bus.delivers_performAll` compares the two.
-/

namespace RasterConsole

attribute [local instance] Arithmetic.exact

open Raster (Event DatedWrite)

namespace Bus

/-- The register writes that an operation gives to the bus. -/
def Operation.issued : Operation → List RegisterWrite
  | request asked => asked.issued
  | grant _ => []

/-- The register writes that operations give to the bus, each with the time of the beam as
the processor sees it when it gives the write. -/
def issues [Arithmetic] (b : Bus) : List Operation → List DatedWrite
  | [] => []
  | operation :: rest =>
    operation.issued.map (DatedWrite.mk b.beamTime) ++ (b.perform operation).issues rest

/-- The events of an operation. -/
def operationEvents [Arithmetic] (b : Bus) : Operation → List Event
  | .request request => b.events request
  | .grant _ => []

/-- The events of one operation after the other. -/
def history [Arithmetic] (b : Bus) : List Operation → List Event
  | [] => []
  | operation :: rest => b.operationEvents operation ++ (b.perform operation).history rest

/-- The engine of the bus has been through `history`, and the bus has made the writes that
were `issued`, as far as they do not wait. -/
structure Delivers [Arithmetic] (s : Settings) (issued : List DatedWrite) (history : List Event)
    (b : Bus) : Prop where
  raster_eq : b.raster = (Raster.fresh s.geometry).meetAll history
  /-- The clock of the engine counts the ticks that it has run. -/
  clock_eq : b.raster.clock = Event.ticks history
  /-- The first of the writes have been made, and the others wait. -/
  writes_eq : Event.writes history ++ b.waiting = issued.map DatedWrite.write
  /-- The registers hold what the writes that have been made leave. -/
  registers_eq : b.raster.registers = (Event.writes history).foldl RegisterFile.write {}
  /-- No write waits when nothing is owed. -/
  waiting_nil : b.owed = 0 → b.waiting = []
  /-- Each write has been made when the engine had run up to the time of its issue. -/
  punctual : ∀ (k : Nat) (issue handover : DatedWrite), issued[k]? = some issue →
    (Event.dated 0 history)[k]? = some handover → issue.tick ≤ handover.tick

/-- A bus that delivers, and on which no write has been issued ahead of the beam. -/
structure Accounts [Arithmetic] (s : Settings) (issued : List DatedWrite) (history : List Event)
    (b : Bus) : Prop extends Delivers s issued history b where
  consistent : b.Consistent
  issued_le : ∀ issue ∈ issued, issue.tick ≤ b.beamTime

section

variable {s : Settings} {b : Bus} {issued : List DatedWrite} {events : List Event}

/-- No more writes are made than have been issued. -/
theorem Accounts.length_dated_le (h : b.Accounts s issued events) :
  (Event.dated 0 events).length ≤ issued.length
  := by
  calc (Event.dated 0 events).length
      = (Event.writes events).length := by rw [← Event.map_write_dated events 0, List.length_map]
    _ ≤ (Event.writes events ++ b.waiting).length := by
        rw [List.length_append]
        apply Nat.le_add_right
    _ = issued.length := by rw [h.writes_eq, List.length_map]

/-- A request keeps the account: the writes that it brings to the engine come no earlier
than the time of the beam, at which or before which all of them were issued. -/
theorem Accounts.serve (h : b.Accounts s issued events) (request : Request) :
  (b.serve request).2.Accounts s (issued ++ request.issued.map (DatedWrite.mk b.beamTime))
    (events ++ b.events request)
  := by
  have hcourse := h.consistent.course_serve request
  have hconsistent := h.consistent.serve request
  have htime := hcourse.beamTime_eq h.consistent.onFrame
  have hraster : (b.serve request).2.raster
      = (Raster.fresh s.geometry).meetAll (events ++ b.events request) := by
    rw [Raster.meetAll_append, ← h.raster_eq, hcourse.raster_eq]
  have hissued : ∀ issue ∈ issued ++ request.issued.map (DatedWrite.mk b.beamTime),
      issue.tick ≤ b.beamTime := by
    intro issue hissue
    rcases List.mem_append.mp hissue with hold | hnew
    · apply h.issued_le issue hold
    · obtain ⟨w, -, rfl⟩ := List.mem_map.mp hnew
      exact le_rfl
  constructor
  · constructor
    · apply hraster
    · rw [Event.ticks_append, ← h.clock_eq, hcourse.clock_eq h.consistent.onFrame]
    · rw [Event.writes_append, List.append_assoc, hcourse.waiting_eq, ← List.append_assoc,
        h.writes_eq, List.map_append, List.map_map]
      exact congrArg _ (List.map_id _).symm
    · rw [hraster, Raster.registers_meetAll]
      rfl
    · apply hconsistent.waiting_nil
    · intro k issue handover hissue hhandover
      rw [Event.dated_append, Nat.zero_add] at hhandover
      -- A write made earlier has its issue among the earlier ones; a write made now comes
      -- behind all that was owed, so whichever issue it belongs to lies before it.
      rcases Nat.lt_or_ge k (Event.dated 0 events).length with hlt | hge
      · rw [List.getElem?_append_left hlt] at hhandover
        rw [List.getElem?_append_left (hlt.trans_le h.length_dated_le)] at hissue
        apply h.punctual k issue handover hissue hhandover
      · rw [List.getElem?_append_right hge] at hhandover
        calc issue.tick
            ≤ b.beamTime := hissued issue (List.mem_of_getElem? hissue)
          _ = Event.ticks events + b.owed := by rw [beamTime, h.clock_eq]
          _ ≤ handover.tick := hcourse.le_date _ handover (List.mem_of_getElem? hhandover)
  · apply hconsistent
  · intro issue hissue
    rw [htime]
    apply (hissued issue hissue).trans (Nat.le_add_right _ _)

theorem Accounts.grant (h : b.Accounts s issued events) (budget : Budget) :
  (b.grant budget).Accounts s issued events
  := ⟨⟨h.raster_eq, h.clock_eq, h.writes_eq, h.registers_eq, h.waiting_nil, h.punctual⟩,
    h.consistent.grant budget, h.issued_le⟩

theorem Accounts.performAll (h : b.Accounts s issued events) (operations : List Operation) :
  (b.performAll operations).Accounts s (issued ++ b.issues operations)
    (events ++ b.history operations)
  := by
  induction operations generalizing b issued events with
  | nil =>
      rw [issues, history, List.append_nil, List.append_nil]
      apply h
  | cons operation operations ih =>
      rw [issues, history, ← List.append_assoc, ← List.append_assoc]
      cases operation with
      | request request => exact ih (h.serve request)
      | grant ticks =>
          rw [operationEvents, Operation.issued, List.map_nil, List.append_nil, List.append_nil]
          exact ih (h.grant _)

end

end Bus

end RasterConsole
