import RasterConsole.Proofs.Bus.Lockstep
import RasterConsole.Proofs.Video.Events

/-!
# The course of a bus

Whatever is asked of a bus, it owes some more ticks for it, has some more register writes
to make, and pays and writes as far as its budget allows.  `Bus.Course` says what it owes,
what it has to write, and what it has made happen to its engine in the meantime: ticks
that the budget covered, and the writes that waited longest.  A write comes to the engine
no earlier than the ticks that were owed before it.

`Bus.events` are the events of a request, part by part as the bus goes through them, and
`Consistent.course_serve` is the course of a request.
-/

namespace RasterConsole

attribute [local instance] Arithmetic.exact

namespace Bus

/-! ### What the bus makes happen -/

/-- The events of a flush: as many owed ticks as the budget allows, and then the waiting
writes if nothing is owed any more. -/
def flushEvents [Arithmetic] (b : Bus) : List Raster.Event :=
  List.replicate (b.budget.share b.owed) .tick
    ++ if b.pay.owed = 0 then b.waiting.map .write else []

/-- The events of waiting for the end of the line: those of paying for the rest of it. -/
def waitEvents [Arithmetic] (b : Bus) : List Raster.Event := (b.owe b.stall).flushEvents

/-- The events of an access to an address of the register window, before a value moves. -/
def touchEvents [Arithmetic] (b : Bus) (address : UInt16) : List Raster.Event :=
  b.flushEvents ++ if isStrobeAddress address then b.flush.waitEvents else []

/-- The events of a register write, once the address has been accessed. -/
def postEvents (b : Bus) (w : RegisterWrite) : List Raster.Event :=
  if b.owed = 0 then [.write w] else []

/-- The events of a read by the processor. -/
def readEvents [Arithmetic] (b : Bus) (address : UInt16) : List Raster.Event :=
  if address < windowSize then b.touchEvents address else []

/-- The events of a write by the processor. -/
def writeEvents [Arithmetic] (b : Bus) (address : UInt16) (value : UInt8) : List Raster.Event :=
  if address < windowSize then
    b.touchEvents address
      ++ if isStrobeAddress address then [] else (b.touch address).postEvents ⟨address, value⟩
  else []

/-- The events of a request. -/
def events [Arithmetic] (b : Bus) : Request → List Raster.Event
  | .read address => b.readEvents address
  | .write address value => b.writeEvents address value
  | .readWord address =>
    b.readEvents address
      ++ match (b.read address).1 with
        | .ok _ => (b.read address).2.readEvents (address + 1)
        | .error _ => []
  | .peek _ => []
  | .charge _ => []
  | .flush => b.flushEvents

/-- The ticks that a request costs. -/
def cost [Arithmetic] (b : Bus) : Request → Nat
  | .read address => b.delay address
  | .write address _ => b.delay address
  | .readWord address =>
    b.delay address
      + match (b.read address).1 with
        | .ok _ => (b.read address).2.delay (address + 1)
        | .error _ => 0
  | .peek _ => 0
  | .charge cycles => cycles * b.ticksPerCycle
  | .flush => 0

end Bus

/-- The writes to registers that a request gives to the bus.  A byte for the strobe
register is no such write. -/
def Request.issued : Request → List RegisterWrite
  | write address value =>
    if address < windowSize ∧ address ≠ 0x02 then [⟨address, value⟩] else []
  | _ => []

namespace Bus

/-! ### Courses -/

/-- While the bus `b` has become `b'`, it has come to owe `extra` ticks more and to have
the writes `issued` to make, and has made `events` happen. -/
structure Course [Arithmetic] (b : Bus) (extra : Nat) (issued : List RegisterWrite)
    (events : List Raster.Event) (b' : Bus) : Prop where
  raster_eq : b'.raster = b.raster.meetAll events
  covers : b.budget.covers (Raster.Event.ticks events) = true
  budget_eq : b'.budget = b.budget.spend (Raster.Event.ticks events)
  owed_eq : b'.owed + Raster.Event.ticks events = b.owed + extra
  waiting_eq : Raster.Event.writes events ++ b'.waiting = b.waiting ++ issued
  le_date : ∀ elapsed, ∀ d ∈ Raster.Event.dated elapsed events, elapsed + b.owed ≤ d.tick

section

variable {b b' b'' : Bus} {extra extra' : Nat} {issued issued' : List RegisterWrite}
  {es fs : List Raster.Event}

/-- Nothing happens while more is put on the books only. -/
theorem course_of_books (hraster : b'.raster = b.raster) (hbudget : b'.budget = b.budget)
    (howed : b'.owed = b.owed + extra) (hwaiting : b'.waiting = b.waiting ++ issued) :
  b.Course extra issued [] b'
  := by
  constructor
  · apply hraster
  · apply Budget.covers_zero
  · rw [hbudget]
    exact (Budget.spend_zero _).symm
  · apply howed
  · apply hwaiting
  · intro elapsed d hd
    cases hd

theorem Course.refl (b : Bus) :
  b.Course 0 [] [] b
  := course_of_books rfl rfl rfl (List.append_nil _).symm

theorem course_owe (b : Bus) (ticks : Nat) :
  b.Course ticks [] [] (b.owe ticks)
  := course_of_books rfl rfl rfl (List.append_nil _).symm

/-- One course after another is a course. -/
theorem Course.trans (h : b.Course extra issued es b') (h' : b'.Course extra' issued' fs b'') :
  b.Course (extra + extra') (issued ++ issued') (es ++ fs) b''
  := by
  obtain ⟨hraster, hcovers, hbudget, howed, hwaiting, hdate⟩ := h
  obtain ⟨hraster', hcovers', hbudget', howed', hwaiting', hdate'⟩ := h'
  rw [hbudget] at hcovers' hbudget'
  constructor
  · rw [hraster', hraster, Raster.meetAll_append]
  · rw [Raster.Event.ticks_append, ← Budget.covers_spend hcovers, hcovers']
  · rw [hbudget', Budget.spend_spend, Raster.Event.ticks_append]
  · rw [Raster.Event.ticks_append]
    omega
  · rw [Raster.Event.writes_append, List.append_assoc, hwaiting', ← List.append_assoc,
      hwaiting, List.append_assoc]
  · intro elapsed d hd
    rw [Raster.Event.dated_append] at hd
    rcases List.mem_append.mp hd with hfirst | hsecond
    · apply hdate elapsed d hfirst
    · have hle := hdate' _ d hsecond
      omega

/-- A course goes before one that costs nothing and issues nothing. -/
theorem Course.trans_idle (h : b.Course extra issued es b') (h' : b'.Course 0 [] fs b'') :
  b.Course extra issued (es ++ fs) b''
  := by
  have hboth := h.trans h'
  rw [List.append_nil] at hboth
  apply hboth

/-- A flush makes the writes wait for just the ticks that were owed. -/
theorem course_flush (b : Bus) :
  b.Course 0 [] b.flushEvents b.flush
  := by
  rcases b.budget.covers_or_short b.owed with hc | ⟨left, hb, hlt⟩
  -- The budget covers the debt, and the waiting writes are made behind it.
  · have hevents : b.flushEvents = List.replicate b.owed .tick ++ b.waiting.map .write := by
      simp only [flushEvents, pay, Budget.share_of_covers hc, Nat.sub_self, if_true]
    rw [flush_of_covers hc, hevents]
    constructor
    · rw [Raster.meetAll_append, Raster.meetAll_replicate, Raster.meetAll_map_write]
    · simpa using hc
    · simp
    · simp
    · simp
    · intro elapsed d hd
      rw [Raster.Event.dated_append, Raster.Event.dated_replicate, List.nil_append,
        Raster.Event.ticks_replicate, Raster.Event.dated_map_write] at hd
      obtain ⟨w, -, rfl⟩ := List.mem_map.mp hd
      exact le_rfl
  -- The budget runs out before the debt is paid, and the writes go on waiting.
  · have hshare : b.budget.share b.owed = left := by
      simp only [hb, Budget.share]
      omega
    have howed : ¬ b.owed - left = 0 := by omega
    have hevents : b.flushEvents = List.replicate left .tick := by
      simp only [flushEvents, pay, hshare, if_neg howed, List.append_nil]
    rw [flush_of_short hb hlt, hevents]
    constructor
    · rw [Raster.meetAll_replicate]
    · simp [hb, Budget.covers]
    · simp [hb, Budget.spend]
    · simp only [Raster.Event.ticks_replicate]
      omega
    · simp
    · intro elapsed d hd
      rw [Raster.Event.dated_replicate] at hd
      cases hd

/-- Waiting for the end of the line costs the rest of the line. -/
theorem Consistent.course_waitForLine (h : b.Consistent) :
  b.Course b.stall [] b.waitEvents b.waitForLine
  := by
  rw [waitForLine_eq h]
  apply (b.course_owe b.stall).trans_idle (b.owe b.stall).course_flush

theorem Consistent.course_touch (h : b.Consistent) (address : UInt16) :
  b.Course (b.delay address) [] (b.touchEvents address) (b.touch address)
  := by
  simp only [Bus.touch, touchEvents, delay]
  split_ifs
  · have hwait := h.flush.course_waitForLine
    rw [stall_flush h.onFrame] at hwait
    have hboth := b.course_flush.trans hwait
    rw [Nat.zero_add] at hboth
    apply hboth
  · rw [List.append_nil]
    apply course_flush

/-- A register write is made at once if nothing is owed, and else is the last of those that
wait. -/
theorem Consistent.course_post (h : b.Consistent) (w : RegisterWrite) :
  b.Course 0 [w] (b.postEvents w) (b.post w)
  := by
  simp only [Bus.post, postEvents]
  split_ifs with howed
  · constructor
    · rfl
    · apply Budget.covers_zero
    · exact (Budget.spend_zero _).symm
    · rfl
    · rw [h.waiting_nil howed]
      rfl
    · intro elapsed d hd
      obtain rfl := List.mem_singleton.mp hd
      rw [howed]
      exact le_rfl
  · exact course_of_books rfl rfl rfl rfl

/-- The strobe register lies in the register window. -/
theorem delay_of_not_lt {address : UInt16} (ha : ¬ address < windowSize) :
  b.delay address = 0
  := by
  apply if_neg
  rw [isStrobeAddress_iff]
  rintro rfl
  apply ha (by decide)

theorem Consistent.course_read (h : b.Consistent) (address : UInt16) :
  b.Course (b.delay address) [] (b.readEvents address) (b.read address).2
  := by
  simp only [Bus.read, readEvents]
  split_ifs with ha
  · apply h.course_touch address
  · rw [delay_of_not_lt ha]
    apply Course.refl

theorem Consistent.course_write (h : b.Consistent) (address : UInt16) (value : UInt8) :
  b.Course (b.delay address) (Request.write address value).issued (b.writeEvents address value)
    (b.write address value).2
  := by
  simp only [Bus.write, writeEvents, Request.issued, isStrobeAddress_iff]
  by_cases ha : address < windowSize
  · by_cases hstrobe : address = 0x02
    · simp only [hstrobe, ne_eq, not_true, and_false, if_true, if_false, List.append_nil]
      apply h.course_touch
    · simp only [ha, hstrobe, ne_eq, not_false_iff, and_true, if_true, if_false]
      exact (h.course_touch address).trans ((h.touch address).course_post ⟨address, value⟩)
  · simp only [ha, false_and, if_false]
    rw [delay_of_not_lt ha]
    split
    · apply Course.refl
    · exact course_of_books rfl rfl rfl (List.append_nil _).symm

/-- The course of a request. -/
theorem Consistent.course_serve (h : b.Consistent) (request : Request) :
  b.Course (b.cost request) request.issued (b.events request) (b.serve request).2
  := by
  cases request with
  | read address => exact h.course_read address
  | write address value => exact h.course_write address value
  | readWord address =>
      have hlow := h.course_read address
      simp only [cost, events, serve]
      cases hfirst : (b.read address).1 with
      | error fault =>
          rw [readWord_of_error hfirst, List.append_nil]
          apply hlow
      | ok low =>
          rw [readWord_of_ok hfirst]
          exact hlow.trans ((h.read address).course_read (address + 1))
  | peek address => exact Course.refl b
  | charge cycles => exact b.course_owe _
  | flush => exact b.course_flush

/-- What every access, every charge and every flush preserves, a request preserves. -/
theorem serve_preserves {P : Bus → Prop} (hread : ∀ b address, P b → P (b.read address).2)
    (hwrite : ∀ b address value, P b → P (b.write address value).2)
    (hcharge : ∀ b cycles, P b → P (b.charge cycles)) (hflush : ∀ b, P b → P b.flush)
    (request : Request) (h : P b) :
  P (b.serve request).2
  := by
  cases request with
  | read address => exact hread b address h
  | write address value => exact hwrite b address value h
  | readWord address =>
      simp only [Bus.serve]
      cases hfirst : (b.read address).1 with
      | error fault =>
          rw [readWord_of_error hfirst]
          apply hread b address h
      | ok low =>
          rw [readWord_of_ok hfirst]
          apply hread _ _ (hread b address h)
  | peek address => exact h
  | charge cycles => exact hcharge b cycles h
  | flush => exact hflush b h

theorem Consistent.serve (h : b.Consistent) (request : Request) :
  (b.serve request).2.Consistent
  := by
  apply serve_preserves (fun _ address h => h.read address)
    (fun _ address value h => h.write address value) (fun _ cycles h => h.charge cycles)
    (fun _ h => h.flush) request h

end

/-! ### Operations -/

/-- What can be done to a bus: it may be asked for something, or granted a new budget. -/
inductive Operation where
  | request (request : Request)
  | grant (ticks : Nat)
  deriving Repr, DecidableEq

/-- The bus after an operation. -/
def perform [Arithmetic] (b : Bus) : Operation → Bus
  | .request request => (b.serve request).2
  | .grant ticks => b.grant (.ticks ticks)

/-- The bus after one operation after the other. -/
def performAll [Arithmetic] (b : Bus) (operations : List Operation) : Bus :=
  operations.foldl perform b

end Bus

end RasterConsole
