import RasterConsole.Bus
import RasterConsole.Processor.Status

/-!
# What an instruction asks of the bus

`Core` holds the registers that a program sees.  An `Activity` is the course of an
instruction as far as the processor alone decides it: the accesses to the bus in their
order, each with the registers as they stand when it is made, with all that follows given
as a function of the bytes that reads find.  `Activity.onBus` plays it on a bus and stops
at the first access that the bus refuses.  `Exec` is the way to write activities down: a
computation that starts from given registers.
-/

namespace RasterConsole

/-- The registers of the processor, and the number of cycles it has run. -/
structure Core where
  a : UInt8
  x : UInt8
  y : UInt8
  sp : UInt8
  pc : UInt16
  status : Status
  cycles : Nat
  deriving Repr, DecidableEq, Inhabited

/-- The registers at power on, with the program counter at a given address. -/
def Core.initial (pc : UInt16) : Core where
  a := 0
  x := 0
  y := 0
  sp := 0xFD
  pc := pc
  status := Status.initial
  cycles := 0

/-- A course of accesses to the bus that ends with a value, and with the registers. -/
inductive Activity (α : Type) where
  | done (value : α) (core : Core)
  | fail (fault : Fault) (core : Core)
  | read (core : Core) (address : UInt16) (next : UInt8 → Activity α)
  | write (core : Core) (address : UInt16) (value : UInt8) (next : Activity α)
  | charge (cycles : Nat) (next : Activity α)

namespace Activity

variable {α β : Type}

/-- The activity that goes on with `next` where the first one is done. -/
def andThen (first : Activity α) (next : α → Core → Activity β) : Activity β :=
  match first with
  | done value core => next value core
  | fail fault core => fail fault core
  | read core address rest => read core address fun byte => (rest byte).andThen next
  | write core address value rest => write core address value (rest.andThen next)
  | charge cycles rest => charge cycles (rest.andThen next)

/-- The result of an activity on a bus, with the registers and the bus that it leaves. -/
def onBus [Arithmetic] (activity : Activity α) (bus : Bus) : Except Fault α × Core × Bus :=
  match activity with
  | done value core => (.ok value, core, bus)
  | fail fault core => (.error fault, core, bus)
  | read core address next =>
    match bus.read address with
    | (.ok byte, bus) => (next byte).onBus bus
    | (.error fault, bus) => (.error fault, core, bus)
  | write core address value next =>
    match bus.write address value with
    | (.ok (), bus) => next.onBus bus
    | (.error fault, bus) => (.error fault, core, bus)
  | charge cycles next => next.onBus (bus.charge cycles)

end Activity

/-- A computation of the processor: an activity for every state of the registers. -/
def Exec (α : Type) : Type := Core → Activity α

namespace Exec

instance : Monad Exec where
  pure value := fun core => .done value core
  bind first next := fun core => (first core).andThen fun value core => next value core

/-- The registers. -/
def core : Exec Core := fun core => .done core core

/-- A change of the registers. -/
def update (change : Core → Core) : Exec Unit := fun core => .done () (change core)

/-- A failure of the processor itself. -/
def fail {α : Type} (fault : Fault) : Exec α := fun core => .fail fault core

/-- The byte that the bus has at an address. -/
def read (address : UInt16) : Exec UInt8 :=
  fun core => .read core address fun byte => .done byte core

/-- A byte given to the bus. -/
def write (address : UInt16) (value : UInt8) : Exec Unit :=
  fun core => .write core address value (.done () core)

/-- The passing of some cycles. -/
def spend (cycles : Nat) : Exec Unit :=
  fun core => .charge cycles (.done () { core with cycles := core.cycles + cycles })

end Exec

end RasterConsole
