import RasterConsole.Fault
import RasterConsole.Word

/-!
# Memory

A flat array of bytes of fixed capacity.  Every access is checked: it succeeds exactly
when all its bytes lie inside the memory, and an access that fails changes nothing.
Words are stored with the low byte first.
-/

namespace RasterConsole

/-- A memory of as many bytes as the array is long. -/
structure Memory where
  cells : Array UInt8
  deriving DecidableEq, Inhabited

namespace Memory

/-- A memory of zeros. -/
def zeroed (capacity : Nat) : Memory := ⟨Array.replicate capacity 0⟩

/-- The number of bytes. -/
def capacity (m : Memory) : Nat := m.cells.size

/-- The fault of an access at `address`. -/
def outside (m : Memory) (address : Nat) : Fault := .addressing address m.capacity

/-- The byte at an address. -/
def read (m : Memory) (address : Nat) : Except Fault UInt8 :=
  match m.cells[address]? with
  | some byte => .ok byte
  | none => .error (m.outside address)

/-- The memory with `byte` stored at `address`, if there is such an address. -/
def store (m : Memory) (address : Nat) (byte : UInt8) : Memory :=
  ⟨m.cells.setIfInBounds address byte⟩

/-- The word at an address.  Of two bytes outside the memory the first is reported. -/
def readWord (m : Memory) (address : Nat) : Except Fault UInt16 := do
  let low ← m.read address
  let high ← m.read (address + 1)
  return wordOf low high

/-- The memory with consecutive bytes stored from `address` on. -/
def storeAll (m : Memory) (address : Nat) : List UInt8 → Memory
  | [] => m
  | byte :: rest => (m.store address byte).storeAll (address + 1) rest

/-- The cause for which a byte cannot be stored at `address`. -/
def writeFault? (m : Memory) (address : Nat) : Option Fault :=
  if address < m.capacity then none else some (m.outside address)

/-- The memory after a byte is written. -/
def write (m : Memory) (address : Nat) (byte : UInt8) : Except Fault Memory :=
  match m.writeFault? address with
  | some fault => .error fault
  | none => .ok (m.store address byte)

/-- The memory after a word is written.  The address of the high byte is reported when it
is outside, also if the low byte is outside too. -/
def writeWord (m : Memory) (address : Nat) (word : UInt16) : Except Fault Memory :=
  if address + 1 < m.capacity then
    .ok (m.storeAll address [lowByte word, highByte word])
  else .error (m.outside (address + 1))

/-- The memory after bytes are copied to `base`.  All of them have to fit. -/
def load (m : Memory) (base : Nat) (bytes : List UInt8) : Except Fault Memory :=
  if base + bytes.length ≤ m.capacity then .ok (m.storeAll base bytes)
  else .error (.loadOverflow base bytes.length m.capacity)

/-- The memory with all bytes zero. -/
def clear (m : Memory) : Memory := zeroed m.capacity

end Memory

end RasterConsole
