/-!
# The registers of the raster engine

Writes to the first `windowSize` addresses reach registers instead of memory.
`Register.ofAddress?` says which register an address selects; `RegisterFile` holds the
values written last.  One register, `waitSync`, holds no value: an access to it is a
request to wait for the end of the line.
-/

namespace RasterConsole

/-- The number of addresses, from zero on, that select registers. -/
def windowSize : UInt16 := 0x40

/-- One of the three registers that hold the playfield pattern. -/
inductive PlayfieldPart where
  | left
  | middle
  | right
  deriving Repr, DecidableEq

/-- The target of a register write. -/
inductive Register where
  | verticalSync
  | verticalBlank
  | waitSync
  | playfieldColor
  | backgroundColor
  | playfieldControl
  | playfield (part : PlayfieldPart)
  deriving Repr, DecidableEq

namespace Register

/-- The register at an address, if there is one. -/
def ofAddress? (address : UInt16) : Option Register :=
  match address with
  | 0x00 => some verticalSync
  | 0x01 => some verticalBlank
  | 0x02 => some waitSync
  | 0x08 => some playfieldColor
  | 0x09 => some backgroundColor
  | 0x0A => some playfieldControl
  | 0x0D => some (playfield .left)
  | 0x0E => some (playfield .middle)
  | 0x0F => some (playfield .right)
  | _ => none

/-- Whether an access to the register is a timing request and leaves no value. -/
def isStrobe : Register → Bool
  | waitSync => true
  | _ => false

end Register

/-- Whether an access to the address is a timing request. -/
def isStrobeAddress (address : UInt16) : Bool :=
  match Register.ofAddress? address with
  | some register => register.isStrobe
  | none => false

/-- A byte on its way to a register. -/
structure RegisterWrite where
  address : UInt16
  value : UInt8
  deriving Repr, DecidableEq

/-- The values of all registers. -/
structure RegisterFile where
  verticalSync : UInt8 := 0
  verticalBlank : UInt8 := 0
  backgroundColor : UInt8 := 0
  playfieldColor : UInt8 := 0
  playfieldLeft : UInt8 := 0
  playfieldMiddle : UInt8 := 0
  playfieldRight : UInt8 := 0
  playfieldControl : UInt8 := 0
  deriving Repr, DecidableEq, Inhabited

namespace RegisterFile

/-- The file after a byte is written to a register. -/
def set (file : RegisterFile) (register : Register) (value : UInt8) : RegisterFile :=
  match register with
  | .verticalSync => { file with verticalSync := value }
  | .verticalBlank => { file with verticalBlank := value }
  | .waitSync => file
  | .playfieldColor => { file with playfieldColor := value }
  | .backgroundColor => { file with backgroundColor := value }
  | .playfieldControl => { file with playfieldControl := value }
  | .playfield .left => { file with playfieldLeft := value }
  | .playfield .middle => { file with playfieldMiddle := value }
  | .playfield .right => { file with playfieldRight := value }

/-- The file after a write to an address, which has no effect if no register is there. -/
def write (file : RegisterFile) (w : RegisterWrite) : RegisterFile :=
  match Register.ofAddress? w.address with
  | some register => file.set register w.value
  | none => file

/-- The byte that a read finds at any address of the window: registers cannot be read. -/
def read (_file : RegisterFile) (_address : UInt16) : UInt8 := 0

/-- Whether the vertical sync signal is on, which bit 1 of its register says. -/
def syncActive (file : RegisterFile) : Bool := file.verticalSync.toNat.testBit 1

/-- Whether the vertical blank signal is on, which bit 1 of its register says. -/
def blankActive (file : RegisterFile) : Bool := file.verticalBlank.toNat.testBit 1

/-- Whether the right half of the playfield shows the cells in reverse order. -/
def reflect (file : RegisterFile) : Bool := file.playfieldControl.toNat.testBit 0

/-- Whether the playfield takes the colors of the players. -/
def score (file : RegisterFile) : Bool := file.playfieldControl.toNat.testBit 1

/-- Whether the playfield lies in front. -/
def priority (file : RegisterFile) : Bool := file.playfieldControl.toNat.testBit 2

/-- The size of the ball, a number below four. -/
def ballSize (file : RegisterFile) : Nat := file.playfieldControl.toNat / 16 % 4

/-- Whether one of the twenty cells of a half line is set, counted from the left: the high
half of the first register from its low bit up, the second register from its high bit
down, the third from its low bit up.  There is nothing beyond. -/
def cell (file : RegisterFile) (n : Nat) : Bool :=
  if n < 4 then file.playfieldLeft.toNat.testBit (4 + n)
  else if n < 12 then file.playfieldMiddle.toNat.testBit (11 - n)
  else if n < 20 then file.playfieldRight.toNat.testBit (n - 12)
  else false

end RegisterFile

end RasterConsole
