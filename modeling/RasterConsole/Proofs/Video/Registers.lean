import Mathlib.Data.List.Induction
import RasterConsole.Proofs.Video.Partial

/-!
# The last write wins

Eight addresses of the register window keep what is written to them.  After any writes to a
new engine each of the eight registers holds the value of the last write to its address, and
nothing else has changed (`Raster.lastWrite_wins`).  All other writes have no effect, and
writes to different addresses can be made in either order.  So what an engine shows depends on
the last values only: two lists of writes leave the same engine if, and only if, they end in
the same values (`Raster.foldl_write_eq_iff`).

The proofs look at a register file through `RegisterFile.value`, one register at a time.  A
write changes the value of one register, and the values of all registers make up the file.
-/

namespace RasterConsole

/-! ### Registers and their addresses -/

namespace Register

/-- The registers that keep a value: all but the one for waiting. -/
def stored : List Register :=
  [verticalSync, verticalBlank, playfieldColor, backgroundColor, playfieldControl,
    playfield .left, playfield .middle, playfield .right]

/-- The address that selects a register. -/
def address : Register → UInt16
  | verticalSync => 0x00
  | verticalBlank => 0x01
  | waitSync => 0x02
  | playfieldColor => 0x08
  | backgroundColor => 0x09
  | playfieldControl => 0x0A
  | playfield .left => 0x0D
  | playfield .middle => 0x0E
  | playfield .right => 0x0F

section

variable {a : UInt16} {register : Register}

theorem ofAddress?_address (register : Register) :
  ofAddress? register.address = some register
  := by
  cases register with
  | playfield part => cases part <;> rfl
  | _ => rfl

/-- Every register is at one address. -/
theorem ofAddress?_eq_some_iff :
  ofAddress? a = some register ↔ a = register.address
  := by
  constructor
  · intro h
    unfold ofAddress? at h
    split at h
    all_goals first
      | cases h
        rfl
      | cases h
  · rintro rfl
    apply ofAddress?_address

theorem address_inj {other : Register} :
  register.address = other.address ↔ register = other
  := by
  rw [← ofAddress?_eq_some_iff, ofAddress?_address, Option.some.injEq]

theorem mem_stored_iff :
  register ∈ stored ↔ register ≠ waitSync
  := by
  cases register with
  | playfield part => cases part <;> decide
  | _ => decide

end

end Register

/-- The addresses that keep what is written to them. -/
def storedAddresses : List UInt16 := [0x00, 0x01, 0x08, 0x09, 0x0A, 0x0D, 0x0E, 0x0F]

theorem mem_storedAddresses_iff {a : UInt16} :
  a ∈ storedAddresses ↔ ∃ register ∈ Register.stored, register.address = a
  := by
  change a ∈ Register.stored.map Register.address ↔ _
  rw [List.mem_map]

/-! ### One register at a time -/

namespace RegisterFile

/-- The value of a register.  The register for waiting has none. -/
def value (file : RegisterFile) : Register → UInt8
  | .verticalSync => file.verticalSync
  | .verticalBlank => file.verticalBlank
  | .waitSync => 0
  | .playfieldColor => file.playfieldColor
  | .backgroundColor => file.backgroundColor
  | .playfieldControl => file.playfieldControl
  | .playfield .left => file.playfieldLeft
  | .playfield .middle => file.playfieldMiddle
  | .playfield .right => file.playfieldRight

section

variable {file file' : RegisterFile} {register other : Register}

/-- The values of its registers make up a register file. -/
theorem ext_value (h : ∀ register ∈ Register.stored, file.value register = file'.value register) :
  file = file'
  := by
  cases file
  cases file'
  simp only [Register.stored, List.forall_mem_cons, value] at h
  simp only [h]

theorem value_set_self (file : RegisterFile) (byte : UInt8) (h : register ∈ Register.stored) :
  (file.set register byte).value register = byte
  := by
  cases register with
  | playfield part => cases part <;> rfl
  | waitSync => cases Register.mem_stored_iff.mp h rfl
  | _ => rfl

/-- To set one register leaves the others alone. -/
theorem value_set_of_ne (file : RegisterFile) (byte : UInt8) (h : other ≠ register) :
  (file.set register byte).value other = file.value other
  := by
  rcases register with _ | _ | _ | _ | _ | _ | ⟨_ | _ | _⟩
  all_goals
    rcases other with _ | _ | _ | _ | _ | _ | ⟨_ | _ | _⟩
    all_goals first
      | rfl
      | contradiction

/-- A write changes the value of the register at its address. -/
theorem value_write (file : RegisterFile) (w : RegisterWrite) (h : register ∈ Register.stored) :
  (file.write w).value register
    = if w.address = register.address then w.value else file.value register
  := by
  unfold write
  split
  · rename_i target htarget
    obtain rfl | hne := eq_or_ne register target
    · rw [if_pos (Register.ofAddress?_eq_some_iff.mp htarget), value_set_self file w.value h]
    · rw [if_neg, value_set_of_ne file w.value hne]
      rw [Register.ofAddress?_eq_some_iff.mp htarget, Register.address_inj]
      apply hne.symm
  · rename_i hnone
    rw [if_neg]
    intro haddress
    rw [haddress, Register.ofAddress?_address] at hnone
    cases hnone

/-- A write elsewhere has no effect. -/
theorem write_of_not_mem (file : RegisterFile) {w : RegisterWrite}
    (h : w.address ∉ storedAddresses) :
  file.write w = file
  := by
  apply ext_value
  intro register hstored
  rw [value_write file w hstored, if_neg]
  intro haddress
  apply h (mem_storedAddresses_iff.mpr ⟨register, hstored, haddress.symm⟩)

/-- Writes to different addresses can be made in either order. -/
theorem write_comm (file : RegisterFile) {w w' : RegisterWrite} (h : w.address ≠ w'.address) :
  (file.write w).write w' = (file.write w').write w
  := by
  apply ext_value
  intro register hstored
  simp only [value_write _ _ hstored]
  split_ifs with hw' hw
  · apply absurd (hw.trans hw'.symm) h
  · rfl
  · rfl
  · rfl

end

end RegisterFile

/-! ### A list of writes -/

/-- The value of the last write to an address, or zero if there is none. -/
def lastValue (ws : List RegisterWrite) (address : UInt16) : UInt8 :=
  ((ws.reverse.find? fun w => w.address = address).map RegisterWrite.value).getD 0

theorem lastValue_concat (ws : List RegisterWrite) (w : RegisterWrite) (address : UInt16) :
  lastValue (ws ++ [w]) address = if w.address = address then w.value else lastValue ws address
  := by
  rw [lastValue, find?_reverse_concat]
  split_ifs
  · rfl
  · rfl

/-- The last writes to every address that keeps a value have the same value in both lists. -/
def EndAlike (ws ws' : List RegisterWrite) : Prop :=
  ∀ address ∈ storedAddresses, lastValue ws' address = lastValue ws address

instance (ws ws' : List RegisterWrite) : Decidable (EndAlike ws ws') :=
  List.decidableBAll _ storedAddresses

namespace RegisterFile

/-- After any writes to a new file the value of a register is that of the last write to its
address. -/
theorem value_foldl_write (ws : List RegisterWrite) {register : Register}
    (h : register ∈ Register.stored) :
  (ws.foldl write {}).value register = lastValue ws register.address
  := by
  -- the last write is taken off, for it is the one that overrides the others
  induction ws using List.reverseRecOn with
  | nil =>
      cases register with
      | playfield part => cases part <;> rfl
      | _ => rfl
  | append_singleton ws w ih =>
      rw [List.foldl_append, lastValue_concat, ← ih]
      apply value_write _ w h

/-- Two lists of writes leave the same registers if they end in the same values, and only
then. -/
theorem foldl_write_eq_iff {ws ws' : List RegisterWrite} :
  ws'.foldl write {} = ws.foldl write {} ↔ EndAlike ws ws'
  := by
  constructor
  · intro h address haddress
    obtain ⟨register, hstored, rfl⟩ := mem_storedAddresses_iff.mp haddress
    rw [← value_foldl_write ws hstored, ← value_foldl_write ws' hstored, h]
  · intro h
    apply ext_value
    intro register hstored
    rw [value_foldl_write ws hstored, value_foldl_write ws' hstored]
    apply h _ (mem_storedAddresses_iff.mpr ⟨register, hstored, rfl⟩)

/-- The registers hold what is told of their addresses, and the signals are on if bit 1 is. -/
structure Holds (file : RegisterFile) (held : UInt16 → UInt8) : Prop where
  verticalSync_eq : file.verticalSync = held 0x00
  verticalBlank_eq : file.verticalBlank = held 0x01
  playfieldColor_eq : file.playfieldColor = held 0x08
  backgroundColor_eq : file.backgroundColor = held 0x09
  playfieldControl_eq : file.playfieldControl = held 0x0A
  playfieldLeft_eq : file.playfieldLeft = held 0x0D
  playfieldMiddle_eq : file.playfieldMiddle = held 0x0E
  playfieldRight_eq : file.playfieldRight = held 0x0F
  syncActive_iff : file.syncActive = true ↔ held 0x00 &&& 0b10 ≠ 0
  blankActive_iff : file.blankActive = true ↔ held 0x01 &&& 0b10 ≠ 0

theorem holds_of_value {file : RegisterFile} {held : UInt16 → UInt8}
    (h : ∀ register ∈ Register.stored, file.value register = held register.address) :
  file.Holds held
  := by
  have hsync : file.verticalSync = held 0x00 := h .verticalSync (by decide)
  have hblank : file.verticalBlank = held 0x01 := h .verticalBlank (by decide)
  have hmask : (0b10 : UInt8).toNat = 2 ^ 1 := rfl
  constructor
  case verticalSync_eq => apply hsync
  case verticalBlank_eq => apply hblank
  case playfieldColor_eq => apply h .playfieldColor (by decide)
  case backgroundColor_eq => apply h .backgroundColor (by decide)
  case playfieldControl_eq => apply h .playfieldControl (by decide)
  case playfieldLeft_eq => apply h (.playfield .left) (by decide)
  case playfieldMiddle_eq => apply h (.playfield .middle) (by decide)
  case playfieldRight_eq => apply h (.playfield .right) (by decide)
  case syncActive_iff =>
    rw [syncActive, hsync, ← and_mask_ne_zero hmask, bne_iff_ne]
  case blankActive_iff =>
    rw [blankActive, hblank, ← and_mask_ne_zero hmask, bne_iff_ne]

theorem holds_foldl_write (ws : List RegisterWrite) :
  (ws.foldl write {}).Holds (lastValue ws)
  := by
  apply holds_of_value
  intro register hstored
  apply value_foldl_write ws hstored

end RegisterFile

/-! ### The writes of an engine -/

namespace Raster

/-- Two lists of writes leave the same engine if they end in the same values, and only then. -/
theorem foldl_write_eq_iff [Arithmetic] {g : Geometry} {ws ws' : List RegisterWrite} :
  ws'.foldl write (fresh g) = ws.foldl write (fresh g) ↔ EndAlike ws ws'
  := by
  rw [← RegisterFile.foldl_write_eq_iff, foldl_write, foldl_write]
  constructor
  · intro h
    apply congrArg Raster.registers h
  · intro h
    change { fresh g with registers := ws'.foldl RegisterFile.write {} } = _
    rw [h]
    rfl

/-- Two engines give every scanline the same band and every column the same color. -/
structure ShowsAlike [Arithmetic] (r r' : Raster) : Prop where
  classify_eq : ∀ scanline, r'.classify scanline = r.classify scanline
  pixelColor_eq : ∀ x, r'.pixelColor x = r.pixelColor x

/-- What an engine makes of register writes, whatever it has been through. -/
structure TakesWrites (r : Raster) : Prop where
  /-- A write to an address that keeps no value has no effect. -/
  ignores : ∀ w : RegisterWrite, w.address ∉ storedAddresses → r.write w = r
  /-- Writes to different addresses can be made in either order. -/
  swaps : ∀ w w' : RegisterWrite, w.address ≠ w'.address →
    (r.write w).write w' = (r.write w').write w
  /-- A write does not move the beam, paint a pixel or change a count. -/
  spares : ∀ w : RegisterWrite, r.write w = { r with registers := (r.write w).registers }

theorem takesWrites (r : Raster) :
  r.TakesWrites
  := by
  constructor
  case ignores =>
    intro w h
    rw [write, RegisterFile.write_of_not_mem r.registers h]
  case swaps =>
    intro w w' h
    simp only [write, RegisterFile.write_comm r.registers h]
  case spares =>
    intro w
    rfl

/-- After any writes to a new engine its registers hold the last value written to each of them,
and only these values count for what the engine shows. -/
theorem lastWrite_wins [Arithmetic] (g : Geometry) (ws : List RegisterWrite) :
  (ws.foldl write (fresh g)).registers.Holds (lastValue ws)
    ∧ (∀ ws', EndAlike ws ws' →
      (ws.foldl write (fresh g)).ShowsAlike (ws'.foldl write (fresh g)))
    ∧ ∀ r : Raster, r.TakesWrites
  := by
  refine ⟨?_, ?_, takesWrites⟩
  · rw [foldl_write]
    apply RegisterFile.holds_foldl_write
  · intro ws' h
    rw [foldl_write_eq_iff.mpr h]
    exact ⟨fun _ => rfl, fun _ => rfl⟩

/-- Writes of which two count: the others are overridden or go where nothing is kept. -/
def smallWrites : List RegisterWrite :=
  [⟨0x0D, 0xFF⟩, ⟨0x02, 0x55⟩, ⟨0x08, 0x0E⟩, ⟨0x4D, 0x77⟩, ⟨0x0D, 0x10⟩, ⟨0x0C, 0x33⟩]

/-- The two writes that count, in the other order, give every column the same color. -/
theorem lastWrite_wins_small :
  EndAlike smallWrites [⟨0x0D, 0x10⟩, ⟨0x08, 0x0E⟩]
    ∧ (smallWrites.foldl write (fresh .small)).ShowsAlike
      ([⟨0x0D, 0x10⟩, ⟨0x08, 0x0E⟩].foldl write (fresh .small))
    ∧ (smallWrites.foldl write (fresh .small)).registers.playfieldLeft = 0x10
  := by
  have hends : EndAlike smallWrites [⟨0x0D, 0x10⟩, ⟨0x08, 0x0E⟩] := by decide
  obtain ⟨hholds, halike, -⟩ := lastWrite_wins .small smallWrites
  exact ⟨hends, halike _ hends, hholds.playfieldLeft_eq⟩

end Raster

end RasterConsole
