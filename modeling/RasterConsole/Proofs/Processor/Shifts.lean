import Mathlib.Data.List.Nodup
import RasterConsole.Proofs.Processor.Arithmetic
import RasterConsole.Proofs.Processor.Timing

/-!
# Shifting numbers of many bytes

A program doubles a number of many bytes by shifting its bytes left, from the lowest one up, and
halves it by shifting them right, from the highest one down.  The bit that goes out of a byte comes
into the next one as the carry (`Alu.Direction.shiftRow`).

To shift a row left is to add it to itself, so its number and the carry that it leaves are known
from one equation (`Radix.number_shiftRow_left`).  To shift it right is to go back, from the other
end (`Alu.Direction.shiftRow_opposite`), so the same equation, read the other way round, tells what
that comes to.  A processor whose instructions go over the bytes of a number in memory in this order
does to it what is done to the row (`Processor.shifts_number`).
-/

namespace RasterConsole

namespace Alu

/-- Where the bits of a byte move. -/
inductive Direction where
  | left
  | right
  deriving DecidableEq

namespace Direction

/-- A byte shifted, with a bit coming in at one end, and the bit that goes out at the other. -/
def shift : Direction → Bool → UInt8 → UInt8 × Bool
  | left => shiftLeft
  | right => shiftRight

def opposite : Direction → Direction
  | left => right
  | right => left

/-- The mnemonic of a shift, given whether the carry comes in. -/
def mnemonic : Direction → Bool → Mnemonic
  | left, false => .asl
  | left, true => .rol
  | right, false => .lsr
  | right, true => .ror

/-- The bytes of a row shifted one after the other, and the bit that goes out of the last one. -/
def shiftRow (d : Direction) (carry : Bool) : List UInt8 → List UInt8 × Bool
  | [] => ([], carry)
  | byte :: rest =>
    let (result, out) := d.shift carry byte
    let (results, last) := d.shiftRow out rest
    (result :: results, last)

end Direction

/-! ### One byte -/

section

variable {carry out : Bool} {byte result : UInt8}

theorem shiftLeft_eq_iff :
  shiftLeft carry byte = (result, out)
    ↔ result.toNat + 256 * out.toNat = 2 * byte.toNat + carry.toNat
  := by
  have hbyte := byte.toNat_lt
  have hresult := result.toNat_lt
  have hcarry := carry.toNat_le
  rw [shiftLeft, Prod.mk.injEq, ← UInt8.toNat_inj, UInt8.toNat_ofNat', isNegative]
  cases out with
  | false =>
      rw [decide_eq_false_iff_not, Bool.toNat_false]
      omega
  | true =>
      rw [decide_eq_true_iff, Bool.toNat_true]
      omega

theorem shiftRight_eq_iff :
  shiftRight carry byte = (result, out)
    ↔ 2 * result.toNat + out.toNat = byte.toNat + 256 * carry.toNat
  := by
  have hbyte := byte.toNat_lt
  have hresult := result.toNat_lt
  have hcarry := carry.toNat_le
  rw [shiftRight, Prod.mk.injEq, ← UInt8.toNat_inj, UInt8.toNat_ofNat']
  cases out with
  | false =>
      rw [beq_eq_false_iff_ne, Bool.toNat_false]
      omega
  | true =>
      rw [beq_iff_eq, Bool.toNat_true]
      omega

/-- To shift a byte the other way, with the bit that went out, is to go back. -/
theorem Direction.shift_opposite {d : Direction} (h : d.shift carry byte = (result, out)) :
  d.opposite.shift out result = (byte, carry)
  := by
  cases d with
  | left =>
      apply shiftRight_eq_iff.mpr
      rw [← shiftLeft_eq_iff.mp h]
  | right =>
      apply shiftLeft_eq_iff.mpr
      rw [shiftRight_eq_iff.mp h]

end

/-! ### Rows of bytes -/

namespace Direction

variable (d : Direction) (carry : Bool)

theorem shiftRow_cons (byte : UInt8) (rest : List UInt8) :
  d.shiftRow carry (byte :: rest)
    = ((d.shift carry byte).1 :: (d.shiftRow (d.shift carry byte).2 rest).1,
      (d.shiftRow (d.shift carry byte).2 rest).2)
  := rfl

theorem shiftRow_concat (bytes : List UInt8) (byte : UInt8) :
  d.shiftRow carry (bytes ++ [byte])
    = ((d.shiftRow carry bytes).1 ++ [(d.shift (d.shiftRow carry bytes).2 byte).1],
      (d.shift (d.shiftRow carry bytes).2 byte).2)
  := by
  induction bytes generalizing carry with
  | nil => rfl
  | cons first rest ih => rw [List.cons_append, shiftRow_cons, ih, shiftRow_cons, List.cons_append]

/-- To shift a row the other way from its other end is to go back. -/
theorem shiftRow_opposite (bytes : List UInt8) :
  d.opposite.shiftRow (d.shiftRow carry bytes).2 (d.shiftRow carry bytes).1.reverse
    = (bytes.reverse, carry)
  := by
  induction bytes generalizing carry with
  | nil => rfl
  | cons byte rest ih =>
      have hback : d.opposite.shift (d.shift carry byte).2 (d.shift carry byte).1 = (byte, carry) :=
        shift_opposite rfl
      simp only [shiftRow_cons, List.reverse_cons, shiftRow_concat, ih, hback]

@[simp]
theorem length_shiftRow (bytes : List UInt8) :
  (d.shiftRow carry bytes).1.length = bytes.length
  := by
  induction bytes generalizing carry with
  | nil => rfl
  | cons byte rest ih => rw [shiftRow_cons, List.length_cons, List.length_cons, ih]

end Direction

end Alu

/-! ### Rows as numbers -/

namespace Radix

open Alu

section

variable {bytes : List UInt8}

theorem number_binary_cons (byte : UInt8) (bytes : List UInt8) :
  binary.number (byte :: bytes) = byte.toNat + 256 * binary.number bytes
  := number_cons binary byte bytes

theorem number_binary_lt (bytes : List UInt8) :
  binary.number bytes < 256 ^ bytes.length
  := number_lt fun _ _ => trivial

/-- A row that is shifted left is added to itself. -/
theorem number_shiftRow_left (carry : Bool) (bytes : List UInt8) :
  binary.number (Direction.left.shiftRow carry bytes).1
      + 256 ^ bytes.length * (Direction.left.shiftRow carry bytes).2.toNat
    = 2 * binary.number bytes + carry.toNat
  := by
  induction bytes generalizing carry with
  | nil => simp [Direction.shiftRow]
  | cons byte rest ih =>
      rcases hshift : Direction.left.shift carry byte with ⟨result, out⟩
      have hbyte := shiftLeft_eq_iff.mp hshift
      have hrest := ih out
      rw [Direction.shiftRow_cons, hshift, number_binary_cons, number_binary_cons,
        List.length_cons, pow_succ']
      generalize Direction.left.shiftRow out rest = row at hrest ⊢
      calc result.toNat + 256 * binary.number row.1 + 256 * 256 ^ rest.length * row.2.toNat
          = result.toNat + 256 * (binary.number row.1 + 256 ^ rest.length * row.2.toNat) := by ring
        _ = result.toNat + 256 * out.toNat + 256 * (2 * binary.number rest) := by
          rw [hrest]
          ring
        _ = 2 * (byte.toNat + 256 * binary.number rest) + carry.toNat := by
          rw [hbyte]
          ring

theorem limit_eq_two_mul (h : bytes ≠ []) :
  256 ^ bytes.length = 2 * 2 ^ (8 * bytes.length - 1)
  := by
  have hlength : bytes.length ≠ 0 := mt List.length_eq_zero_iff.mp h
  have hexponent : 8 * bytes.length = 8 * bytes.length - 1 + 1 := by omega
  rw [show 256 = 2 ^ 8 from rfl, ← pow_mul, hexponent, pow_succ', Nat.add_sub_cancel]

/-- The top bit says which half a number is in. -/
theorem testBit_top (h : bytes ≠ []) :
  (binary.number bytes).testBit (8 * bytes.length - 1)
    = decide (2 ^ (8 * bytes.length - 1) ≤ binary.number bytes)
  := by
  have hlt := number_binary_lt bytes
  rw [limit_eq_two_mul h, ← pow_succ'] at hlt
  rcases Nat.lt_or_ge (binary.number bytes) (2 ^ (8 * bytes.length - 1)) with hlow | hhigh
  · rw [Nat.testBit_lt_two_pow hlow, decide_eq_false hlow.not_ge]
  · rw [Nat.testBit_of_two_pow_le_and_two_pow_add_one_gt hhigh hlt, decide_eq_true hhigh]

end

end Radix

namespace Alu.Direction

open Radix

/-- The number that a number of some length becomes when a bit is shifted in. -/
def shifted (d : Direction) (length : Nat) (carry : Bool) (number : Nat) : Nat :=
  match d with
  | left => (2 * number + carry.toNat) % 256 ^ length
  | right => number / 2 + carry.toNat * 2 ^ (8 * length - 1)

/-- The bit that goes out of a number of some length. -/
def dropped (d : Direction) (length number : Nat) : Bool :=
  match d with
  | left => number.testBit (8 * length - 1)
  | right => number.testBit 0

/-- The bytes of a row in the order in which they are shifted, the row being given from the lowest
one up. -/
def order {α : Type} (d : Direction) (row : List α) : List α :=
  match d with
  | left => row
  | right => row.reverse

section

variable {α : Type} (d : Direction) (row : List α)

@[simp]
theorem length_order :
  (d.order row).length = row.length
  := by
  cases d with
  | left => rfl
  | right => exact List.length_reverse

@[simp]
theorem order_order :
  d.order (d.order row) = row
  := by
  cases d with
  | left => rfl
  | right => exact List.reverse_reverse row

@[simp]
theorem mem_order {item : α} :
  item ∈ d.order row ↔ item ∈ row
  := by
  cases d with
  | left => exact Iff.rfl
  | right => exact List.mem_reverse

theorem nodup_order {row : List α} (h : row.Nodup) :
  (d.order row).Nodup
  := by
  cases d with
  | left => exact h
  | right => exact List.nodup_reverse.mpr h

end

/-- A row shifted from the lowest byte up, or from the highest byte down. -/
def shiftNumber (d : Direction) (carry : Bool) (bytes : List UInt8) : List UInt8 × Bool :=
  (d.order (d.shiftRow carry (d.order bytes)).1, (d.shiftRow carry (d.order bytes)).2)

variable {bytes : List UInt8}

/-- To shift a number the other way is to go back. -/
theorem shiftNumber_opposite (d : Direction) (carry : Bool) (bytes : List UInt8) :
  d.opposite.shiftNumber (d.shiftNumber carry bytes).2 (d.shiftNumber carry bytes).1
    = (bytes, carry)
  := by
  have hback := d.shiftRow_opposite carry (d.order bytes)
  cases d with
  | left =>
      simp only [shiftNumber, order, opposite] at hback ⊢
      rw [hback, List.reverse_reverse]
  | right =>
      simp only [shiftNumber, order, opposite] at hback ⊢
      rw [hback, List.reverse_reverse]

theorem length_shiftNumber (d : Direction) (carry : Bool) (bytes : List UInt8) :
  (d.shiftNumber carry bytes).1.length = bytes.length
  := by
  cases d with
  | left => exact left.length_shiftRow carry bytes
  | right => simp only [shiftNumber, order, List.length_reverse, length_shiftRow]

/-- The bytes hold the double as far as there is room for it, and the carry says whether that is not
all. -/
theorem number_shiftNumber_left (carry : Bool) (h : bytes ≠ []) :
  binary.number (left.shiftNumber carry bytes).1
      = (2 * binary.number bytes + carry.toNat) % 256 ^ bytes.length
    ∧ (left.shiftNumber carry bytes).2 = (binary.number bytes).testBit (8 * bytes.length - 1)
  := by
  have hlimit := limit_eq_two_mul h
  have hcarry := carry.toNat_le
  have hresult := number_binary_lt (left.shiftNumber carry bytes).1
  have hsum : binary.number (left.shiftNumber carry bytes).1
        + 256 ^ bytes.length * (left.shiftNumber carry bytes).2.toNat
      = 2 * binary.number bytes + carry.toNat := number_shiftRow_left carry bytes
  rw [length_shiftNumber] at hresult
  rw [← hsum, testBit_top h]
  cases hout : (left.shiftNumber carry bytes).2 with
  | false =>
      rw [hout] at hsum
      simp only [Bool.toNat_false, Nat.mul_zero, Nat.add_zero] at hsum ⊢
      exact ⟨(Nat.mod_eq_of_lt hresult).symm, (decide_eq_false (by omega)).symm⟩
  | true =>
      rw [hout] at hsum
      simp only [Bool.toNat_true, Nat.mul_one, Nat.add_mod_right] at hsum ⊢
      exact ⟨(Nat.mod_eq_of_lt hresult).symm, (decide_eq_true (by omega)).symm⟩

/-- The bytes hold the half, below the carry that came in, and the carry holds the rest. -/
theorem number_shiftNumber_right (carry : Bool) (h : bytes ≠ []) :
  binary.number (right.shiftNumber carry bytes).1
      = binary.number bytes / 2 + carry.toNat * 2 ^ (8 * bytes.length - 1)
    ∧ (right.shiftNumber carry bytes).2 = (binary.number bytes).testBit 0
  := by
  -- to double the result, with the bit that went out, gives the number back
  have hback : left.shiftRow (right.shiftNumber carry bytes).2 (right.shiftNumber carry bytes).1
      = (bytes, carry) := right.shiftNumber_opposite carry bytes
  have hsum := number_shiftRow_left (right.shiftNumber carry bytes).2
    (right.shiftNumber carry bytes).1
  have hcarry : 2 * 2 ^ (8 * bytes.length - 1) * carry.toNat
      = 2 * (carry.toNat * 2 ^ (8 * bytes.length - 1)) := by ring
  rw [hback, length_shiftNumber, limit_eq_two_mul h, hcarry] at hsum
  rw [Nat.testBit_zero]
  dsimp only at hsum
  cases hout : (right.shiftNumber carry bytes).2 with
  | false =>
      rw [hout, Bool.toNat_false] at hsum
      exact ⟨by omega, (decide_eq_false (by omega)).symm⟩
  | true =>
      rw [hout, Bool.toNat_true] at hsum
      exact ⟨by omega, (decide_eq_true (by omega)).symm⟩

/-- A row that is shifted becomes the row of the shifted number. -/
theorem number_shiftNumber (d : Direction) (carry : Bool) (h : bytes ≠ []) :
  binary.number (d.shiftNumber carry bytes).1
      = d.shifted bytes.length carry (binary.number bytes)
    ∧ (d.shiftNumber carry bytes).2 = d.dropped bytes.length (binary.number bytes)
  := by
  cases d with
  | left => exact number_shiftNumber_left carry h
  | right => exact number_shiftNumber_right carry h

end Alu.Direction

/-! ### Rows in memory -/

namespace Memory

/-- The bytes of a row are what some cells of a memory hold. -/
def Row (m : Memory) (cells : List Nat) (bytes : List UInt8) : Prop :=
  cells.map m.read = bytes.map Except.ok

variable {m m' : Memory} {cell : Nat} {cells : List Nat} {byte : UInt8} {bytes : List UInt8}

theorem row_cons :
  m.Row (cell :: cells) (byte :: bytes) ↔ m.read cell = .ok byte ∧ m.Row cells bytes
  := by
  rw [Row, List.map_cons, List.map_cons, List.cons.injEq]
  exact Iff.rfl

theorem Row.length_eq (h : m.Row cells bytes) :
  cells.length = bytes.length
  := by
  rw [← List.length_map m.read, h, List.length_map]

theorem Row.order (d : Alu.Direction) (h : m.Row cells bytes) :
  m.Row (d.order cells) (d.order bytes)
  := by
  cases d with
  | left => exact h
  | right =>
      have hreverse := congrArg List.reverse h
      rw [← List.map_reverse, ← List.map_reverse] at hreverse
      exact hreverse

/-- Cells that hold the same row hold the same bytes. -/
theorem Row.read_eq (h : m.Row cells bytes) (h' : m'.Row cells bytes) (hcell : cell ∈ cells) :
  m'.read cell = m.read cell
  := List.map_inj_left.mp (h'.trans h.symm) cell hcell

/-- A row stays in cells that are not changed. -/
theorem Row.of_keptOutside {others : List Nat} (h : m.Row cells bytes)
    (hkept : m.KeptOutside others m') (hothers : ∀ cell ∈ cells, cell ∉ others) :
  m'.Row cells bytes
  := by
  rw [Row, ← h]
  apply List.map_congr_left
  intro cell hcell
  exact hkept.read_eq cell (hothers cell hcell)

/-- A byte that is stored in the first cell of a row does not change the others. -/
theorem Row.store (h : m.Row (cell :: cells) (byte :: bytes)) (hnew : cell ∉ cells)
    (result : UInt8) :
  (m.store cell result).read cell = .ok result ∧ (m.store cell result).Row cells bytes
  := by
  obtain ⟨hread, hrest⟩ := row_cons.mp h
  constructor
  · exact read_store_self result (lt_of_read hread)
  · apply hrest.of_keptOutside (keptOutside_store (List.mem_singleton_self cell) m result)
    intro other hother hsame
    obtain rfl := List.mem_singleton.mp hsame
    exact hnew hother

end Memory

/-- The registers after a shift with some result and some bit that went out. -/
def Core.shifted (core : Core) (outcome : UInt8 × Bool) : Core :=
  { core with status := { core.status with carry := outcome.2 }.seen outcome.1 }

namespace Exec

open Alu

variable {core : Core} {m : Memory}

theorem execute_shift (irqVector : UInt16) (d : Direction) (carried : Bool) (op : Operand) :
  execute irqVector (d.mnemonic carried) op = shift op d.shift carried
  := by
  cases d <;> cases carried <;> rfl

/-- The byte in a cell is shifted with the carry as it was, and what goes out is the carry. -/
theorem onMemory_shift {address : UInt16} {byte : UInt8} (haddress : 0x40 ≤ address.toNat)
    (hread : m.read address.toNat = .ok byte) (direction : Bool → UInt8 → UInt8 × Bool)
    (carried : Bool) (core : Core) :
  (shift (.memory address) direction carried core).onMemory m
    = (.ok (), core.shifted (direction (carried && core.status.carry) byte),
      m.store address.toNat (direction (carried && core.status.carry) byte).1)
  := by
  have hwindow : ¬ address < windowSize := by
    rw [UInt16.lt_iff_toNat_lt]
    exact haddress.not_gt
  have hanswer : m.answer address = .ok byte := (Memory.answer_of_outside hwindow m).trans hread
  have hcourse : shift (.memory address) direction carried core
      = .read core address fun byte =>
        .write
          { core with status := { core.status with
              carry := (direction (carried && core.status.carry) byte).2 } }
          address (direction (carried && core.status.carry) byte).1
          (.done () (core.shifted (direction (carried && core.status.carry) byte))) := rfl
  rw [hcourse, Activity.onMemory_read_of_ok hanswer,
    Activity.onMemory_write_of_lt hwindow (Memory.lt_of_read hread)]
  rfl

end Exec

namespace Processor

/-! ### Programs that go from byte to byte -/

/-- What the processor is about to do: the mnemonic of the instruction that it comes to, and the
address in memory that this works on. -/
def task? (p : Processor) : Option (Mnemonic × Nat) :=
  p.current?.bind fun i =>
    (i.mode.address? p.core p.bus.memory).map fun address => (i.mnemonic, address)

/-- One step after the other the processor comes to these tasks. -/
def Performs [Arithmetic] (p : Processor) : List (Mnemonic × Nat) → Prop
  | [] => True
  | task :: rest => p.task? = some task ∧ p.step.2.Performs rest

/-- A number of steps, of which a failure is the last one. -/
def steps [Arithmetic] (p : Processor) : Nat → Except Fault Unit × Processor
  | 0 => (.ok (), p)
  | n + 1 =>
    match p.step with
    | (.ok (), p) => p.steps n
    | (.error fault, p) => (.error fault, p)

end Processor

namespace Alu.Direction

/-- A shift of each of some cells, of which the first one may leave out the carry. -/
def tasks (d : Direction) (carried : Bool) : List Nat → List (Mnemonic × Nat)
  | [] => []
  | cell :: rest => (d.mnemonic carried, cell) :: d.tasks true rest

/-- A shift of a number of some bytes that lies from `base` on.  For the byte that it begins with it
may leave out the carry. -/
def pass (d : Direction) (carried : Bool) (base length : Nat) : List (Mnemonic × Nat) :=
  d.tasks carried (d.order (List.range' base length))

theorem length_tasks (d : Direction) (carried : Bool) (cells : List Nat) :
  (d.tasks carried cells).length = cells.length
  := by
  induction cells generalizing carried with
  | nil => rfl
  | cons cell rest ih => exact congrArg (· + 1) (ih true)

theorem length_pass (d : Direction) (carried : Bool) (base length : Nat) :
  (d.pass carried base length).length = length
  := by
  rw [pass, length_tasks, length_order, List.length_range']

end Alu.Direction

namespace Processor

open Alu

variable {p : Processor} {d : Direction} {carried : Bool} {cell : Nat} {byte : UInt8}

/-- A step that shifts the byte in a cell. -/
theorem step_shift [Arithmetic] (htask : p.task? = some (d.mnemonic carried, cell))
    (hcell : 0x40 ≤ cell)
    (hread : p.bus.memory.read cell = .ok byte) :
  p.step.1 = .ok ()
    ∧ p.step.2.core.status.carry = (d.shift (carried && p.core.status.carry) byte).2
    ∧ p.step.2.bus.memory
      = p.bus.memory.store cell (d.shift (carried && p.core.status.carry) byte).1
  := by
  obtain ⟨i, hcurrent, htask⟩ := Option.bind_eq_some_iff.mp htask
  obtain ⟨address, haddress, htask⟩ := Option.map_eq_some_iff.mp htask
  obtain ⟨hmnemonic, rfl⟩ := Prod.mk.inj htask
  obtain ⟨op, ⟨hop, -, -⟩, hgoes⟩ | ⟨hlost, -⟩ := onMemory_of_current? hcurrent
  · rw [haddress] at hop
    cases op with
    | memory word =>
        obtain rfl := Option.some.inj hop
        rw [hmnemonic, Exec.execute_shift, Exec.onMemory_shift hcell hread] at hgoes
        obtain ⟨hresult, hcore, hmemory⟩ := step_of_onMemory hgoes
        rw [hresult, hcore, hmemory]
        exact ⟨rfl, rfl, rfl⟩
    | absent | accumulator | immediate _ | offset _ => cases hop
  · cases hlost.symm.trans haddress

theorem steps_succ_of_ok [Arithmetic] (h : p.step.1 = .ok ()) (n : Nat) :
  p.steps (n + 1) = p.step.2.steps n
  := by
  rw [steps]
  rcases hstep : p.step with ⟨_ | _, q⟩
  · rw [hstep] at h
    cases h
  · rfl

/-- Steps that shift the bytes in some cells, one after the other. -/
theorem steps_tasks [Arithmetic] {cells : List Nat} {bytes : List UInt8}
    (htasks : p.Performs (d.tasks carried cells)) (hcells : ∀ cell ∈ cells, 0x40 ≤ cell)
    (hnodup : cells.Nodup) (hrow : p.bus.memory.Row cells bytes)
    (hcarried : cells = [] → carried = true) :
  ∃ q, p.steps cells.length = (.ok (), q)
    ∧ q.core.status.carry = (d.shiftRow (carried && p.core.status.carry) bytes).2
    ∧ q.bus.memory.Row cells (d.shiftRow (carried && p.core.status.carry) bytes).1
    ∧ p.bus.memory.KeptOutside cells q.bus.memory
  := by
  induction cells generalizing p carried bytes with
  | nil =>
      obtain rfl := List.length_eq_zero_iff.mp hrow.length_eq.symm
      refine ⟨p, rfl, ?_, rfl, .refl _ _⟩
      rw [hcarried rfl]
      rfl
  | cons cell rest ih =>
      obtain _ | ⟨byte, bytes⟩ := bytes
      · cases hrow.length_eq
      obtain ⟨htask, htasks⟩ := htasks
      obtain ⟨hcell, hcells⟩ := List.forall_mem_cons.mp hcells
      obtain ⟨hnew, hnodup⟩ := List.nodup_cons.mp hnodup
      obtain ⟨hok, hcarry, hmemory⟩ := step_shift htask hcell (Memory.row_cons.mp hrow).1
      obtain ⟨hread, hrest⟩ :=
        hrow.store hnew (d.shift (carried && p.core.status.carry) byte).1
      have hkept := Memory.keptOutside_store (List.mem_singleton_self cell) p.bus.memory
        (d.shift (carried && p.core.status.carry) byte).1
      rw [← hmemory] at hread hrest hkept
      obtain ⟨q, hsteps, hcarry', hrow', hkept'⟩ := ih htasks hcells hnodup hrest fun _ => rfl
      rw [Bool.true_and, hcarry] at hcarry' hrow'
      refine ⟨q, ?_, hcarry', ?_, ?_⟩
      · rw [List.length_cons, steps_succ_of_ok hok, hsteps]
      · rw [Direction.shiftRow_cons]
        exact Memory.row_cons.mpr ⟨(hkept'.read_eq cell hnew).trans hread, hrow'⟩
      · apply (hkept.mono _).trans (hkept'.mono (List.subset_cons_self cell rest))
        exact List.cons_subset_cons cell (List.nil_subset rest)

/-- Steps that shift a number that lies in memory from `base` on. -/
theorem steps_pass [Arithmetic] {base : Nat} {bytes : List UInt8}
    (hpass : p.Performs (d.pass carried base bytes.length)) (hbase : 0x40 ≤ base)
    (hrow : p.bus.memory.Row (List.range' base bytes.length) bytes) (hne : bytes ≠ []) :
  ∃ q, p.steps bytes.length = (.ok (), q)
    ∧ q.core.status.carry = (d.shiftNumber (carried && p.core.status.carry) bytes).2
    ∧ q.bus.memory.Row (List.range' base bytes.length)
      (d.shiftNumber (carried && p.core.status.carry) bytes).1
    ∧ p.bus.memory.KeptOutside (List.range' base bytes.length) q.bus.memory
  := by
  have hlength : (d.order (List.range' base bytes.length)).length = bytes.length := by
    rw [d.length_order, List.length_range']
  have hcells : ∀ cell ∈ d.order (List.range' base bytes.length), 0x40 ≤ cell := by
    intro cell hcell
    exact hbase.trans (List.mem_range'_1.mp ((d.mem_order _).mp hcell)).1
  have hnodup := d.nodup_order (List.nodup_range' (s := base) (n := bytes.length))
  have hnonempty : d.order (List.range' base bytes.length) = [] → carried = true := by
    intro hnil
    rw [hnil] at hlength
    exact absurd (List.length_eq_zero_iff.mp hlength.symm) hne
  obtain ⟨q, hsteps, hcarry, hshifted, hkept⟩ :=
    steps_tasks hpass hcells hnodup (hrow.order d) hnonempty
  rw [hlength] at hsteps
  refine ⟨q, hsteps, hcarry, ?_, ?_⟩
  · have hback := hshifted.order d
    rw [d.order_order] at hback
    exact hback
  · exact hkept.mono fun cell hcell => (d.mem_order _).mp hcell

/-- After some steps the processor comes to the tasks that follow. -/
theorem Performs.of_append [Arithmetic] {q : Processor} {tasks more : List (Mnemonic × Nat)}
    (h : p.Performs (tasks ++ more)) (hsteps : p.steps tasks.length = (.ok (), q)) :
  q.Performs more ∧ ∀ n, p.steps (tasks.length + n) = q.steps n
  := by
  induction tasks generalizing p with
  | nil =>
      cases hsteps
      exact ⟨h, fun n => by rw [List.length_nil, Nat.zero_add]⟩
  | cons task rest ih =>
      have hok : p.step.1 = .ok () := by
        rw [List.length_cons, steps] at hsteps
        rcases hstep : p.step with ⟨_ | _, _⟩
        · rw [hstep] at hsteps
          cases hsteps
        · rfl
      rw [List.length_cons, steps_succ_of_ok hok] at hsteps
      obtain ⟨hmore, hsteps⟩ := ih h.2 hsteps
      refine ⟨hmore, fun n => ?_⟩
      rw [List.length_cons, Nat.add_right_comm, steps_succ_of_ok hok, hsteps]

theorem Performs.of_append_left [Arithmetic] {tasks more : List (Mnemonic × Nat)}
    (h : p.Performs (tasks ++ more)) :
  p.Performs tasks
  := by
  induction tasks generalizing p with
  | nil => trivial
  | cons task rest ih => exact ⟨h.1, ih h.2⟩

/-- From one state of a processor to another a number of some bytes has been shifted that lies in
memory from `base` on, with the carry or without it. -/
structure ShiftsNumber (d : Direction) (carried : Bool) (base : Nat) (bytes : List UInt8)
    (p q : Processor) : Prop where
  /-- The cells of the number hold the shifted one. -/
  number_eq : ∃ bytes', q.bus.memory.Row (List.range' base bytes.length) bytes'
    ∧ Radix.binary.number bytes'
      = d.shifted bytes.length (carried && p.core.status.carry) (Radix.binary.number bytes)
  /-- The carry is the bit that has gone out. -/
  carry_eq : q.core.status.carry = d.dropped bytes.length (Radix.binary.number bytes)
  /-- All other cells hold what they held. -/
  kept : p.bus.memory.KeptOutside (List.range' base bytes.length) q.bus.memory

/-- What shifts of its bytes do to a number in memory outside the register window.  A shift of the
lowest byte and then rotations of all the others up to the highest one double it, and a shift of the
highest byte and then rotations of all the others down to the lowest one halve it; the bit that goes
out is the carry in the end.  If the first instruction is a rotation as well, then the carry comes
in at that end.  Rotations over all bytes in one direction, and then over all bytes in the other,
bring back the memory and the carry. -/
theorem shifts_number [Arithmetic] {base : Nat} {bytes : List UInt8} (hne : bytes ≠ [])
    (hbase : 0x40 ≤ base)
    (hrow : p.bus.memory.Row (List.range' base bytes.length) bytes) :
  (∀ d carried, p.Performs (d.pass carried base bytes.length) →
      ∃ q, p.steps bytes.length = (.ok (), q) ∧ ShiftsNumber d carried base bytes p q)
    ∧ ∀ d : Direction,
      p.Performs (d.pass true base bytes.length ++ d.opposite.pass true base bytes.length) →
      ∃ q, p.steps (bytes.length + bytes.length) = (.ok (), q)
        ∧ q.bus.memory = p.bus.memory ∧ q.core.status.carry = p.core.status.carry
  := by
  constructor
  · intro d carried hpass
    obtain ⟨q, hsteps, hcarry, hshifted, hkept⟩ := steps_pass hpass hbase hrow hne
    obtain ⟨hnumber, hdropped⟩ := d.number_shiftNumber (carried && p.core.status.carry) hne
    exact ⟨q, hsteps, ⟨_, hshifted, hnumber⟩, hcarry.trans hdropped, hkept⟩
  · intro d hpasses
    obtain ⟨q, hsteps, hcarry, hshifted, hkept⟩ :=
      steps_pass hpasses.of_append_left hbase hrow hne
    rw [Bool.true_and] at hcarry hshifted
    have hlength := d.length_shiftNumber p.core.status.carry bytes
    have htasks := d.length_pass true base bytes.length
    have hne' : (d.shiftNumber p.core.status.carry bytes).1 ≠ [] := by
      intro hnil
      rw [hnil] at hlength
      exact hne (List.length_eq_zero_iff.mp hlength.symm)
    rw [← htasks] at hsteps
    obtain ⟨hpass, hmore⟩ := hpasses.of_append hsteps
    rw [← hlength] at hpass hshifted
    obtain ⟨q', hsteps', hcarry', hshifted', hkept'⟩ := steps_pass hpass hbase hshifted hne'
    rw [Bool.true_and, hcarry, d.shiftNumber_opposite] at hcarry' hshifted'
    rw [hlength] at hsteps' hshifted' hkept'
    refine ⟨q', ?_, ?_, hcarry'⟩
    · rw [htasks] at hmore
      rw [hmore, hsteps']
    · apply Memory.eq_of_read_eq
      intro address
      by_cases haddress : address ∈ List.range' base bytes.length
      · exact hrow.read_eq hshifted' haddress
      · exact (hkept.trans hkept').read_eq address haddress

/-- A processor at a program that rotates a word up, and then down again. -/
def smallRotating : Processor where
  core := { Core.initial 0xE0 with status := { Status.initial with carry := true } }
  layout := (Settings.smallPages 0xFE).layout
  bus := { Bus.fresh (.smallPages 0xFE) with
    memory := ((Memory.zeroed 0x200).storeAll 0x80 [0x81, 0xC0]).storeAll 0xE0
      [0x26, 0x80, 0x26, 0x81, 0x66, 0x81, 0x66, 0x80] }

theorem shifts_number_small :
  (∃ q, smallRotating.steps 2 = (.ok (), q)
      ∧ ShiftsNumber .left true 0x80 [0x81, 0xC0] smallRotating q)
    ∧ ∃ q, smallRotating.steps 4 = (.ok (), q)
      ∧ q.bus.memory = smallRotating.bus.memory ∧ q.core.status.carry = true
  := by
  have hrow : smallRotating.bus.memory.Row (List.range' 0x80 2) [0x81, 0xC0] := by
    rw [Memory.Row]
    decide +kernel
  have hne : ([0x81, 0xC0] : List UInt8) ≠ [] := List.cons_ne_nil _ _
  have hbase : 0x40 ≤ 0x80 := by decide
  obtain ⟨hpass, hpasses⟩ := shifts_number hne hbase hrow
  have hlow : smallRotating.task? = some (.rol, 0x80) := by decide +kernel
  have hhigh : smallRotating.step.2.task? = some (.rol, 0x81) := by decide +kernel
  have hhigh' : smallRotating.step.2.step.2.task? = some (.ror, 0x81) := by decide +kernel
  have hlow' : smallRotating.step.2.step.2.step.2.task? = some (.ror, 0x80) := by decide +kernel
  exact ⟨hpass .left true ⟨hlow, hhigh, trivial⟩,
    hpasses .left ⟨hlow, hhigh, hhigh', hlow', trivial⟩⟩

end Processor

end RasterConsole
