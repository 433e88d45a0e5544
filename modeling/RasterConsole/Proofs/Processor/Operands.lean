import RasterConsole.Proofs.Processor.Vectors

/-!
# Where operands are

`Mode.address?` computes the address that an instruction works on from the registers and the bytes
behind its opcode.  Addresses are natural numbers here, so it says openly where they go around: the
program counter and the address that an index leads to behind the last address, and an indexed cell
of the first page and a pointer within their page.  `Mode.length` is how many bytes lie behind the
opcode, and `Instruction.surcharge` what it costs that an index leads into another page.

The processor finds its operand there if there is one, and on the way writes nothing and changes no
register but the program counter and the cycles (`Exec.finds_operand`).
-/

namespace RasterConsole

namespace Memory

/-- The byte that the processor finds at an address, which goes around behind the last one. -/
def byteAt? (m : Memory) (address : Nat) : Option Nat :=
  if address % 0x10000 < 0x40 then some 0 else m.cells[address % 0x10000]?.map UInt8.toNat

/-- The word that the processor finds in two cells. -/
def wordAt? (m : Memory) (low high : Nat) : Option Nat :=
  match m.byteAt? low, m.byteAt? high with
  | some low, some high => some (low + 256 * high)
  | _, _ => none

/-- The word that the processor finds in a cell and the next one in the same page, behind the last
of which the first one follows. -/
def pointerAt? (m : Memory) (cell : Nat) : Option Nat :=
  m.wordAt? cell (cell / 0x100 * 0x100 + (cell + 1) % 0x100)

section

variable {m : Memory} {address : UInt16} {byte low high : UInt8} {cell cell' : Nat}

/-- What the bus answers is what is found. -/
theorem byteAt?_of_answer (h : m.answer address = .ok byte)
    (hcell : cell % 0x10000 = address.toNat) :
  m.byteAt? cell = some byte.toNat
  := by
  have hwindow : address < windowSize ↔ address.toNat < 0x40 := UInt16.lt_iff_toNat_lt
  rw [answer] at h
  rw [byteAt?, hcell]
  split_ifs at h ⊢ with ha ha' ha'
  · cases h
    rfl
  · exact absurd (hwindow.mp ha) ha'
  · exact absurd (hwindow.mpr ha') ha
  · rw [read] at h
    cases hbyte : m.cells[address.toNat]? with
    | none =>
        rw [hbyte] at h
        cases h
    | some found =>
        rw [hbyte] at h
        cases h
        rfl

/-- What the bus refuses is not found. -/
theorem byteAt?_of_refusal {fault : Fault} (h : m.answer address = .error fault)
    (hcell : cell % 0x10000 = address.toNat) :
  m.byteAt? cell = none
  := by
  rw [answer] at h
  split_ifs at h with hwindow
  have hcells : ¬ address.toNat < 0x40 := fun hlt => hwindow (UInt16.lt_iff_toNat_lt.mpr hlt)
  rw [byteAt?, hcell, if_neg hcells, Option.map_eq_none_iff]
  rw [read] at h
  cases hbyte : m.cells[address.toNat]? with
  | none => rfl
  | some byte =>
      rw [hbyte] at h
      cases h

theorem wordAt?_of_byteAt? (hlow : m.byteAt? cell = some low.toNat)
    (hhigh : m.byteAt? cell' = some high.toNat) :
  m.wordAt? cell cell' = some (wordOf low high).toNat
  := by
  rw [wordAt?, hlow, hhigh, toNat_wordOf, Nat.add_comm, Nat.mul_comm]

/-- A word is found only where both of its bytes are. -/
theorem wordAt?_of_none (h : m.byteAt? cell = none ∨ m.byteAt? cell' = none) :
  m.wordAt? cell cell' = none
  := by
  rw [wordAt?]
  obtain h | h := h
  · rw [h]
  · rw [h]
    cases m.byteAt? cell <;> rfl

theorem byteAt?_lt {found : Nat} (h : m.byteAt? cell = some found) :
  found < 256
  := by
  rw [byteAt?] at h
  split_ifs at h
  · cases h
    decide
  · obtain ⟨byte, -, rfl⟩ := Option.map_eq_some_iff.mp h
    exact byte.toNat_lt

theorem wordAt?_lt {found : Nat} (h : m.wordAt? cell cell' = some found) :
  found < 0x10000
  := by
  rw [wordAt?] at h
  split at h
  · next hlow hhigh =>
    have hlow := byteAt?_lt hlow
    have hhigh := byteAt?_lt hhigh
    cases h
    omega
  · cases h

end

end Memory

/-- The address in memory that an instruction works on, if its addressing mode leads to one. -/
def Mode.address? (mode : Mode) (core : Core) (m : Memory) : Option Nat :=
  let pc := core.pc.toNat
  match mode with
  | implied | accumulator | immediate | relative => none
  | zeroPage => m.byteAt? (pc + 1)
  | zeroPageX => (m.byteAt? (pc + 1)).map fun base => (base + core.x.toNat) % 0x100
  | zeroPageY => (m.byteAt? (pc + 1)).map fun base => (base + core.y.toNat) % 0x100
  | absolute => m.wordAt? (pc + 1) (pc + 2)
  | absoluteX => (m.wordAt? (pc + 1) (pc + 2)).map fun base => (base + core.x.toNat) % 0x10000
  | absoluteY => (m.wordAt? (pc + 1) (pc + 2)).map fun base => (base + core.y.toNat) % 0x10000
  | indirect => (m.wordAt? (pc + 1) (pc + 2)).bind m.pointerAt?
  | indexedIndirect =>
    (m.byteAt? (pc + 1)).bind fun cell => m.pointerAt? ((cell + core.x.toNat) % 0x100)
  | indirectIndexed =>
    (m.byteAt? (pc + 1)).bind fun cell =>
      (m.pointerAt? cell).map fun base => (base + core.y.toNat) % 0x10000

/-- No instruction works on an address behind the last one. -/
theorem Mode.address?_lt {mode : Mode} {core : Core} {m : Memory} {address : Nat}
    (h : mode.address? core m = some address) :
  address < 0x10000
  := by
  have hpage : 0x100 < 0x10000 := by decide
  cases mode with
  | implied | accumulator | immediate | relative => cases h
  | zeroPage => exact (Memory.byteAt?_lt h).trans hpage
  | zeroPageX | zeroPageY =>
      obtain ⟨base, -, rfl⟩ := Option.map_eq_some_iff.mp h
      exact (Nat.mod_lt _ (by decide)).trans hpage
  | absolute => exact Memory.wordAt?_lt h
  | absoluteX | absoluteY =>
      obtain ⟨base, -, rfl⟩ := Option.map_eq_some_iff.mp h
      exact Nat.mod_lt _ (by decide)
  | indirect | indexedIndirect =>
      obtain ⟨cell, -, hpointer⟩ := Option.bind_eq_some_iff.mp h
      exact Memory.wordAt?_lt hpointer
  | indirectIndexed =>
      obtain ⟨cell, -, hindexed⟩ := Option.bind_eq_some_iff.mp h
      obtain ⟨base, -, rfl⟩ := Option.map_eq_some_iff.mp hindexed
      exact Nat.mod_lt _ (by decide)

/-- The byte behind the opcode of a branch. -/
def Mode.distance? (mode : Mode) (core : Core) (m : Memory) : Option Nat :=
  match mode with
  | relative => m.byteAt? (core.pc.toNat + 1)
  | _ => none

/-- The number of bytes behind the opcode. -/
def Mode.length : Mode → Nat
  | implied | accumulator => 0
  | immediate | relative | zeroPage | zeroPageX | zeroPageY | indexedIndirect | indirectIndexed => 1
  | absolute | absoluteX | absoluteY | indirect => 2

/-- The address that an index is added to, where the sum may lie in another page. -/
def Mode.base? (mode : Mode) (core : Core) (m : Memory) : Option Nat :=
  let pc := core.pc.toNat
  match mode with
  | absoluteX | absoluteY => m.wordAt? (pc + 1) (pc + 2)
  | indirectIndexed => (m.byteAt? (pc + 1)).bind m.pointerAt?
  | _ => none

/-- The cycles that it costs an instruction that its index leads into another page. -/
def Instruction.surcharge (i : Instruction) (core : Core) (m : Memory) : Nat :=
  match i.mode.base? core m, i.mode.address? core m with
  | some base, some address => if i.pagePenalty && base / 0x100 != address / 0x100 then 1 else 0
  | _, _ => 0

/-- The registers when an instruction has found its operand. -/
def Instruction.ready (i : Instruction) (core : Core) (m : Memory) : Core :=
  { core with
    pc := core.pc + 1 + UInt16.ofNat i.mode.length
    cycles := core.cycles + i.cycles + i.surcharge core m }

/-- The byte behind the first one of a pointer is in the same page. -/
theorem toNat_wrapped (cell : UInt16) :
  (wordOf (lowByte cell + 1) (highByte cell)).toNat
    = cell.toNat / 0x100 * 0x100 + (cell.toNat + 1) % 0x100
  := by
  simp only [toNat_wordOf, UInt8.toNat_add, toNat_lowByte, toNat_highByte, UInt8.reduceToNat]
  omega

/-- In the first page as well. -/
theorem toNat_succ_toUInt16 (cell : UInt8) :
  (cell + 1).toUInt16.toNat
    = cell.toUInt16.toNat / 0x100 * 0x100 + (cell.toUInt16.toNat + 1) % 0x100
  := by
  have hcell := cell.toNat_lt
  simp only [UInt8.toNat_toUInt16, UInt8.toNat_add, UInt8.reduceToNat]
  omega

/-- The address in memory of an operand. -/
def Operand.address? : Operand → Option Nat
  | memory address => some address.toNat
  | absent | accumulator | immediate _ | offset _ => none

/-- The byte of an operand that is a distance. -/
def Operand.distance? : Operand → Option Nat
  | offset distance => some distance.toNat
  | absent | accumulator | immediate _ | memory _ => none

namespace Activity

variable {α β : Type}

/-- On a memory the activity writes nothing.  Where it ends well, `found` holds, and where it
fails, `lost` does. -/
def Finds (activity : Activity α) (m : Memory) (found : α → Core → Prop) (lost : Prop) : Prop :=
  match activity with
  | done value core => found value core
  | fail _ _ => lost
  | read _ address next =>
    (∀ byte, m.answer address = .ok byte → (next byte).Finds m found lost)
      ∧ ∀ fault, m.answer address = .error fault → lost
  | write _ _ _ _ => False
  | charge _ next => next.Finds m found lost

section

variable {a : Activity α} {m : Memory} {mid : α → Core → Prop} {found : β → Core → Prop}
  {lost lost' : Prop}

theorem Finds.andThen (h : a.Finds m mid lost) (next : α → Core → Activity β)
    (hlost : lost → lost')
    (hnext : ∀ value core, mid value core → (next value core).Finds m found lost') :
  (a.andThen next).Finds m found lost'
  := by
  induction a with
  | done value core => exact hnext value core h
  | fail _ _ => exact hlost h
  | read _ _ _ ih =>
      exact ⟨fun byte hbyte => ih byte (h.1 byte hbyte),
        fun fault hfault => hlost (h.2 fault hfault)⟩
  | write _ _ _ _ _ => cases h
  | charge _ _ ih => exact ih h

/-- What follows an activity that only finds something goes on from there on the same memory, or
is never come to. -/
theorem Finds.onMemory_andThen (h : a.Finds m mid lost) (next : α → Core → Activity β) :
  (∃ value core, mid value core ∧ (a.andThen next).onMemory m = (next value core).onMemory m)
    ∨ lost ∧ ∃ fault core, (a.andThen next).onMemory m = (.error fault, core, m)
  := by
  induction a with
  | done value core => exact .inl ⟨value, core, h, rfl⟩
  | fail fault core => exact .inr ⟨h, fault, core, rfl⟩
  | read core address rest ih =>
      rw [Activity.andThen, onMemory]
      cases hanswer : m.answer address with
      | ok byte => exact ih byte (h.1 byte hanswer)
      | error fault => exact .inr ⟨h.2 fault hanswer, fault, core, rfl⟩
  | write _ _ _ _ _ => cases h
  | charge _ _ ih => exact ih h

end

end Activity

namespace Exec

section

variable {core : Core} {m : Memory}

/-- An index is added to a base, at the cost of a cycle if that leads into another page and the
instruction pays for it. -/
theorem finds_indexed (base : UInt16) (index : UInt8) (pagePenalty : Bool) (core : Core)
    (m : Memory) (lost : Prop) :
  (indexed base index pagePenalty core).Finds m
    (fun address core' => address.toNat = (base.toNat + index.toNat) % 0x10000
      ∧ core' = { core with
          cycles := core.cycles
            + if pagePenalty && base.toNat / 0x100 != address.toNat / 0x100 then 1 else 0 })
    lost
  := by
  have haddress : (base + index.toUInt16).toNat = (base.toNat + index.toNat) % 0x10000 := by
    rw [UInt16.toNat_add, UInt8.toNat_toUInt16]
  have hpage : (highByte (base + index.toUInt16) != highByte base)
      = (base.toNat / 0x100 != (base + index.toUInt16).toNat / 0x100) := by
    rw [bne_comm, Bool.eq_iff_iff, bne_iff_ne, bne_iff_ne, ne_eq, ne_eq, ← UInt8.toNat_inj,
      toNat_highByte, toNat_highByte]
  unfold indexed
  dsimp only
  rw [hpage]
  split_ifs with hcosts
  · refine ⟨haddress, ?_⟩
    rw [if_pos hcosts]
  · refine ⟨haddress, ?_⟩
    rw [if_neg hcosts]
    rfl

/-- The byte at the program counter. -/
theorem finds_fetch {cell : Nat} (hcell : cell % 0x10000 = core.pc.toNat) (m : Memory) :
  (fetch core).Finds m
    (fun byte core' => m.byteAt? cell = some byte.toNat ∧ core' = { core with pc := core.pc + 1 })
    (m.byteAt? cell = none)
  := ⟨fun _ hbyte => ⟨Memory.byteAt?_of_answer hbyte hcell, rfl⟩,
    fun _ hfault => Memory.byteAt?_of_refusal hfault hcell⟩

/-- The word at the program counter. -/
theorem finds_fetchWord {cell : Nat} (hcell : cell % 0x10000 = core.pc.toNat) (m : Memory) :
  (fetchWord core).Finds m
    (fun word core' => m.wordAt? cell (cell + 1) = some word.toNat
      ∧ core' = { core with pc := core.pc + 1 + 1 })
    (m.wordAt? cell (cell + 1) = none)
  := by
  have hnext : (cell + 1) % 0x10000 = (core.pc + 1).toNat := by
    rw [UInt16.toNat_add, ← hcell, Nat.mod_add_mod]
    rfl
  refine (finds_fetch hcell m).andThen _ (fun h => Memory.wordAt?_of_none (.inl h)) ?_
  rintro low _ ⟨hlow, rfl⟩
  refine (finds_fetch hnext m).andThen _ (fun h => Memory.wordAt?_of_none (.inr h)) ?_
  rintro high _ ⟨hhigh, rfl⟩
  exact ⟨Memory.wordAt?_of_byteAt? hlow hhigh, rfl⟩

/-- The word that a cell and the next one in its page hold. -/
theorem finds_pointer {cell next : UInt16}
    (hnext : next.toNat = cell.toNat / 0x100 * 0x100 + (cell.toNat + 1) % 0x100) (core : Core)
    (m : Memory) :
  ((do return wordOf (← read cell) (← read next) : Exec UInt16) core).Finds m
    (fun word core' => m.pointerAt? cell.toNat = some word.toNat ∧ core' = core)
    (m.pointerAt? cell.toNat = none)
  := by
  have hcell := Nat.mod_eq_of_lt cell.toNat_lt
  have hcell' := Nat.mod_eq_of_lt next.toNat_lt
  rw [Memory.pointerAt?, ← hnext]
  refine ⟨fun low hlow => ⟨fun high hhigh => ⟨?_, rfl⟩, ?_⟩, ?_⟩
  · exact Memory.wordAt?_of_byteAt? (Memory.byteAt?_of_answer hlow hcell)
      (Memory.byteAt?_of_answer hhigh hcell')
  · exact fun _ hfault => Memory.wordAt?_of_none (.inr (Memory.byteAt?_of_refusal hfault hcell'))
  · exact fun _ hfault => Memory.wordAt?_of_none (.inl (Memory.byteAt?_of_refusal hfault hcell))

/-- The operand that an instruction has found, and the registers as they then are. -/
def Located (i : Instruction) (core : Core) (m : Memory) (op : Operand) (core' : Core) : Prop :=
  op.address? = i.mode.address? core m ∧ op.distance? = i.mode.distance? core m
    ∧ core' = i.ready core m

variable {i : Instruction} {op : Operand}

/-- Where no index leads into another page nothing is charged for it. -/
theorem located_of_base?_eq_none {pc : UInt16} (hbase : i.mode.base? core m = none)
    (haddress : op.address? = i.mode.address? core m)
    (hdistance : op.distance? = i.mode.distance? core m)
    (hpc : pc = core.pc + 1 + UInt16.ofNat i.mode.length) :
  Located i core m op { core.past i.cycles with pc := pc }
  := by
  refine ⟨haddress, hdistance, ?_⟩
  rw [Instruction.ready, Instruction.surcharge, hbase, hpc]
  rfl

theorem located_of_base? {pc address : UInt16} {base index : Nat}
    (hbase : i.mode.base? core m = some base)
    (hmode : i.mode.address? core m = some ((base + index) % 0x10000))
    (haddress : address.toNat = (base + index) % 0x10000)
    (hdistance : i.mode.distance? core m = none)
    (hpc : pc = core.pc + 1 + UInt16.ofNat i.mode.length) :
  Located i core m (.memory address)
    { core.past i.cycles with
      pc := pc
      cycles := (core.past i.cycles).cycles
        + if i.pagePenalty && base / 0x100 != address.toNat / 0x100 then 1 else 0 }
  := by
  rw [← haddress] at hmode
  refine ⟨hmode.symm, hdistance.symm, ?_⟩
  simp only [Instruction.ready, Instruction.surcharge, hbase, hmode, hpc]
  rfl

/-- Behind its opcode an instruction finds its operand where the addressing mode says. -/
theorem finds_operand (i : Instruction) (core : Core) (m : Memory) :
  (operand i (core.past i.cycles)).Finds m (Located i core m) (i.mode.address? core m = none)
  := by
  obtain ⟨opcode, mnemonic, mode, cycles, pagePenalty⟩ := i
  have hcell : (core.pc.toNat + 1) % 0x10000 = (core.past cycles).pc.toNat :=
    (UInt16.toNat_add core.pc 1).symm
  have hbyte := finds_fetch hcell m
  have hword := finds_fetchWord hcell m
  have hpc : core.pc + 1 + 1 + 1 = core.pc + 1 + UInt16.ofNat 2 := UInt16.add_assoc _ 1 1
  cases mode with
  | implied | accumulator =>
      exact located_of_base?_eq_none rfl rfl rfl (UInt16.add_zero _).symm
  | immediate =>
      refine hbyte.andThen _ (fun _ => rfl) ?_
      rintro byte _ ⟨-, rfl⟩
      exact located_of_base?_eq_none rfl rfl rfl rfl
  | relative =>
      refine hbyte.andThen _ (fun _ => rfl) ?_
      rintro byte _ ⟨hfound, rfl⟩
      exact located_of_base?_eq_none rfl rfl hfound.symm rfl
  | zeroPage =>
      refine hbyte.andThen _ id ?_
      rintro byte _ ⟨hfound, rfl⟩
      exact located_of_base?_eq_none rfl hfound.symm rfl rfl
  | zeroPageX | zeroPageY =>
      refine hbyte.andThen _ (fun h => by rw [Mode.address?, h, Option.map_none]) ?_
      rintro base _ ⟨hbase, rfl⟩
      refine located_of_base?_eq_none rfl ?_ rfl rfl
      rw [Mode.address?, hbase]
      rfl
  | absolute =>
      refine hword.andThen _ id ?_
      rintro word _ ⟨hfound, rfl⟩
      exact located_of_base?_eq_none rfl hfound.symm rfl hpc
  | absoluteX | absoluteY =>
      refine hword.andThen _ (fun h => by rw [Mode.address?, h, Option.map_none]) ?_
      rintro base _ ⟨hbase, rfl⟩
      refine (finds_indexed base _ pagePenalty _ m _).andThen _ id ?_
      rintro address _ ⟨haddress, rfl⟩
      refine located_of_base? hbase ?_ haddress rfl hpc
      rw [Mode.address?, hbase]
      rfl
  | indirect =>
      refine hword.andThen _ (fun h => by simp only [Mode.address?, h, Option.bind_none]) ?_
      rintro cell core' ⟨hcell, rfl⟩
      refine (finds_pointer (toNat_wrapped cell) _ m).andThen
        (fun word core => .done (Operand.memory word) core) ?_ ?_
      · intro h
        rw [Mode.address?, hcell, Option.bind_some, h]
      · rintro word _ ⟨hword, rfl⟩
        refine located_of_base?_eq_none rfl ?_ rfl hpc
        rw [Mode.address?, hcell, Option.bind_some, hword]
        rfl
  | indexedIndirect =>
      refine hbyte.andThen _ (fun h => by rw [Mode.address?, h, Option.bind_none]) ?_
      rintro cell core' ⟨hcell, rfl⟩
      have hindexed : (cell + core.x).toUInt16.toNat = (cell.toNat + core.x.toNat) % 0x100 := by
        rw [UInt8.toNat_toUInt16, UInt8.toNat_add]
      refine (finds_pointer (toNat_succ_toUInt16 (cell + core.x)) _ m).andThen
        (fun word core => .done (Operand.memory word) core) ?_ ?_
      · intro h
        rw [Mode.address?, hcell, Option.bind_some, ← hindexed, h]
      · rintro word _ ⟨hword, rfl⟩
        refine located_of_base?_eq_none rfl ?_ rfl rfl
        rw [Mode.address?, hcell, Option.bind_some, ← hindexed, hword]
        rfl
  | indirectIndexed =>
      refine hbyte.andThen _ (fun h => by rw [Mode.address?, h, Option.bind_none]) ?_
      rintro cell core' ⟨hcell, rfl⟩
      refine (finds_pointer (toNat_succ_toUInt16 cell) _ m).andThen _ ?_ ?_
      · intro h
        rw [UInt8.toNat_toUInt16] at h
        rw [Mode.address?, hcell, Option.bind_some, h, Option.map_none]
      · rintro base _ ⟨hbase, rfl⟩
        rw [UInt8.toNat_toUInt16] at hbase
        refine (finds_indexed base _ pagePenalty _ m _).andThen _ id ?_
        rintro address _ ⟨haddress, rfl⟩
        have hfound : Mode.indirectIndexed.base? core m = some base.toNat := by
          rw [Mode.base?, hcell, Option.bind_some, hbase]
        refine located_of_base? hfound ?_ haddress rfl rfl
        rw [Mode.address?, hcell, Option.bind_some, hbase]
        rfl

end

end Exec

end RasterConsole
