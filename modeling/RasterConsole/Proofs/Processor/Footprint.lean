import RasterConsole.Proofs.Processor.Interrupts
import RasterConsole.Proofs.Processor.Operands

/-!
# What instructions change in memory

`Mnemonic.footprint` lists the bytes of memory that an instruction may change: the one that it
stores to, unless the register window covers it, and those that it puts on the stack.  An activity
is *confined* to some cells if it writes only to these and to the window.  Finding an operand writes
nothing, and what an instruction does with it is confined to its footprint
(`Exec.confinedTo_execute`).  So is what a processor does to its memory in a step, whether or not
the step fails (`Processor.keptOutside_footprint`), and in a run (`Processor.read_runWithin`).
-/

namespace RasterConsole

namespace Memory

/-- The memory becomes `m'` by changes to bytes in some cells only. -/
structure KeptOutside (m : Memory) (cells : List Nat) (m' : Memory) : Prop where
  capacity_eq : m'.capacity = m.capacity
  read_eq : ∀ address, address ∉ cells → m'.read address = m.read address

section

variable {m m' m'' : Memory} {cells : List Nat}

theorem KeptOutside.refl (m : Memory) (cells : List Nat) :
  m.KeptOutside cells m
  := ⟨rfl, fun _ _ => rfl⟩

theorem KeptOutside.trans (h : m.KeptOutside cells m') (h' : m'.KeptOutside cells m'') :
  m.KeptOutside cells m''
  := ⟨h'.capacity_eq.trans h.capacity_eq, fun address haddress =>
    (h'.read_eq address haddress).trans (h.read_eq address haddress)⟩

theorem KeptOutside.mono {cells' : List Nat} (h : m.KeptOutside cells m')
    (hcells : cells ⊆ cells') :
  m.KeptOutside cells' m'
  := ⟨h.capacity_eq, fun address haddress => h.read_eq address fun hmem => haddress (hcells hmem)⟩

theorem keptOutside_store {address : Nat} (h : address ∈ cells) (m : Memory) (byte : UInt8) :
  m.KeptOutside cells (m.store address byte)
  := by
  refine ⟨capacity_store m address byte, fun address' haddress => ?_⟩
  apply read_store_of_ne m byte
  rintro rfl
  exact haddress h

/-- Memories in which all reads find the same are the same. -/
theorem eq_of_read_eq (h : ∀ address, m'.read address = m.read address) :
  m' = m
  := by
  obtain ⟨cells'⟩ := m'
  obtain ⟨cells⟩ := m
  congr 1
  apply Array.ext_getElem?
  intro address
  have hread := h address
  simp only [read] at hread
  cases hcell' : cells'[address]? with
  | none =>
      cases hcell : cells[address]? with
      | none => rfl
      | some byte =>
          rw [hcell', hcell] at hread
          cases hread
  | some byte' =>
      cases hcell : cells[address]? with
      | none =>
          rw [hcell', hcell] at hread
          cases hread
      | some byte =>
          rw [hcell', hcell] at hread
          cases hread
          rfl

end

end Memory

/-! ### Footprints -/

/-- The address of the cell of the stack that the stack pointer names after some bytes have been
put on the stack. -/
def stackCell (sp : UInt8) (pushed : Nat) : Nat := 0x100 + (sp.toNat + 0x100 - pushed) % 0x100

namespace Mnemonic

/-- Whether an instruction may change memory. -/
def changesMemory : Mnemonic → Bool
  | sta | stx | sty | inc | dec | asl | lsr | rol | ror | pha | php | jsr | brk => true
  | _ => false

/-- The addresses of the bytes that an instruction may change, given the address in memory of its
operand, if it has one, and the stack pointer. -/
def footprint (mnemonic : Mnemonic) (address? : Option Nat) (sp : UInt8) : List Nat :=
  match mnemonic with
  | sta | stx | sty | inc | dec | asl | lsr | rol | ror => address?.toList.filter (0x40 ≤ ·)
  | pha | php => [stackCell sp 0]
  | jsr => [stackCell sp 0, stackCell sp 1]
  | brk => [stackCell sp 0, stackCell sp 1, stackCell sp 2]
  | _ => []

section

variable {mnemonic : Mnemonic} {address? : Option Nat} {sp : UInt8}

theorem footprint_of_not_changesMemory (h : mnemonic.changesMemory = false)
    (address? : Option Nat) (sp : UInt8) :
  mnemonic.footprint address? sp = []
  := by
  cases mnemonic with
  | sta | stx | sty | inc | dec | asl | lsr | rol | ror | pha | php | jsr | brk => cases h
  | _ => rfl

theorem stackCell_bounds (sp : UInt8) (pushed : Nat) :
  0x40 ≤ stackCell sp pushed ∧ stackCell sp pushed < 0x10000
  := by
  rw [stackCell]
  omega

/-- Footprints lie behind the register window, and no further than addresses go. -/
theorem footprint_bounds (haddress : ∀ address ∈ address?, address < 0x10000) {address : Nat}
    (h : address ∈ mnemonic.footprint address? sp) :
  0x40 ≤ address ∧ address < 0x10000
  := by
  cases mnemonic with
  | sta | stx | sty | inc | dec | asl | lsr | rol | ror =>
      obtain ⟨hoperand, hwindow⟩ := List.mem_filter.mp h
      exact ⟨of_decide_eq_true hwindow, haddress address (Option.mem_toList.mp hoperand)⟩
  | pha | php =>
      obtain rfl := List.mem_singleton.mp h
      exact stackCell_bounds sp 0
  | jsr =>
      simp only [footprint, List.mem_cons, List.not_mem_nil, or_false] at h
      obtain rfl | rfl := h
      · exact stackCell_bounds sp 0
      · exact stackCell_bounds sp 1
  | brk =>
      simp only [footprint, List.mem_cons, List.not_mem_nil, or_false] at h
      obtain rfl | rfl | rfl := h
      · exact stackCell_bounds sp 0
      · exact stackCell_bounds sp 1
      · exact stackCell_bounds sp 2
  | _ => cases h

end

end Mnemonic

namespace Activity

variable {α β : Type}

/-- The activity writes only to some cells and to the register window. -/
def ConfinedTo (cells : List Nat) : Activity α → Prop
  | done _ _ => True
  | fail _ _ => True
  | read _ _ next => ∀ byte, (next byte).ConfinedTo cells
  | write _ address _ next =>
    (address < windowSize ∨ address.toNat ∈ cells) ∧ next.ConfinedTo cells
  | charge _ next => next.ConfinedTo cells

section

variable {a : Activity α} {next : α → Core → Activity β} {cells : List Nat}

theorem Silent.confinedTo (h : a.Silent) (cells : List Nat) :
  a.ConfinedTo cells
  := by
  cases a with
  | done _ _ | fail _ _ => trivial
  | read _ _ _ | write _ _ _ _ | charge _ _ => cases h

theorem ConfinedTo.andThen (h : a.ConfinedTo cells)
    (hnext : ∀ value core, (next value core).ConfinedTo cells) :
  (a.andThen next).ConfinedTo cells
  := by
  induction a with
  | done value core => apply hnext
  | fail _ _ => trivial
  | read _ _ _ ih => exact fun byte => ih byte (h byte)
  | write _ _ _ _ ih => exact ⟨h.1, ih h.2⟩
  | charge _ _ ih => exact ih h

/-- An activity that is confined to some cells keeps the memory outside of them. -/
theorem ConfinedTo.keptOutside (h : a.ConfinedTo cells) (m : Memory) :
  m.KeptOutside cells (a.onMemory m).2.2
  := by
  induction a generalizing m with
  | done _ _ | fail _ _ => exact .refl m cells
  | read core address next ih =>
      rw [onMemory]
      cases m.answer address with
      | ok byte => exact ih byte (h byte) m
      | error fault => exact .refl m cells
  | write core address byte next ih =>
      obtain ⟨hcell, hnext⟩ := h
      rw [onMemory]
      cases haccept : m.accept address byte with
      | error fault => exact .refl m cells
      | ok m' =>
          have hrest := ih hnext m'
          by_cases hwindow : address < windowSize
          · rw [Memory.accept, if_pos hwindow] at haccept
            cases haccept
            exact hrest
          · obtain rfl := Memory.store_of_accept hwindow haccept
            exact (Memory.keptOutside_store (hcell.resolve_left hwindow) m byte).trans hrest
  | charge _ _ ih => exact ih h m

/-- What an activity leaves that only finds something is known to the one behind it. -/
theorem Finds.keptOutside_andThen {m : Memory} {found : α → Core → Prop} {lost : Prop}
    (h : a.Finds m found lost)
    (hnext : ∀ value core, found value core → (next value core).ConfinedTo cells) :
  m.KeptOutside cells ((a.andThen next).onMemory m).2.2
  := by
  obtain ⟨value, core, hfound, hgoes⟩ | ⟨-, fault, core, hfails⟩ := h.onMemory_andThen next
  · rw [hgoes]
    exact (hnext value core hfound).keptOutside m
  · rw [hfails]
    exact .refl m cells

end

end Activity

namespace Exec

/-! ### Computations -/

section

variable {α β : Type} {cells : List Nat}

/-- The computation writes only to some cells and to the register window. -/
def ConfinedTo (cells : List Nat) (x : Exec α) : Prop := ∀ core, (x core).ConfinedTo cells

theorem Silent.confinedTo {x : Exec α} (h : x.Silent) (cells : List Nat) :
  x.ConfinedTo cells
  := fun core => (h core).confinedTo cells

theorem ConfinedTo.bind {x : Exec α} {f : α → Exec β} (h : x.ConfinedTo cells)
    (hf : ∀ value, (f value).ConfinedTo cells) :
  (x >>= f).ConfinedTo cells
  := fun core => (h core).andThen hf

/-- What asks nothing of the bus may go before anything. -/
theorem Silent.bind_confinedTo {x : Exec α} {f : α → Exec β} (h : x.Silent)
    (hf : ∀ value, (f value).ConfinedTo cells) :
  (x >>= f).ConfinedTo cells
  := (h.confinedTo cells).bind hf

/-- And behind anything. -/
theorem ConfinedTo.bind_silent {x : Exec α} {f : α → Exec β} (h : x.ConfinedTo cells)
    (hf : ∀ value, (f value).Silent) :
  (x >>= f).ConfinedTo cells
  := h.bind fun value => (hf value).confinedTo cells

end

section

variable (op : Operand) (cells : List Nat)

theorem confinedTo_read (address : UInt16) :
  (read address).ConfinedTo cells
  := fun _ _ => trivial

theorem confinedTo_load :
  (load op).ConfinedTo cells
  := by
  cases op with
  | absent | offset _ => exact (silent_fail _).confinedTo cells
  | accumulator => exact (silent_core.bind fun _ => silent_pure _).confinedTo cells
  | immediate value => exact (silent_pure value).confinedTo cells
  | memory address => exact confinedTo_read cells address

theorem confinedTo_pull :
  pull.ConfinedTo cells
  := (silent_update _).bind_confinedTo fun _ => silent_core.bind_confinedTo fun _ =>
    confinedTo_read cells _

theorem confinedTo_pullWord :
  pullWord.ConfinedTo cells
  := (confinedTo_pull cells).bind fun _ => (confinedTo_pull cells).bind_silent fun _ =>
    silent_pure _

theorem confinedTo_pullStatus :
  pullStatus.ConfinedTo cells
  := (confinedTo_pull cells).bind_silent fun _ => silent_update _

theorem confinedTo_branch (condition : Bool) :
  (branch op condition).ConfinedTo cells
  := by
  cases op with
  | absent | accumulator | immediate _ | memory _ => exact (silent_fail _).confinedTo cells
  | offset distance =>
      unfold branch
      dsimp only
      split_ifs
      · exact fun _ => trivial
      · exact (silent_pure _).confinedTo cells

/-- A value is stored to the address of the operand. -/
theorem confinedTo_store (value : UInt8) :
  (store op value).ConfinedTo (op.address?.toList.filter (0x40 ≤ ·))
  := by
  cases op with
  | absent | immediate _ | offset _ => exact (silent_fail _).confinedTo _
  | accumulator => exact (silent_update _).confinedTo _
  | memory address =>
      refine fun _ => ⟨?_, trivial⟩
      by_cases hwindow : address < windowSize
      · exact .inl hwindow
      · right
        rw [UInt16.lt_iff_toNat_lt, Nat.not_lt] at hwindow
        apply List.mem_filter.mpr
        exact ⟨List.mem_singleton_self _, decide_eq_true hwindow⟩

theorem confinedTo_replace (change : UInt8 → UInt8) :
  (replace op change).ConfinedTo (op.address?.toList.filter (0x40 ≤ ·))
  := (confinedTo_load op _).bind fun _ => (confinedTo_store op _).bind_silent fun _ => silent_see _

theorem confinedTo_shift (direction : Bool → UInt8 → UInt8 × Bool) (carried : Bool) :
  (shift op direction carried).ConfinedTo (op.address?.toList.filter (0x40 ≤ ·))
  := (confinedTo_load op _).bind fun _ => silent_core.bind_confinedTo fun _ =>
    (silent_update _).bind_confinedTo fun _ => (confinedTo_store op _).bind_silent fun _ =>
      silent_see _

end

/-! ### Instructions -/

theorem toNat_stackAddress_eq_stackCell (sp : UInt8) :
  (stackAddress sp).toNat = stackCell sp 0
    ∧ (stackAddress (sp - 1)).toNat = stackCell sp 1
    ∧ (stackAddress (sp - 1 - 1)).toNat = stackCell sp 2
  := by
  have hsp := sp.toNat_lt
  simp only [toNat_stackAddress, stackCell, UInt8.toNat_sub, UInt8.reduceToNat]
  omega

/-- Doing what a mnemonic says is confined to its footprint. -/
theorem confinedTo_execute (irqVector : UInt16) (mnemonic : Mnemonic) (op : Operand)
    (core : Core) :
  (execute irqVector mnemonic op core).ConfinedTo (mnemonic.footprint op.address? core.sp)
  := by
  obtain ⟨hfirst, hsecond, hthird⟩ := toNat_stackAddress_eq_stackCell core.sp
  cases mnemonic with
  | lda => exact ((confinedTo_load op _).bind_silent fun _ => silent_setA _) core
  | ldx => exact ((confinedTo_load op _).bind_silent fun _ => silent_setX _) core
  | ldy => exact ((confinedTo_load op _).bind_silent fun _ => silent_setY _) core
  | and | ora | eor =>
      exact ((confinedTo_load op _).bind_silent fun _ => silent_core.bind fun _ =>
        silent_setA _) core
  | adc | sbc | cmp | cpx | cpy =>
      exact ((confinedTo_load op _).bind_silent fun _ => silent_core.bind fun _ =>
        silent_update _) core
  | bit => exact ((confinedTo_load op _).bind_silent fun _ => silent_update _) core
  | sta => exact confinedTo_store op core.a core
  | stx => exact confinedTo_store op core.x core
  | sty => exact confinedTo_store op core.y core
  | inc | dec => exact confinedTo_replace op _ core
  | asl => exact confinedTo_shift op Alu.shiftLeft false core
  | lsr => exact confinedTo_shift op Alu.shiftRight false core
  | rol => exact confinedTo_shift op Alu.shiftLeft true core
  | ror => exact confinedTo_shift op Alu.shiftRight true core
  | bcc | bcs | bne | beq | bpl | bmi | bvc | bvs => exact confinedTo_branch op _ _ core
  | jmp => exact (((silent_address op).bind fun _ => silent_update _).confinedTo _) core
  | pha | php => exact ⟨.inr (by rw [hfirst]; exact List.mem_singleton_self _), trivial⟩
  | jsr =>
      have hcells : (stackAddress core.sp).toNat ∈ [stackCell core.sp 0, stackCell core.sp 1]
          ∧ (stackAddress (core.sp - 1)).toNat ∈ [stackCell core.sp 0, stackCell core.sp 1] := by
        simp [hfirst, hsecond]
      cases op with
      | memory target => exact ⟨.inr hcells.1, .inr hcells.2, trivial⟩
      | absent | accumulator | immediate _ | offset _ =>
          exact ⟨.inr hcells.1, .inr hcells.2, trivial⟩
  | brk =>
      have hcells : (stackAddress core.sp).toNat ∈ Mnemonic.brk.footprint op.address? core.sp
          ∧ (stackAddress (core.sp - 1)).toNat ∈ Mnemonic.brk.footprint op.address? core.sp
          ∧ (stackAddress (core.sp - 1 - 1)).toNat
            ∈ Mnemonic.brk.footprint op.address? core.sp := by
        simp [Mnemonic.footprint, hfirst, hsecond, hthird]
      exact ⟨.inr hcells.1, .inr hcells.2.1, .inr hcells.2.2, fun _ _ => trivial⟩
  | rts => exact ((confinedTo_pullWord _).bind_silent fun _ => silent_update _) core
  | rti =>
      exact ((confinedTo_pullStatus _).bind fun _ => (confinedTo_pullWord _).bind_silent fun _ =>
        silent_update _) core
  | pla => exact ((confinedTo_pull _).bind_silent fun _ => silent_setA _) core
  | plp => exact confinedTo_pullStatus _ core
  | tax | tay | txa | tya | tsx | txs | inx | iny | dex | dey | clc | sec | cli | sei | cld | sed
  | clv | nop => trivial

end Exec

namespace Processor

/-- The instruction that the processor comes to. -/
def current? (p : Processor) : Option Instruction :=
  match p.bus.memory.answer p.core.pc with
  | .ok opcode => Instruction.ofOpcode? opcode
  | .error _ => none

/-- The addresses of the bytes of memory that the next step may change. -/
def footprint (p : Processor) : List Nat :=
  match p.current? with
  | some i => i.mnemonic.footprint (i.mode.address? p.core p.bus.memory) p.core.sp
  | none => []

section

variable {p : Processor}

/-- A step changes no more of memory than the footprint of its instruction, whether or not it
fails. -/
theorem keptOutside_footprint [Arithmetic] (p : Processor) :
  p.bus.memory.KeptOutside p.footprint p.step.2.bus.memory
  := by
  have hmemory : ((Exec.instruction p.layout.irqVector p.core).onMemory p.bus.memory).2.2
      = p.step.2.bus.memory := congrArg (fun outcome => outcome.2.memory) p.guest_step
  rw [← hmemory, Exec.instruction_eq, Activity.onMemory, footprint, current?]
  cases p.bus.memory.answer p.core.pc with
  | error fault => exact .refl _ _
  | ok opcode =>
      dsimp only
      cases Instruction.ofOpcode? opcode with
      | none => exact .refl _ _
      | some i =>
          apply (Exec.finds_operand i p.core p.bus.memory).keptOutside_andThen
          rintro op core ⟨haddress, -, rfl⟩
          have hconfined := Exec.confinedTo_execute p.layout.irqVector i.mnemonic op
            (i.ready p.core p.bus.memory)
          rw [haddress] at hconfined
          exact hconfined

/-- No step changes memory in the register window or behind the last address. -/
theorem bounds_of_mem_footprint {address : Nat} (h : address ∈ p.footprint) :
  0x40 ≤ address ∧ address < 0x10000
  := by
  rw [footprint] at h
  cases hcurrent : p.current? with
  | none =>
      rw [hcurrent] at h
      cases h
  | some i =>
      rw [hcurrent] at h
      exact Mnemonic.footprint_bounds (fun _ haddress => Mode.address?_lt haddress) h

/-- An instruction that is not one that changes memory has no footprint. -/
theorem footprint_eq_nil (h : ∀ i, p.current? = some i → i.mnemonic.changesMemory = false) :
  p.footprint = []
  := by
  rw [footprint]
  cases hcurrent : p.current? with
  | none => rfl
  | some i => exact Mnemonic.footprint_of_not_changesMemory (h i hcurrent) _ _

/-- A run changes no more of memory than the footprints of its instructions. -/
theorem read_runWithin [Arithmetic] {limit address : Nat}
    (h : ∀ q ∈ p.starts limit, address ∉ q.footprint) :
  (p.runWithin limit).2.bus.memory.read address = p.bus.memory.read address
  := by
  apply runWithin_preserves_of_starts
    (P := fun q => q.bus.memory.read address = p.bus.memory.read address)
  · intro q hq
    rw [← hq]
    exact congrArg (fun m => Memory.read m address) (Bus.memory_flush q.bus)
  · intro q hstart hq
    rw [q.keptOutside_footprint.read_eq address (h q hstart), hq]
  · rfl

/-- What becomes of memory.  A step, whether or not it fails, changes no bytes but those of the
footprint of its instruction, and these lie neither in the register window nor behind the last
address; it changes none if the instruction is not one that changes memory.  So a run changes only
what is in the footprint of one of its instructions, nothing if none of them is one that changes
memory, and never anything in the register window or behind the last address. -/
theorem runWithin_footprint [Arithmetic] (p : Processor) :
  p.bus.memory.KeptOutside p.footprint p.step.2.bus.memory
    ∧ (∀ address ∈ p.footprint, 0x40 ≤ address ∧ address < 0x10000)
    ∧ ((∀ i, p.current? = some i → i.mnemonic.changesMemory = false) →
      p.step.2.bus.memory = p.bus.memory)
    ∧ ∀ limit,
      (∀ address, (∀ q ∈ p.starts limit, address ∉ q.footprint) →
          (p.runWithin limit).2.bus.memory.read address = p.bus.memory.read address)
        ∧ ((∀ q ∈ p.starts limit, ∀ i, q.current? = some i → i.mnemonic.changesMemory = false) →
          (p.runWithin limit).2.bus.memory = p.bus.memory)
        ∧ ∀ address, address < 0x40 ∨ 0x10000 ≤ address →
          (p.runWithin limit).2.bus.memory.read address = p.bus.memory.read address
  := by
  refine ⟨p.keptOutside_footprint, fun _ => bounds_of_mem_footprint, ?_,
    fun limit => ⟨fun _ => read_runWithin, ?_, ?_⟩⟩
  · intro hquiet
    apply Memory.eq_of_read_eq
    intro address
    apply p.keptOutside_footprint.read_eq
    rw [footprint_eq_nil hquiet]
    exact List.not_mem_nil
  · intro hquiet
    apply Memory.eq_of_read_eq
    intro address
    apply read_runWithin
    intro q hq
    rw [footprint_eq_nil (hquiet q hq)]
    exact List.not_mem_nil
  · intro address haddress
    apply read_runWithin
    intro q _ hmem
    have hbounds := bounds_of_mem_footprint hmem
    omega

/-- A software interrupt puts three bytes on the stack. -/
example : (smallBreak 0xFE).footprint = [0x1FD, 0x1FC, 0x1FB] := by decide +kernel

end

end Processor

end RasterConsole
