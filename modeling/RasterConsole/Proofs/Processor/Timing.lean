import RasterConsole.Proofs.Processor.Allowance
import RasterConsole.Proofs.Processor.Footprint
import RasterConsole.Proofs.Processor.Stack

/-!
# How long instructions are and how long they take

An instruction that succeeds leaves the program counter behind its operand and has taken the
cycles of its row in the opcode table, with one more if it pays for an index that leads into
another page.  There are two exceptions (`Instruction.Advances`).  A branch that is taken goes to an
address at a signed distance from the next instruction, for one or two cycles more.  And jumps,
calls, returns and software interrupts go where their operand, the stack or a vector says.

Finding the operand accounts for the bytes and for the index.  What remains is that nothing else an
instruction does changes the program counter or the cycles (`Exec.steady_execute`).
-/

namespace RasterConsole

namespace Mnemonic

/-- Whether an instruction branches, given the flags before it. -/
def taken (mnemonic : Mnemonic) (status : Status) : Bool :=
  match mnemonic with
  | bcc => !status.carry
  | bcs => status.carry
  | bne => !status.zero
  | beq => status.zero
  | bpl => !status.negative
  | bmi => status.negative
  | bvc => !status.overflow
  | bvs => status.overflow
  | _ => false

/-- Whether an instruction always goes somewhere else than to the instruction behind it. -/
def transfers : Mnemonic → Bool
  | jmp | jsr | rts | rti | brk => true
  | _ => false

end Mnemonic

/-- The address at a distance from the instruction behind a branch, where the distance is a byte
that counts from -128 to 127. -/
def Core.branchTarget (core : Core) (distance : Nat) : Int :=
  (core.pc.toNat + 2 + (distance : Int).bmod 0x100) % 0x10000

/-- An instruction takes a processor on in the program and in time. -/
structure Instruction.Advances (i : Instruction) (core : Core) (m : Memory) (core' : Core) :
    Prop where
  /-- The next instruction is the one behind the operand. -/
  pc_eq : i.mnemonic.transfers = false → i.mnemonic.taken core.status = false →
    core'.pc.toNat = (core.pc.toNat + 1 + i.mode.length) % 0x10000
  cycles_eq : i.mnemonic.taken core.status = false →
    core'.cycles = core.cycles + i.cycles + i.surcharge core m
  /-- A branch that is taken goes somewhere else, for a cycle, or for two if that is in another page
  than the instruction behind the branch. -/
  taken_eq : i.mnemonic.taken core.status = true →
    ∃ distance, m.byteAt? (core.pc.toNat + 1) = some distance
      ∧ core'.pc.toNat = core.branchTarget distance
      ∧ core'.cycles = core.cycles + i.cycles + i.surcharge core m
        + if core'.pc.toNat / 0x100 = (core.pc.toNat + 2) % 0x10000 / 0x100 then 1 else 2

namespace Activity

variable {α β : Type}

/-- Where the activity ends well, the registers are such that `post` holds. -/
def Ends (post : Core → Prop) : Activity α → Prop
  | done _ core => post core
  | fail _ _ => True
  | read _ _ next => ∀ byte, (next byte).Ends post
  | write _ _ _ next => next.Ends post
  | charge _ next => next.Ends post

section

variable {a : Activity α} {mid post : Core → Prop}

theorem Ends.andThen {next : α → Core → Activity β} (h : a.Ends mid)
    (hnext : ∀ value core, mid core → (next value core).Ends post) :
  (a.andThen next).Ends post
  := by
  induction a with
  | done value core => exact hnext value core h
  | fail _ _ => trivial
  | read _ _ _ ih => exact fun byte => ih byte (h byte)
  | write _ _ _ _ ih => exact ih h
  | charge _ _ ih => exact ih h

theorem Ends.mono (h : a.Ends mid) (hpost : ∀ core, mid core → post core) :
  a.Ends post
  := by
  induction a with
  | done _ core => exact hpost core h
  | fail _ _ => trivial
  | read _ _ _ ih => exact fun byte => ih byte (h byte)
  | write _ _ _ _ ih => exact ih h
  | charge _ _ ih => exact ih h

theorem Ends.onMemory (h : a.Ends post) {m m' : Memory} {value : α} {core : Core}
    (hok : a.onMemory m = (.ok value, core, m')) :
  post core
  := by
  induction a generalizing m with
  | done _ _ =>
      cases hok
      exact h
  | fail _ _ => cases hok
  | read _ address next ih =>
      rw [Activity.onMemory] at hok
      cases hanswer : m.answer address with
      | ok byte =>
          rw [hanswer] at hok
          exact ih byte (h byte) hok
      | error fault =>
          rw [hanswer] at hok
          cases hok
  | write _ address byte next ih =>
      rw [Activity.onMemory] at hok
      cases haccept : m.accept address byte with
      | ok m =>
          rw [haccept] at hok
          exact ih h hok
      | error fault =>
          rw [haccept] at hok
          cases hok
  | charge _ _ ih => exact ih h hok

end

end Activity

namespace Exec

variable {α β γ : Type}

/-! ### What does not move the program counter -/

/-- What the computation leaves as it is where it ends well. -/
def Leaves (field : Core → γ) (x : Exec α) : Prop :=
  ∀ core, (x core).Ends fun core' => field core' = field core

/-- The computation changes neither the program counter nor the cycles. -/
def Steady (x : Exec α) : Prop := x.Leaves fun core => (core.pc, core.cycles)

section

variable {field : Core → γ} {x : Exec α} {f : α → Exec β}

theorem Leaves.bind (h : x.Leaves field) (hf : ∀ value, (f value).Leaves field) :
  (x >>= f).Leaves field
  := by
  intro core
  apply (h core).andThen
  intro value core' hmid
  rw [← hmid]
  exact hf value core'

theorem leaves_pure (field : Core → γ) (value : α) :
  (pure value : Exec α).Leaves field
  := fun _ => rfl

theorem leaves_core (field : Core → γ) :
  core.Leaves field
  := fun _ => rfl

theorem leaves_fail (field : Core → γ) (fault : Fault) :
  (fail fault : Exec α).Leaves field
  := fun _ => trivial

theorem leaves_update {change : Core → Core} (h : ∀ core, field (change core) = field core) :
  (update change).Leaves field
  := h

theorem leaves_read (field : Core → γ) (address : UInt16) :
  (read address).Leaves field
  := fun _ _ => rfl

theorem leaves_write (field : Core → γ) (address : UInt16) (value : UInt8) :
  (write address value).Leaves field
  := fun _ => rfl

end

section

variable (op : Operand)

theorem steady_update {change : Core → Core}
    (h : ∀ core, ((change core).pc, (change core).cycles) = (core.pc, core.cycles)) :
  (update change).Steady
  := leaves_update h

theorem steady_see (value : UInt8) :
  (see value).Steady
  := steady_update fun _ => rfl

theorem steady_setA (value : UInt8) :
  (setA value).Steady
  := (steady_update fun _ => by rfl).bind fun _ => steady_see value

theorem steady_setX (value : UInt8) :
  (setX value).Steady
  := (steady_update fun _ => by rfl).bind fun _ => steady_see value

theorem steady_setY (value : UInt8) :
  (setY value).Steady
  := (steady_update fun _ => by rfl).bind fun _ => steady_see value

theorem steady_load :
  (load op).Steady
  := by
  cases op with
  | absent | offset _ => apply leaves_fail
  | accumulator => exact (leaves_core _).bind fun _ => leaves_pure _ _
  | immediate value => apply leaves_pure
  | memory address => apply leaves_read

theorem steady_store (value : UInt8) :
  (store op value).Steady
  := by
  cases op with
  | absent | immediate _ | offset _ => apply leaves_fail
  | accumulator => exact steady_update fun _ => rfl
  | memory address => apply leaves_write

theorem steady_replace (change : UInt8 → UInt8) :
  (replace op change).Steady
  := (steady_load op).bind fun _ => (steady_store op _).bind fun _ => steady_see _

theorem steady_shift (direction : Bool → UInt8 → UInt8 × Bool) (carried : Bool) :
  (shift op direction carried).Steady
  := (steady_load op).bind fun _ => (leaves_core _).bind fun _ =>
    (steady_update fun _ => by rfl).bind fun _ => (steady_store op _).bind fun _ => steady_see _

theorem steady_push (value : UInt8) :
  (push value).Steady
  := (leaves_core _).bind fun _ => (leaves_write _ _ _).bind fun _ => steady_update fun _ => by rfl

theorem steady_pull :
  pull.Steady
  := (steady_update fun _ => by rfl).bind fun _ => (leaves_core _).bind fun _ => leaves_read _ _

theorem steady_pushWord (value : UInt16) :
  (pushWord value).Steady
  := (steady_push _).bind fun _ => steady_push _

theorem steady_pullWord :
  pullWord.Steady
  := steady_pull.bind fun _ => steady_pull.bind fun _ => leaves_pure _ _

theorem steady_pushStatus :
  pushStatus.Steady
  := (leaves_core _).bind fun _ => steady_push _

theorem steady_pullStatus :
  pullStatus.Steady
  := steady_pull.bind fun _ => steady_update fun _ => by rfl

/-- What an instruction does that neither branches nor transfers control moves nothing on. -/
theorem steady_execute (irqVector : UInt16) {mnemonic : Mnemonic}
    (htransfers : mnemonic.transfers = false) (hbranches : mnemonic.usage ≠ .branches) :
  (execute irqVector mnemonic op).Steady
  := by
  cases mnemonic with
  | lda => exact (steady_load op).bind fun _ => steady_setA _
  | ldx => exact (steady_load op).bind fun _ => steady_setX _
  | ldy => exact (steady_load op).bind fun _ => steady_setY _
  | sta | stx | sty => exact (leaves_core _).bind fun _ => steady_store op _
  | tax | tay | tsx | txa | tya | txs | inx | iny | dex | dey | clc | sec | cli | sei | cld | sed
  | clv | nop => exact fun _ => rfl
  | pha => exact (leaves_core _).bind fun _ => steady_push _
  | php => exact steady_pushStatus
  | pla => exact steady_pull.bind fun _ => steady_setA _
  | plp => exact steady_pullStatus
  | and | ora | eor =>
      exact (steady_load op).bind fun _ => (leaves_core _).bind fun _ => steady_setA _
  | adc | sbc | cmp | cpx | cpy =>
      exact (steady_load op).bind fun _ => (leaves_core _).bind fun _ =>
        steady_update fun _ => by rfl
  | bit => exact (steady_load op).bind fun _ => steady_update fun _ => by rfl
  | inc | dec => exact steady_replace op _
  | asl | rol => exact steady_shift op Alu.shiftLeft _
  | lsr | ror => exact steady_shift op Alu.shiftRight _
  | jmp | jsr | rts | rti | brk => cases htransfers
  | bcc | bcs | bne | beq | bpl | bmi | bvc | bvs => exact absurd rfl hbranches

theorem Steady.leaves_cycles {α : Type} {x : Exec α} (h : x.Steady) :
  x.Leaves Core.cycles
  := fun core => (h core).mono fun _ hsame => (Prod.mk.inj hsame).2

theorem leaves_cycles_jump (target : UInt16) :
  (jump target).Leaves Core.cycles
  := leaves_update fun _ => rfl

theorem leaves_cycles_address :
  (address op).Leaves Core.cycles
  := by
  cases op with
  | absent | accumulator | immediate _ | offset _ => apply leaves_fail
  | memory address => apply leaves_pure

/-- What an instruction does that transfers control takes no cycles besides its own. -/
theorem leaves_cycles_execute (irqVector : UInt16) {mnemonic : Mnemonic}
    (h : mnemonic.transfers = true) :
  (execute irqVector mnemonic op).Leaves Core.cycles
  := by
  cases mnemonic with
  | jmp => exact (leaves_cycles_address op).bind fun _ => leaves_cycles_jump _
  | jsr =>
      exact (leaves_core _).bind fun _ => (steady_pushWord _).leaves_cycles.bind fun _ =>
        (leaves_cycles_address op).bind fun _ => leaves_cycles_jump _
  | rts => exact steady_pullWord.leaves_cycles.bind fun _ => leaves_cycles_jump _
  | rti =>
      exact steady_pullStatus.leaves_cycles.bind fun _ =>
        steady_pullWord.leaves_cycles.bind fun _ => leaves_cycles_jump _
  | brk =>
      exact (leaves_core _).bind fun _ => (steady_pushWord _).leaves_cycles.bind fun _ =>
        steady_pushStatus.leaves_cycles.bind fun _ => (leaves_update fun _ => by rfl).bind fun _ =>
          (leaves_read _ _).bind fun _ => (leaves_read _ _).bind fun _ => leaves_cycles_jump _
  | _ => cases h

/-! ### Branches -/

/-- A branch has a distance.  It is taken under its condition. -/
theorem ends_branch (condition : Bool) (core : Core) :
  (branch op condition core).Ends fun core' =>
    ∃ distance, op = .offset distance ∧ core' =
      if condition then
        { core with
          pc := core.pc + signExtend distance
          cycles := core.cycles
            + if highByte (core.pc + signExtend distance) = highByte core.pc then 1 else 2 }
      else core
  := by
  cases op with
  | absent | accumulator | immediate _ | memory _ => trivial
  | offset distance =>
      unfold branch
      dsimp only
      split_ifs
      · exact ⟨distance, rfl, rfl⟩
      · exact ⟨distance, rfl, rfl⟩

/-- The mnemonics that branch do so under their conditions. -/
theorem execute_branch (irqVector : UInt16) {mnemonic : Mnemonic}
    (h : mnemonic.usage = .branches) (core : Core) :
  execute irqVector mnemonic op core = branch op (mnemonic.taken core.status) core
  := by
  cases mnemonic with
  | bcc | bcs | bne | beq | bpl | bmi | bvc | bvs => rfl
  | _ => cases h

end

end Exec

/-! ### Instructions -/

namespace Mnemonic

theorem taken_of_not_branches {mnemonic : Mnemonic} (h : mnemonic.usage ≠ .branches)
    (status : Status) :
  mnemonic.taken status = false
  := by
  cases mnemonic with
  | bcc | bcs | bne | beq | bpl | bmi | bvc | bvs => exact absurd rfl h
  | _ => rfl

end Mnemonic

/-- A signed distance from an address, which goes around behind the last one. -/
theorem toNat_add_signExtend (pc : UInt16) (distance : UInt8) :
  ((pc + signExtend distance).toNat : Int)
    = (pc.toNat + (distance.toNat : Int).bmod 0x100) % 0x10000
  := by
  have hdistance := distance.toNat_lt
  have hsign : distance < 128 ↔ distance.toNat < 128 := UInt8.lt_iff_toNat_lt
  have hbmod : (distance.toNat : Int).bmod 0x100
      = if distance.toNat < 128 then (distance.toNat : Int) else distance.toNat - 0x100 := by
    rw [Int.bmod_def]
    split_ifs <;> omega
  simp only [hbmod, UInt16.toNat_add, signExtend, hsign]
  split_ifs
  · rw [UInt8.toNat_toUInt16]
    omega
  · rw [UInt16.toNat_add, UInt8.toNat_toUInt16]
    simp only [UInt16.reduceToNat]
    omega

/-- Only a branch has a distance. -/
theorem Mode.distance?_eq_some {mode : Mode} {core : Core} {m : Memory} {distance : Nat}
    (h : mode.distance? core m = some distance) :
  mode = .relative ∧ m.byteAt? (core.pc.toNat + 1) = some distance
  := by
  cases mode with
  | relative => exact ⟨rfl, h⟩
  | _ => cases h

namespace Instruction

variable {i : Instruction} {core core' : Core} {m m' : Memory} {op : Operand} {irqVector : UInt16}

theorem toNat_ready_pc (i : Instruction) (core : Core) (m : Memory) :
  (i.ready core m).pc.toNat = (core.pc.toNat + 1 + i.mode.length) % 0x10000
  := by
  have hlength : i.mode.length < 0x10000 := by
    cases i.mode <;> decide
  rw [ready, UInt16.toNat_add, UInt16.toNat_add, UInt16.toNat_ofNat_of_lt' hlength, Nat.mod_add_mod]
  rfl

/-- A branch with its operand. -/
theorem advances_of_branches (hlocated : Exec.Located i core m op (i.ready core m))
    (hbranches : i.mnemonic.usage = .branches)
    (hok : (Exec.execute irqVector i.mnemonic op (i.ready core m)).onMemory m
      = (.ok (), core', m')) :
  i.Advances core m core'
  := by
  have hpc := i.toNat_ready_pc core m
  rw [Exec.execute_branch op irqVector hbranches] at hok
  obtain ⟨distance, rfl, hcore⟩ := (Exec.ends_branch op _ _).onMemory hok
  obtain ⟨hmode, hbyte⟩ := Mode.distance?_eq_some hlocated.2.1.symm
  change core' = if i.mnemonic.taken core.status then _ else _ at hcore
  constructor
  · intro _ htaken
    rw [htaken] at hcore
    rw [hcore]
    exact hpc
  · intro htaken
    rw [htaken] at hcore
    rw [hcore]
    rfl
  · intro htaken
    rw [htaken] at hcore
    -- the distance counts from the instruction behind the branch, which is two bytes long
    rw [hmode, Mode.length, Nat.add_assoc] at hpc
    have hjump : core'.pc = (i.ready core m).pc + signExtend distance := by rw [hcore, if_pos rfl]
    have htarget : (core'.pc.toNat : Int) = core.branchTarget distance.toNat := by
      rw [hjump, toNat_add_signExtend, hpc]
      unfold Core.branchTarget
      omega
    have hpage : highByte core'.pc = highByte (i.ready core m).pc
        ↔ core'.pc.toNat / 0x100 = (core.pc.toNat + 2) % 0x10000 / 0x100 := by
      rw [← UInt8.toNat_inj, toNat_highByte, toNat_highByte, hpc]
    refine ⟨distance.toNat, hbyte, htarget, ?_⟩
    simp only [← hpage]
    rw [hcore]
    rfl

/-- Any other instruction with its operand. -/
theorem advances_of_not_branches (hbranches : i.mnemonic.usage ≠ .branches)
    (hok : (Exec.execute irqVector i.mnemonic op (i.ready core m)).onMemory m
      = (.ok (), core', m')) :
  i.Advances core m core'
  := by
  have htaken := Mnemonic.taken_of_not_branches hbranches core.status
  cases htransfers : i.mnemonic.transfers with
  | false =>
      have hsteady := (Exec.steady_execute op irqVector htransfers hbranches _).onMemory hok
      obtain ⟨hpc, hcycles⟩ := Prod.mk.inj hsteady
      constructor
      · intro _ _
        rw [hpc, toNat_ready_pc]
      · intro _
        exact hcycles
      · intro h
        cases htaken.symm.trans h
  | true =>
      constructor
      · intro h
        cases htransfers.symm.trans h
      · intro _
        exact (Exec.leaves_cycles_execute op irqVector htransfers _).onMemory hok
      · intro h
        cases htaken.symm.trans h

theorem advances_of_execute (hlocated : Exec.Located i core m op (i.ready core m))
    (hok : (Exec.execute irqVector i.mnemonic op (i.ready core m)).onMemory m
      = (.ok (), core', m')) :
  i.Advances core m core'
  := by
  by_cases hbranches : i.mnemonic.usage = .branches
  · exact advances_of_branches hlocated hbranches hok
  · exact advances_of_not_branches hbranches hok

/-- No instruction that stores something pays for its index. -/
theorem pagePenalty_eq_false {opcode : UInt8} (h : ofOpcode? opcode = some i)
    (husage : i.mnemonic.usage = .writes ∨ i.mnemonic.usage = .modifies) :
  i.pagePenalty = false
  := by
  have htable : ∀ i ∈ opcodeTable, i.mnemonic.usage = .writes ∨ i.mnemonic.usage = .modifies →
      i.pagePenalty = false := by decide +kernel
  exact htable i (List.mem_of_find?_eq_some h) husage

theorem surcharge_eq_zero (h : i.pagePenalty = false) (core : Core) (m : Memory) :
  i.surcharge core m = 0
  := by
  rw [surcharge, h]
  split <;> rfl

end Instruction

/-! ### Steps -/

namespace Processor

variable {p : Processor} {i : Instruction}

theorem onMemory_step [Arithmetic] (p : Processor) :
  (Exec.instruction p.layout.irqVector p.core).onMemory p.bus.memory
    = (p.step.1, p.step.2.core, p.step.2.bus.memory)
  := (Activity.onBus_onMemory (Exec.instruction p.layout.irqVector p.core) p.bus).symm

/-- A processor comes to an instruction where it finds its opcode. -/
theorem current?_eq_some_iff :
  p.current? = some i
    ↔ ∃ opcode, p.bus.memory.answer p.core.pc = .ok opcode ∧ Instruction.ofOpcode? opcode = some i
  := by
  rw [current?]
  cases p.bus.memory.answer p.core.pc with
  | error fault => simp
  | ok opcode => simp

/-- A processor that comes to an instruction finds its operand and goes on to do what its mnemonic
says, or there is no operand for it to find. -/
theorem onMemory_of_current? (h : p.current? = some i) :
  (∃ op, Exec.Located i p.core p.bus.memory op (i.ready p.core p.bus.memory)
      ∧ (Exec.instruction p.layout.irqVector p.core).onMemory p.bus.memory
        = (Exec.execute p.layout.irqVector i.mnemonic op
            (i.ready p.core p.bus.memory)).onMemory p.bus.memory)
    ∨ i.mode.address? p.core p.bus.memory = none
      ∧ ∃ fault core, (Exec.instruction p.layout.irqVector p.core).onMemory p.bus.memory
        = (.error fault, core, p.bus.memory)
  := by
  obtain ⟨opcode, hopcode, hdecode⟩ := current?_eq_some_iff.mp h
  rw [Exec.instruction_eq, Activity.onMemory_read_of_ok hopcode, hdecode]
  obtain ⟨op, core, hlocated, hgoes⟩ | ⟨hlost, fault, core, hfails⟩ :=
    (Exec.finds_operand i p.core p.bus.memory).onMemory_andThen
      (Exec.execute p.layout.irqVector i.mnemonic)
  · obtain rfl := hlocated.2.2
    exact .inl ⟨op, hlocated, hgoes⟩
  · exact .inr ⟨hlost, fault, core, hfails⟩

/-- A processor that makes a step comes to an instruction. -/
theorem exists_current?_of_step [Arithmetic] (h : p.step.1 = .ok ()) :
  ∃ i, p.current? = some i
  := by
  have hok : ((Exec.instruction p.layout.irqVector p.core).onMemory p.bus.memory).1 = .ok () :=
    (congrArg Prod.fst p.onMemory_step).trans h
  rw [Exec.instruction_eq] at hok
  obtain ⟨opcode, hopcode, hbehind⟩ := Activity.onMemory_read_inv hok
  rw [hbehind] at hok
  cases hdecode : Instruction.ofOpcode? opcode with
  | none =>
      rw [hdecode] at hok
      cases hok
  | some i => exact ⟨i, current?_eq_some_iff.mpr ⟨opcode, hopcode, hdecode⟩⟩

/-- A step that succeeds takes the processor on by the instruction that it comes to.  An instruction
that stores something takes just the cycles of its row in the opcode table. -/
theorem step_advances [Arithmetic] (h : p.step.1 = .ok ()) :
  ∃ i, p.current? = some i
    ∧ i.Advances p.core p.bus.memory p.step.2.core
    ∧ (i.mnemonic.usage = .writes ∨ i.mnemonic.usage = .modifies →
      i.pagePenalty = false ∧ p.step.2.core.cycles = p.core.cycles + i.cycles)
  := by
  obtain ⟨i, hcurrent⟩ := exists_current?_of_step h
  obtain ⟨opcode, -, hdecode⟩ := current?_eq_some_iff.mp hcurrent
  have hstep := p.onMemory_step
  rw [h] at hstep
  obtain ⟨op, hlocated, hgoes⟩ | ⟨-, fault, core, hfails⟩ := onMemory_of_current? hcurrent
  · have hadvances := Instruction.advances_of_execute hlocated (hgoes.symm.trans hstep)
    refine ⟨i, hcurrent, hadvances, ?_⟩
    intro husage
    have hpenalty := Instruction.pagePenalty_eq_false hdecode husage
    have hbranches : i.mnemonic.usage ≠ .branches := by
      obtain husage | husage := husage <;> rw [husage] <;> decide
    have hcycles := hadvances.cycles_eq (Mnemonic.taken_of_not_branches hbranches p.core.status)
    rw [Instruction.surcharge_eq_zero hpenalty] at hcycles
    exact ⟨hpenalty, hcycles⟩
  · cases hfails.symm.trans hstep

/-- A processor at a branch on which its flags decide, near the end of a page. -/
def smallBranching : Processor where
  core := Core.initial 0xF0
  layout := (Settings.smallPages 0xFE).layout
  bus := { Bus.fresh (.smallPages 0xFE) with
    memory := (Memory.zeroed 0x200).storeAll 0xF0 [0xD0, 0x20] }

theorem step_advances_small :
  smallBranching.step.1 = .ok ()
    ∧ smallBranching.step.2.core.pc.toNat = 0x112
    ∧ smallBranching.step.2.core.cycles = 4
  := by
  have hok : smallBranching.step.1 = .ok () := by decide +kernel
  obtain ⟨i, hcurrent, hadvances, -⟩ := step_advances hok
  have hbne : smallBranching.current? = some ⟨0xD0, .bne, .relative, 2, false⟩ := by
    decide +kernel
  obtain rfl := Option.some.inj (hcurrent.symm.trans hbne)
  obtain ⟨distance, hdistance, hpc, hcycles⟩ := hadvances.taken_eq (by decide)
  have hbyte : smallBranching.bus.memory.byteAt? (smallBranching.core.pc.toNat + 1)
      = some 0x20 := by decide +kernel
  obtain rfl := Option.some.inj (hdistance.symm.trans hbyte)
  have htarget : smallBranching.step.2.core.pc.toNat = 0x112 := Int.ofNat.inj hpc
  rw [htarget] at hcycles
  exact ⟨hok, htarget, hcycles⟩

end Processor

end RasterConsole
