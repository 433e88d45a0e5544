import RasterConsole.Proofs.Memory.Contents
import RasterConsole.Proofs.Processor.Guest
import RasterConsole.Proofs.Processor.Runs

/-!
# Vectors

The processor takes its entry points from two vectors.  A reset reads the bytes of its
vector straight from memory.  A software interrupt reads them over the bus, like any other
bytes: it finds zero where the register window covers the memory, and behind the last
address it goes on at the first.  So the two agree on where a program is entered if, and
only if, the bytes that the window covers are zero (`step_brk`).
-/

namespace RasterConsole

namespace Settings

/-- Both vectors lie inside the memory of settings that are accepted. -/
theorem vectors_lt {s : Settings} (h : s.validate = .ok ()) :
  s.layout.resetVector.toNat + 1 < s.memorySize ∧ s.layout.irqVector.toNat + 1 < s.memorySize
  := by
  have hdefect := defect?_eq_none h
  simp only [defect?, holdsVector, Bool.not_eq_true', decide_eq_false_iff_not] at hdefect
  split_ifs at hdefect with _ hreset hirq
  exact ⟨hreset, hirq⟩

/-- Two pages of memory, with the vectors in the first and programs in the second. -/
def smallPages (irqVector : UInt16) : Settings where
  memorySize := 0x200
  geometry := .small
  layout := ⟨0x180, 0xFC, irqVector⟩

end Settings

namespace Memory

/-- Outside the register window a write is a store. -/
theorem store_of_accept {m m' : Memory} {address : UInt16} {value : UInt8}
    (ha : ¬ address < windowSize) (h : m.accept address value = .ok m') :
  m' = m.store address.toNat value
  := by
  rw [accept, if_neg ha, write] at h
  split at h
  · cases h
  · cases h
    rfl

end Memory

namespace Activity

variable {α : Type}

theorem onMemory_read_of_ok {m : Memory} {address : UInt16} {byte : UInt8}
    (h : m.answer address = .ok byte) (core : Core) (next : UInt8 → Activity α) :
  (read core address next).onMemory m = (next byte).onMemory m
  := by
  rw [onMemory, h]

/-- An activity that begins with a read and succeeds has found a byte. -/
theorem onMemory_read_inv {m : Memory} {address : UInt16} {core : Core}
    {next : UInt8 → Activity α} {value : α}
    (h : ((read core address next).onMemory m).1 = .ok value) :
  ∃ byte, m.answer address = .ok byte
    ∧ (read core address next).onMemory m = (next byte).onMemory m
  := by
  cases hanswer : m.answer address with
  | ok byte => exact ⟨byte, rfl, onMemory_read_of_ok hanswer core next⟩
  | error fault =>
      rw [onMemory, hanswer] at h
      cases h

/-- An activity that begins with a write outside the register window and succeeds has
stored the byte. -/
theorem onMemory_write_inv {m : Memory} {address : UInt16} {byte : UInt8} {core : Core}
    {next : Activity α} {value : α} (ha : ¬ address < windowSize)
    (h : ((write core address byte next).onMemory m).1 = .ok value) :
  (write core address byte next).onMemory m = next.onMemory (m.store address.toNat byte)
  := by
  cases haccept : m.accept address byte with
  | ok m' => rw [onMemory, haccept, Memory.store_of_accept ha haccept]
  | error fault =>
      rw [onMemory, haccept] at h
      cases h

end Activity

/-! ### The software interrupt -/

namespace Core

/-- The registers behind an opcode that takes some cycles. -/
def past (core : Core) (cycles : Nat) : Core :=
  { core with pc := core.pc + 1, cycles := core.cycles + cycles }

/-- The memory with the registers saved that an interrupt has to bring back: the address to
return to, high byte first, and the flags. -/
def save (core : Core) (m : Memory) : Memory :=
  ((m.store (stackAddress core.sp).toNat (highByte (core.pc + 1))).store
    (stackAddress (core.sp - 1)).toNat (lowByte (core.pc + 1))).store
    (stackAddress (core.sp - 1 - 1)).toNat core.status.pushed

/-- The registers at the entry of an interrupt handler. -/
def interrupted (core : Core) (handler : UInt16) : Core :=
  { core with
    sp := core.sp - 1 - 1 - 1
    pc := handler
    status := { core.status with interrupt := true } }

end Core

namespace Exec

/-- A software interrupt saves the registers, and then reads its vector. -/
theorem execute_brk (irqVector : UInt16) (core : Core) :
  execute irqVector .brk .absent core
    = .write core (stackAddress core.sp) (highByte (core.pc + 1))
      (.write { core with sp := core.sp - 1 } (stackAddress (core.sp - 1))
        (lowByte (core.pc + 1))
        (.write { core with sp := core.sp - 1 - 1 } (stackAddress (core.sp - 1 - 1))
          core.status.pushed
          (.read (core.interrupted core.pc) irqVector fun low =>
            .read (core.interrupted core.pc) (irqVector + 1) fun high =>
              .done () (core.interrupted (wordOf low high)))))
  := rfl

/-- A software interrupt that succeeds enters the handler at the address that the bus finds
in the vector after the registers have been saved. -/
theorem onMemory_brk {irqVector : UInt16} {core : Core} {m : Memory}
    (hok : ((execute irqVector .brk .absent core).onMemory m).1 = .ok ()) :
  ∃ low high, (core.save m).answer irqVector = .ok low
    ∧ (core.save m).answer (irqVector + 1) = .ok high
    ∧ (execute irqVector .brk .absent core).onMemory m
      = (.ok (), core.interrupted (wordOf low high), core.save m)
  := by
  rw [execute_brk] at hok ⊢
  have hpage := Activity.onMemory_write_inv (stackAddress_not_lt _) hok
  rw [hpage] at hok ⊢
  have hreturn := Activity.onMemory_write_inv (stackAddress_not_lt _) hok
  rw [hreturn] at hok ⊢
  have hstatus := Activity.onMemory_write_inv (stackAddress_not_lt _) hok
  rw [hstatus] at hok ⊢
  obtain ⟨low, hlow, hread⟩ := Activity.onMemory_read_inv hok
  rw [hread] at hok ⊢
  obtain ⟨high, hhigh, hread⟩ := Activity.onMemory_read_inv hok
  rw [hread]
  exact ⟨low, high, hlow, hhigh, rfl⟩

/-- An instruction without an operand does what its mnemonic says right behind its opcode. -/
theorem onMemory_instruction_implied {irqVector : UInt16} {core : Core} {m : Memory}
    {opcode : UInt8} {mnemonic : Mnemonic} {cycles : Nat} {pagePenalty : Bool}
    (hdecode : Instruction.ofOpcode? opcode
      = some ⟨opcode, mnemonic, .implied, cycles, pagePenalty⟩)
    (h : m.answer core.pc = .ok opcode) :
  (instruction irqVector core).onMemory m
    = (execute irqVector mnemonic .absent (core.past cycles)).onMemory m
  := by
  rw [instruction_eq, Activity.onMemory_read_of_ok h, hdecode]
  rfl

theorem onMemory_instruction_brk {irqVector : UInt16} {core : Core} {m : Memory}
    (h : m.answer core.pc = .ok 0x00) :
  (instruction irqVector core).onMemory m
    = (execute irqVector .brk .absent (core.past 7)).onMemory m
  := onMemory_instruction_implied
    (by decide +kernel : Instruction.ofOpcode? 0x00 = some ⟨0x00, .brk, .implied, 7, false⟩) h

end Exec

/-! ### Words seen over the bus -/

/-- What a word that memory holds looks like over the bus: its bytes are zero where they lie
under the register window. -/
def overBus (address word : UInt16) : UInt16 :=
  wordOf (if address < windowSize then 0 else lowByte word)
    (if address + 1 < windowSize then 0 else highByte word)

theorem overBus_eq_iff {address word : UInt16} :
  overBus address word = word
    ↔ (address < windowSize → lowByte word = 0) ∧ (address + 1 < windowSize → highByte word = 0)
  := by
  rw [overBus, wordOf_eq_iff]
  split_ifs with hlow hhigh hhigh
  · simp [hlow, hhigh, eq_comm]
  · simp [hlow, hhigh, eq_comm]
  · simp [hlow, hhigh, eq_comm]
  · simp [hlow, hhigh]

/-- The address behind the last one lies in the register window. -/
theorem toNat_succ_of_outside {address : UInt16} (h : ¬ address + 1 < windowSize) :
  (address + 1).toNat = address.toNat + 1
  := by
  rw [UInt16.lt_iff_toNat_lt, UInt16.toNat_add] at h
  rw [UInt16.toNat_add]
  have haddress := address.toNat_lt
  simp only [windowSize, UInt16.reduceToNat] at h ⊢
  omega

/-- The two bytes that the bus finds at an address are those of the word that memory holds
there, as far as the register window does not cover them. -/
theorem Memory.answer_word {m : Memory} {address : UInt16} {word : UInt16} {low high : UInt8}
    (hword : m.readWord address.toNat = .ok word) (hlow : m.answer address = .ok low)
    (hhigh : m.answer (address + 1) = .ok high) :
  wordOf low high = overBus address word
  := by
  obtain ⟨hreadLow, hreadHigh⟩ := readWord_eq_ok_iff.mp hword
  rw [answer] at hlow hhigh
  rw [overBus]
  congr 1
  · split_ifs at hlow ⊢
    · cases hlow
      rfl
    · rw [hreadLow] at hlow
      cases hlow
      rfl
  · split_ifs at hhigh ⊢ with hcovered
    · cases hhigh
      rfl
    · rw [toNat_succ_of_outside hcovered, hreadHigh] at hhigh
      cases hhigh
      rfl

/-! ### Processors that fit settings -/

namespace Processor

/-- The vectors and the size of the memory are as the settings ask. -/
structure Fits (s : Settings) (p : Processor) : Prop where
  layout_eq : p.layout = s.layout
  capacity_eq : p.bus.memory.capacity = s.memorySize

section

variable {s : Settings} {p : Processor}

/-- A reset succeeds and enters the program at the word in the reset vector. -/
theorem Fits.reset_eq (hp : p.Fits s) (hs : s.validate = .ok ()) :
  ∃ entry, p.bus.memory.readWord s.layout.resetVector.toNat = .ok entry
    ∧ p.reset = (.ok (), { p with core := Core.initial entry })
  := by
  obtain ⟨hreset, -⟩ := Settings.vectors_lt hs
  rw [← hp.capacity_eq] at hreset
  obtain ⟨entry, hentry⟩ := Memory.readWord_of_lt hreset
  use entry, hentry
  rw [reset, hp.layout_eq, hentry]

/-- A software interrupt that succeeds saves the registers in memory and enters its handler
at what the bus sees of the word in the vector. -/
theorem Fits.after_brk [Arithmetic] (hp : p.Fits s) (hbrk : p.bus.peek p.core.pc = .ok 0x00)
    (hok : p.step.1 = .ok ()) {word : UInt16}
    (hword : ((p.core.past 7).save p.bus.memory).readWord s.layout.irqVector.toNat = .ok word) :
  p.step.2.bus.memory = (p.core.past 7).save p.bus.memory
    ∧ p.step.2.core = (p.core.past 7).interrupted (overBus s.layout.irqVector word)
  := by
  have hstep := p.guest_step
  have hanswer : p.bus.memory.answer p.core.pc = .ok 0x00 := hbrk
  rw [Guest.step, guest, Exec.onMemory_instruction_brk hanswer] at hstep
  have hexec : ((Exec.execute p.layout.irqVector .brk .absent (p.core.past 7)).onMemory
      p.bus.memory).1 = .ok () := by
    rw [← hok]
    exact congrArg Prod.fst hstep
  obtain ⟨low, high, hlow, hhigh, hend⟩ := Exec.onMemory_brk hexec
  rw [hend] at hstep
  rw [hp.layout_eq] at hlow hhigh
  rw [← Memory.answer_word hword hlow hhigh]
  constructor
  · exact congrArg (fun outcome => outcome.2.memory) hstep.symm
  · exact congrArg (fun outcome => outcome.2.core) hstep.symm

/-- The two ways into a program.  A reset enters at the word that memory holds in the reset
vector.  A software interrupt that succeeds enters at what the bus sees of the word that
memory holds in the other vector when the registers have been saved, and this is the word
itself if, and only if, each of its bytes that lies under the register window is zero. -/
theorem step_brk [Arithmetic] (hs : s.validate = .ok ()) (hp : p.Fits s)
    (hbrk : p.bus.peek p.core.pc = .ok 0x00) (hok : p.step.1 = .ok ()) :
  (∃ entry, p.bus.memory.readWord s.layout.resetVector.toNat = .ok entry
      ∧ p.reset = (.ok (), { p with core := Core.initial entry }))
    ∧ p.step.2.bus.memory = (p.core.past 7).save p.bus.memory
    ∧ ∃ word, p.step.2.bus.memory.readWord s.layout.irqVector.toNat = .ok word
      ∧ p.step.2.core.pc = overBus s.layout.irqVector word
      ∧ (p.step.2.core.pc = word
        ↔ (s.layout.irqVector < windowSize → lowByte word = 0)
          ∧ (s.layout.irqVector + 1 < windowSize → highByte word = 0))
  := by
  obtain ⟨-, hirq⟩ := Settings.vectors_lt hs
  have hcapacity : ((p.core.past 7).save p.bus.memory).capacity = s.memorySize := by
    simp only [Core.save, Memory.capacity_store, hp.capacity_eq]
  rw [← hcapacity] at hirq
  obtain ⟨word, hword⟩ := Memory.readWord_of_lt hirq
  obtain ⟨hmemory, hcore⟩ := hp.after_brk hbrk hok hword
  refine ⟨hp.reset_eq hs, hmemory, word, ?_, ?_, ?_⟩
  · rw [hmemory, hword]
  · rw [hcore]
    rfl
  · rw [hcore]
    apply overBus_eq_iff

/-- A processor before a zero, which is a software interrupt, with both vectors pointing
there. -/
def smallBreak (irqVector : UInt16) : Processor where
  core := Core.initial 0x180
  layout := (Settings.smallPages irqVector).layout
  bus := { Bus.fresh (.smallPages irqVector) with
    memory := ((Memory.zeroed 0x200).storeWord 0xFC 0x180).storeWord irqVector.toNat 0x180 }

theorem smallBreak_fits (irqVector : UInt16) :
  (smallBreak irqVector).Fits (.smallPages irqVector)
  := by
  constructor
  · rfl
  · simp [smallBreak, Settings.smallPages]

theorem step_brk_small :
  (Settings.smallPages 0xFE).validate = .ok () ∧ (smallBreak 0xFE).Fits (.smallPages 0xFE)
    ∧ (smallBreak 0xFE).bus.peek (smallBreak 0xFE).core.pc = .ok 0x00
    ∧ (smallBreak 0xFE).step.1 = .ok ()
    ∧ (smallBreak 0xFE).step.2.bus.memory.readWord 0xFE = .ok (smallBreak 0xFE).step.2.core.pc
  := by
  have hs : (Settings.smallPages 0xFE).validate = .ok () := by decide +kernel
  have hbrk : (smallBreak 0xFE).bus.peek (smallBreak 0xFE).core.pc = .ok 0x00 := by
    decide +kernel
  have hok : (smallBreak 0xFE).step.1 = .ok () := by decide +kernel
  obtain ⟨-, -, word, hword, -, hiff⟩ := step_brk hs (smallBreak_fits 0xFE) hbrk hok
  have hpc : (smallBreak 0xFE).step.2.core.pc = word := by
    rw [hiff]
    exact ⟨fun hlow => absurd hlow (by decide), fun hhigh => absurd hhigh (by decide)⟩
  refine ⟨hs, smallBreak_fits 0xFE, hbrk, hok, ?_⟩
  rw [hpc]
  apply hword

/-- The handler is not entered where memory says if the vector lies under the register
window. -/
theorem exists_step_brk_ne_readWord :
  ¬ ∀ (s : Settings) (p : Processor), s.validate = .ok () → p.Fits s →
    p.bus.peek p.core.pc = .ok 0x00 → p.step.1 = .ok () →
    p.step.2.bus.memory.readWord s.layout.irqVector.toNat = .ok p.step.2.core.pc
  := by
  intro h
  have hbrk : (smallBreak 0x10).bus.peek (smallBreak 0x10).core.pc = .ok 0x00 := by
    decide +kernel
  have hok : (smallBreak 0x10).step.1 = .ok () := by decide +kernel
  have hword := h (.smallPages 0x10) (smallBreak 0x10) (by decide +kernel) (smallBreak_fits 0x10)
    hbrk hok
  have hstored : (smallBreak 0x10).step.2.bus.memory.readWord 0x10 = .ok 0x180 := by
    decide +kernel
  have hentered : (smallBreak 0x10).step.2.core.pc = 0 := by decide +kernel
  rw [hentered] at hword
  cases hstored.symm.trans hword

end

end Processor

end RasterConsole
