import RasterConsole.Proofs.Console.Reachable
import RasterConsole.Proofs.Processor.Vectors

/-!
# Booting

Booting a program loads it into a memory of zeros and then stores its base in the reset
vector and in the interrupt vector, in this order.  If the vectors are neighbours, then one
byte belongs to both, and the second store spoils the word that the first one has left: the
program is entered at `Layout.entry`, which is its base if, and only if, the vectors do not
overlap or the two bytes of the base are equal.  Everything else is as it should be for all
settings that are accepted (`boot_outcome`).
-/

namespace RasterConsole

namespace Layout

/-- The vectors are neighbours, and one byte belongs to both. -/
def Overlapping (l : Layout) : Prop :=
  l.resetVector.toNat = l.irqVector.toNat + 1 ∨ l.irqVector.toNat = l.resetVector.toNat + 1

/-- The addresses of the bytes of the vectors. -/
def IsVectorCell (l : Layout) (address : Nat) : Prop :=
  address = l.resetVector.toNat ∨ address = l.resetVector.toNat + 1
    ∨ address = l.irqVector.toNat ∨ address = l.irqVector.toNat + 1

/-- The word in the reset vector when the base has been stored in both vectors, in the
interrupt vector last. -/
def entry (l : Layout) : UInt16 :=
  wordOf
    (if l.resetVector.toNat = l.irqVector.toNat + 1 then highByte l.base else lowByte l.base)
    (if l.irqVector.toNat = l.resetVector.toNat + 1 then lowByte l.base else highByte l.base)

theorem entry_eq_base_iff {l : Layout} :
  l.entry = l.base ↔ (l.Overlapping → lowByte l.base = highByte l.base)
  := by
  rw [entry, Overlapping, wordOf_eq_iff]
  by_cases hbehind : l.resetVector.toNat = l.irqVector.toNat + 1
  · rw [if_pos hbehind, if_neg (by omega)]
    exact ⟨fun h _ => h.1.symm, fun h => ⟨(h (.inl hbehind)).symm, rfl⟩⟩
  · rw [if_neg hbehind]
    by_cases hbefore : l.irqVector.toNat = l.resetVector.toNat + 1
    · rw [if_pos hbefore]
      exact ⟨fun h _ => h.2, fun h => ⟨rfl, h (.inr hbefore)⟩⟩
    · rw [if_neg hbefore]
      exact ⟨fun _ h => (h.elim hbehind hbefore).elim, fun _ => ⟨rfl, rfl⟩⟩

end Layout

namespace Console

/-! ### The memory of a program -/

/-- A memory with a program loaded and its base stored in both vectors. -/
def installed (l : Layout) (capacity : Nat) (program : List UInt8) : Memory :=
  (((Memory.zeroed capacity).storeAll l.base.toNat program).storeWord l.resetVector.toNat
    l.base).storeWord l.irqVector.toNat l.base

section

variable {l : Layout} {capacity : Nat} {program : List UInt8}

theorem install_of_fits (hreset : l.resetVector.toNat + 1 < capacity)
    (hirq : l.irqVector.toNat + 1 < capacity)
    (hfits : l.base.toNat + program.length ≤ capacity) :
  install l (.zeroed capacity) program = .ok (installed l capacity program)
  := by
  have hload : (Memory.zeroed capacity).load l.base.toNat program
      = .ok ((Memory.zeroed capacity).storeAll l.base.toNat program) :=
    if_pos (by rwa [Memory.capacity_zeroed])
  rw [install, hload]
  change Memory.writeWord _ _ _ >>= _ = _
  rw [Memory.writeWord_of_lt l.base (by simpa using hreset)]
  apply Memory.writeWord_of_lt
  simpa using hirq

theorem install_of_overflow (hoverflow : capacity < l.base.toNat + program.length) :
  install l (.zeroed capacity) program
    = .error (.loadOverflow l.base.toNat program.length capacity)
  := by
  have hload : (Memory.zeroed capacity).load l.base.toNat program
      = .error (.loadOverflow l.base.toNat program.length capacity) := by
    rw [Memory.load, Memory.capacity_zeroed, if_neg (by omega)]
  rw [install, hload]
  rfl

theorem readWord_installed_irqVector (hirq : l.irqVector.toNat + 1 < capacity) :
  (installed l capacity program).readWord l.irqVector.toNat = .ok l.base
  := by
  apply Memory.readWord_storeWord
  simpa using hirq

/-- The second store of the base changes the word of the first where the vectors overlap. -/
theorem readWord_installed_resetVector (hreset : l.resetVector.toNat + 1 < capacity)
    (hirq : l.irqVector.toNat + 1 < capacity) :
  (installed l capacity program).readWord l.resetVector.toNat = .ok l.entry
  := by
  have hloaded : l.resetVector.toNat + 1
      < ((Memory.zeroed capacity).storeAll l.base.toNat program).capacity := by
    simpa using hreset
  have hlow := Memory.read_storeWord_low l.base hloaded
  have hhigh := Memory.read_storeWord_high l.base hloaded
  have hcapacity : (((Memory.zeroed capacity).storeAll l.base.toNat program).storeWord
      l.resetVector.toNat l.base).capacity = capacity := by simp
  rw [installed]
  -- from here on the memory after the first store may be any that holds the two bytes
  generalize Memory.storeWord _ l.resetVector.toNat l.base = first at hlow hhigh hcapacity ⊢
  rw [← hcapacity] at hirq
  by_cases hsame : l.resetVector.toNat = l.irqVector.toNat
  · have hentry : l.entry = l.base := by
      rw [Layout.entry_eq_base_iff, Layout.Overlapping]
      omega
    rw [hentry, hsame, Memory.readWord_storeWord l.base hirq]
  · apply Memory.readWord_of_read
    · split_ifs with hbehind
      · rw [hbehind, Memory.read_storeWord_high l.base hirq]
      · rw [Memory.read_storeWord_of_outside _ _ hsame hbehind, hlow]
    · split_ifs with hbefore
      · rw [← hbefore, Memory.read_storeWord_low l.base hirq]
      · rw [Memory.read_storeWord_of_outside _ _ (by omega) (by omega), hhigh]

theorem read_installed (hfits : l.base.toNat + program.length ≤ capacity) {address : Nat}
    (haddress : address < capacity) (hcell : ¬ l.IsVectorCell address) :
  (installed l capacity program).read address
    = .ok (Memory.loaded l.base.toNat program address)
  := by
  obtain ⟨hreset, hreset', hirq, hirq'⟩ : address ≠ l.resetVector.toNat
      ∧ address ≠ l.resetVector.toNat + 1 ∧ address ≠ l.irqVector.toNat
      ∧ address ≠ l.irqVector.toNat + 1 := by
    simpa only [Layout.IsVectorCell, not_or] using hcell
  rw [installed, Memory.read_storeWord_of_outside _ _ hirq hirq',
    Memory.read_storeWord_of_outside _ _ hreset hreset',
    Memory.read_storeAll_zeroed hfits haddress]

end

/-! ### Consoles that fit settings -/

/-- The console has the settings, and its processor fits them. -/
structure Fits (s : Settings) (c : Console) : Prop where
  settings_eq : c.settings = s
  processor : c.processor.Fits s

section

variable {s : Settings} {c : Console}

/-- Every console that comes up fits its settings. -/
theorem Reachable.fits [Arithmetic] (h : Reachable s c) :
  c.Fits s
  := ⟨h.settings_eq, h.layout_eq, h.suits.capacity_eq⟩

/-! ### Booting and resetting -/

/-- What booting leaves if the program fits into memory. -/
structure Booted (s : Settings) (program : List UInt8) (c : Console) : Prop where
  faulted_eq : c.faulted = false
  pc_eq : c.processor.core.pc = s.layout.entry
  resetVector_eq : c.processor.bus.memory.readWord s.layout.resetVector.toNat = .ok s.layout.entry
  irqVector_eq : c.processor.bus.memory.readWord s.layout.irqVector.toNat = .ok s.layout.base
  read_eq : ∀ address < s.memorySize, ¬ s.layout.IsVectorCell address →
    c.processor.bus.memory.read address
      = .ok (Memory.loaded s.layout.base.toNat program address)

/-- What booting leaves if the program does not fit. -/
structure Blank (s : Settings) (c : Console) : Prop where
  faulted_eq : c.faulted = true
  read_eq : ∀ address < s.memorySize, c.processor.bus.memory.read address = .ok 0

/-- Booting starts from a memory of zeros. -/
theorem Fits.clear_eq [Arithmetic] (hc : c.Fits s) :
  c.processor.bus.reset.memory = .zeroed s.memorySize
  := congrArg Memory.zeroed hc.processor.capacity_eq

/-- A program that fits is installed in a memory of zeros and entered. -/
theorem Fits.boot_eq_of_fits [Arithmetic] (hc : c.Fits s) (hs : s.validate = .ok ())
    {program : List UInt8}
    (hfits : s.layout.base.toNat + program.length ≤ s.memorySize) :
  c.boot program = (.ok (), ⟨s, { c.processor with
    core := Core.initial s.layout.entry
    bus := { c.processor.bus.reset with
      memory := installed s.layout s.memorySize program } }, false⟩)
  := by
  obtain ⟨hreset, hirq⟩ := Settings.vectors_lt hs
  unfold boot
  dsimp only
  rw [hc.clear_eq, hc.settings_eq, install_of_fits hreset hirq hfits]
  dsimp only
  rw [Processor.reset, hc.processor.layout_eq, readWord_installed_resetVector hreset hirq]
  rfl

theorem Fits.boot_of_fits [Arithmetic] (hc : c.Fits s) (hs : s.validate = .ok ())
    {program : List UInt8}
    (hfits : s.layout.base.toNat + program.length ≤ s.memorySize) :
  (c.boot program).1 = .ok () ∧ Booted s program (c.boot program).2
  := by
  obtain ⟨hreset, hirq⟩ := Settings.vectors_lt hs
  rw [hc.boot_eq_of_fits hs hfits]
  exact ⟨rfl, rfl, rfl, readWord_installed_resetVector hreset hirq,
    readWord_installed_irqVector hirq, fun address haddress hcell =>
      read_installed hfits haddress hcell⟩

theorem Fits.boot_of_overflow [Arithmetic] (hc : c.Fits s) {program : List UInt8}
    (hoverflow : s.memorySize < s.layout.base.toNat + program.length) :
  (c.boot program).1
      = .error (.loadOverflow s.layout.base.toNat program.length s.memorySize)
    ∧ Blank s (c.boot program).2
  := by
  have hboot : c.boot program
      = (.error (.loadOverflow s.layout.base.toNat program.length s.memorySize),
        ⟨s, { c.processor with bus := c.processor.bus.reset }, true⟩) := by
    unfold boot
    dsimp only
    rw [hc.clear_eq, hc.settings_eq, install_of_overflow hoverflow]
  rw [hboot]
  refine ⟨rfl, rfl, fun address haddress => ?_⟩
  rw [hc.clear_eq, Memory.read_zeroed haddress]

/-- What booting leaves, for all settings that are accepted, whatever the console has done
before.  If the program fits into memory, it is entered at the word in the reset vector, the
interrupt vector holds its base, and outside the vectors memory holds the program and zeros.
The word in the reset vector is the base as well if, and only if, the vectors do not overlap
or the two bytes of the base are equal.  If the program does not fit, then memory is zero and
the console is faulted. -/
theorem boot_outcome [Arithmetic] (hs : s.validate = .ok ()) (hc : c.Fits s)
    (program : List UInt8) :
  (s.layout.base.toNat + program.length ≤ s.memorySize →
      (c.boot program).1 = .ok () ∧ Booted s program (c.boot program).2)
    ∧ (s.layout.entry = s.layout.base
      ↔ (s.layout.Overlapping → lowByte s.layout.base = highByte s.layout.base))
    ∧ (s.memorySize < s.layout.base.toNat + program.length →
      (c.boot program).1
          = .error (.loadOverflow s.layout.base.toNat program.length s.memorySize)
        ∧ Blank s (c.boot program).2)
  := ⟨hc.boot_of_fits hs, Layout.entry_eq_base_iff, hc.boot_of_overflow⟩

/-- A program may reach over the vectors, and may be one byte too long. -/
theorem boot_outcome_small :
  Settings.small.validate = .ok () ∧ small.Fits .small
    ∧ (small.boot (List.replicate 126 0xEA)).1 = .ok ()
    ∧ Booted .small (List.replicate 126 0xEA) (small.boot (List.replicate 126 0xEA)).2
    ∧ (small.boot (List.replicate 126 0xEA)).2.processor.core.pc = 0x80
    ∧ (small.boot (List.replicate 129 0xEA)).1 = .error (.loadOverflow 0x80 129 0x100)
    ∧ Blank .small (small.boot (List.replicate 129 0xEA)).2
  := by
  have hs : Settings.small.validate = .ok () := by decide +kernel
  have hc : small.Fits .small := small_reachable.fits
  obtain ⟨hover, hentry, -⟩ := boot_outcome hs hc (List.replicate 126 0xEA)
  obtain ⟨hok, hbooted⟩ := hover (by decide +kernel)
  obtain ⟨-, -, hlong⟩ := boot_outcome hs hc (List.replicate 129 0xEA)
  obtain ⟨hfault, hblank⟩ := hlong (by decide +kernel)
  have hapart : ¬ Settings.small.layout.Overlapping := by
    rw [Layout.Overlapping]
    decide
  refine ⟨hs, hc, hok, hbooted, ?_, hfault, hblank⟩
  rw [hbooted.pc_eq, hentry.mpr fun hoverlap => absurd hoverlap hapart]
  rfl

/-- The small settings with the vectors side by side. -/
def smallNeighbours : Settings := { Settings.small with layout := ⟨0x80, 0xFC, 0xFD⟩ }

/-- With its vectors side by side the small console enters a program in another page. -/
theorem exists_boot_pc_ne_base :
  ¬ ∀ (s : Settings) (c : Console) (program : List UInt8), Reachable s c →
    s.layout.base.toNat + program.length ≤ s.memorySize →
    (c.boot program).2.processor.core.pc = s.layout.base
  := by
  intro h
  have hbase := h smallNeighbours ⟨smallNeighbours, Processor.fresh smallNeighbours, false⟩ [0xEA]
    (.build rfl) (by decide +kernel)
  have hpc : (boot ⟨smallNeighbours, Processor.fresh smallNeighbours, false⟩
      [0xEA]).2.processor.core.pc = 0x8080 := by decide +kernel
  rw [hpc] at hbase
  cases hbase

end

end Console

end RasterConsole
