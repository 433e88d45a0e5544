import RasterConsole.Proofs.Bus.Ledger
import RasterConsole.Proofs.Processor.Allowance
import RasterConsole.Proofs.Processor.Course
import RasterConsole.Proofs.Processor.Starts

/-!
# The accesses of a run

`Processor.accesses` lists the accesses of an instruction to the bus, each with the time at
which the processor sees the beam when it makes it.  The accesses of a run are those of the
instructions that it starts (`Processor.starts`), in a row.

The beam goes on by the ticks of the cycles that an activity charges and by what its accesses
wait for, whether or not it comes to its end (`Activity.Within.spends`).  So whatever a run does,
the clock of the beam and that of the processor differ by these waits only
(`Processor.Balanced.runWithin`).
-/

namespace RasterConsole

attribute [local instance] Arithmetic.exact

/-- An access to the bus, with the time of the beam as the processor sees it. -/
structure Access where
  address : UInt16
  time : Nat
  deriving Repr, DecidableEq

namespace Access

/-- The access is to the strobe register. -/
def isStrobe (access : Access) : Bool := access.address == 0x02

/-- What an access waits for if the lines have `line` ticks: the start of the next line if it
is to the strobe register, and nothing else. -/
def wait (line : Nat) (access : Access) : Nat :=
  if access.address = 0x02 then line - access.time % line else 0

/-- What accesses wait for in all. -/
def waits (line : Nat) (accesses : List Access) : Nat := (accesses.map (wait line)).sum

@[simp]
theorem waits_nil (line : Nat) :
  waits line [] = 0
  := rfl

@[simp]
theorem waits_cons (line : Nat) (access : Access) (rest : List Access) :
  waits line (access :: rest) = access.wait line + waits line rest
  := by
  rw [waits, List.map_cons, List.sum_cons, waits]

@[simp]
theorem waits_append (line : Nat) (accesses rest : List Access) :
  waits line (accesses ++ rest) = waits line accesses + waits line rest
  := by
  rw [waits, List.map_append, List.sum_append, waits, waits]

theorem wait_of_not_strobe (line : Nat) {access : Access} (h : access.address ≠ 0x02) :
  access.wait line = 0
  := if_neg h

/-- Accesses wait for a line at most for each of them that is to the strobe register. -/
theorem waits_le (line : Nat) (accesses : List Access) :
  waits line accesses ≤ accesses.countP isStrobe * line
  := by
  induction accesses with
  | nil => exact Nat.zero_le _
  | cons access rest ih =>
      rw [waits_cons, List.countP_cons, Nat.add_mul, Nat.add_comm]
      apply Nat.add_le_add ih
      by_cases h : access.address = 0x02
      · rw [wait, if_pos h, isStrobe, h]
        simp
      · rw [wait_of_not_strobe line h]
        exact Nat.zero_le _

end Access

namespace Bus

section

variable {s : Settings} {b : Bus}

/-- A read moves the beam by what it waits for. -/
theorem Consistent.beamTime_read (h : b.Consistent) (hs : b.Suits s) (address : UInt16) :
  (b.read address).2.beamTime
    = b.beamTime + Access.wait s.geometry.ticksPerScanline ⟨address, b.beamTime⟩
  := by
  rw [(h.course_read address).beamTime_eq h.onFrame, delay_eq, stall_eq h.onFrame, hs.geometry_eq]
  rfl

/-- So does a write. -/
theorem Consistent.beamTime_write (h : b.Consistent) (hs : b.Suits s) (address : UInt16)
    (value : UInt8) :
  (b.write address value).2.beamTime
    = b.beamTime + Access.wait s.geometry.ticksPerScanline ⟨address, b.beamTime⟩
  := by
  rw [(h.course_write address value).beamTime_eq h.onFrame, delay_eq, stall_eq h.onFrame,
    hs.geometry_eq]
  rfl

theorem beamTime_charge (b : Bus) (cycles : Nat) :
  (b.charge cycles).beamTime = b.beamTime + cycles * b.ticksPerCycle
  := (Nat.add_assoc _ _ _).symm

theorem Consistent.beamTime_flush (h : b.Consistent) :
  b.flush.beamTime = b.beamTime
  := b.course_flush.beamTime_eq h.onFrame

/-- A read of the register window finds zero. -/
theorem eq_zero_of_read [Arithmetic] {address : UInt16} {byte : UInt8}
    (h : (b.read address).1 = .ok byte)
    (hwindow : address < windowSize) :
  byte = 0
  := by
  simp only [Bus.read, if_pos hwindow, RegisterFile.read, Except.ok.injEq] at h
  exact h.symm

theorem read_ne_mismatch (b : Bus) (address : UInt16) :
  (b.read address).1 ≠ .error .operandMismatch
  := by
  simp only [Bus.read, Memory.read]
  split_ifs
  · rintro ⟨⟩
  · split
    · rintro ⟨⟩
    · rintro ⟨⟩

theorem write_ne_mismatch (b : Bus) (address : UInt16) (value : UInt8) :
  (b.write address value).1 ≠ .error .operandMismatch
  := by
  simp only [Bus.write, Memory.writeFault?]
  split_ifs
  · rintro ⟨⟩
  · rintro ⟨⟩
  · rintro ⟨⟩
  · rintro ⟨⟩

end

end Bus

namespace Activity

variable {α : Type}

/-- The accesses of an activity on a bus, with the last one if that is refused. -/
def accesses [Arithmetic] (activity : Activity α) (bus : Bus) : List Access :=
  match activity with
  | done _ _ | fail _ _ => []
  | read _ address next =>
    ⟨address, bus.beamTime⟩ ::
      match bus.read address with
      | (.ok byte, bus) => (next byte).accesses bus
      | (.error _, _) => []
  | write _ address value next =>
    ⟨address, bus.beamTime⟩ ::
      match bus.write address value with
      | (.ok (), bus) => next.accesses bus
      | (.error _, _) => []
  | charge cycles next => next.accesses (bus.charge cycles)

section

variable {b : Bus} {address : UInt16} {value : UInt8} {fault : Fault} {core : Core}

theorem accesses_read_ok {byte : UInt8} {next : UInt8 → Activity α}
    (h : (b.read address).1 = .ok byte) :
  (read core address next).accesses b
    = ⟨address, b.beamTime⟩ :: (next byte).accesses (b.read address).2
  := by
  rw [accesses]
  generalize b.read address = outcome at h ⊢
  obtain ⟨_, _⟩ := outcome
  obtain rfl := h
  rfl

theorem accesses_read_error {next : UInt8 → Activity α}
    (h : (b.read address).1 = .error fault) :
  (read core address next).accesses b = [⟨address, b.beamTime⟩]
  := by
  rw [accesses]
  generalize b.read address = outcome at h ⊢
  obtain ⟨_, _⟩ := outcome
  obtain rfl := h
  rfl

theorem accesses_write_ok {next : Activity α} (h : (b.write address value).1 = .ok ()) :
  (write core address value next).accesses b
    = ⟨address, b.beamTime⟩ :: next.accesses (b.write address value).2
  := by
  rw [accesses]
  generalize b.write address value = outcome at h ⊢
  obtain ⟨_, _⟩ := outcome
  obtain rfl := h
  rfl

theorem accesses_write_error {next : Activity α} (h : (b.write address value).1 = .error fault) :
  (write core address value next).accesses b = [⟨address, b.beamTime⟩]
  := by
  rw [accesses]
  generalize b.write address value = outcome at h ⊢
  obtain ⟨_, _⟩ := outcome
  obtain rfl := h
  rfl

end

/-- What an activity that may charge `cycles` cycles and wait `waits` times has spent when it
stops: `outcome` is where it stops, which began after `spent` cycles on the bus `b`. -/
structure Spent [Arithmetic] (s : Settings) (b : Bus) (spent cycles waits : Nat)
    (outcome : Except Fault α × Core × Bus) (accesses : List Access) : Prop where
  legal : outcome.1 ≠ .error .operandMismatch
  le_cycles : spent ≤ outcome.2.1.cycles
  cycles_le : outcome.2.1.cycles ≤ spent + cycles
  strobes_le : accesses.countP Access.isStrobe ≤ waits
  /-- The beam goes on by the charged cycles and by what the accesses wait for. -/
  beamTime_eq : outcome.2.2.beamTime + spent * s.ticksPerCycle
    = b.beamTime + outcome.2.1.cycles * s.ticksPerCycle
      + Access.waits s.geometry.ticksPerScanline accesses

section

variable {s : Settings} {b b' : Bus} {spent cycles waits : Nat}
  {outcome : Except Fault α × Core × Bus} {accesses : List Access}

/-- Where an activity stops, nothing more is spent. -/
theorem spent_stop {result : Except Fault α} {core : Core}
    (hresult : result ≠ .error .operandMismatch) (hcore : core.cycles = spent) (b : Bus)
    (cycles waits : Nat) :
  Spent s b spent cycles waits (result, core, b) []
  := by
  subst hcore
  exact ⟨hresult, le_rfl, Nat.le_add_right _ _, Nat.zero_le _, rfl⟩

/-- An access goes before what is spent behind it. -/
theorem Spent.access {address : UInt16} (h : Spent s b' spent cycles (waits - stalls address)
      outcome accesses)
    (hstall : stalls address ≤ waits)
    (htime : b'.beamTime
      = b.beamTime + Access.wait s.geometry.ticksPerScanline ⟨address, b.beamTime⟩) :
  Spent s b spent cycles waits outcome (⟨address, b.beamTime⟩ :: accesses)
  := by
  obtain ⟨hlegal, hle, hcycles, hstrobes, hbeam⟩ := h
  refine ⟨hlegal, hle, hcycles, ?_, ?_⟩
  · have hfirst : (if (Access.mk address b.beamTime).isStrobe = true then 1 else 0)
        = stalls address := by
      simp only [Access.isStrobe, beq_iff_eq, stalls]
    rw [List.countP_cons, hfirst]
    omega
  · rw [Access.waits_cons, hbeam, htime]
    omega

/-- What is charged goes before what is spent behind it. -/
theorem Spent.charge {more : Nat} (hs : b.Suits s)
    (h : Spent s (b.charge more) (spent + more) (cycles - more) waits outcome accesses)
    (hmore : more ≤ cycles) :
  Spent s b spent cycles waits outcome accesses
  := by
  obtain ⟨hlegal, hle, hcycles, hstrobes, hbeam⟩ := h
  refine ⟨hlegal, by omega, by omega, hstrobes, ?_⟩
  rw [Bus.beamTime_charge, hs.ticksPerCycle_eq, Nat.add_mul] at hbeam
  omega

/-- An activity that stays within an allowance spends no more on a bus, and the beam goes on by
what it spends. -/
theorem Within.spends {a : Activity α} {post : α → Core → Prop}
    (h : a.Within spent cycles waits post) (hb : b.Consistent) (hs : b.Suits s) :
  Spent s b spent cycles waits (a.onBus b) (a.accesses b)
  := by
  induction a generalizing b spent cycles waits with
  | done value core =>
      have hresult : (Except.ok value : Except Fault α) ≠ .error .operandMismatch := nofun
      exact spent_stop hresult h.1 b cycles waits
  | fail fault core =>
      apply spent_stop _ h.1 b cycles waits
      rintro ⟨⟩
      exact h.2 rfl
  | read core address next ih =>
      obtain ⟨hcore, hstall, hnext⟩ := h
      cases hread : (b.read address).1 with
      | ok byte =>
          rw [onBus_read_ok hread, accesses_read_ok hread]
          apply Spent.access _ hstall (hb.beamTime_read hs address)
          apply ih byte (hnext byte (Bus.eq_zero_of_read hread)) (hb.read address) (hs.read address)
      | error fault =>
          rw [onBus_read_error hread, accesses_read_error hread]
          apply Spent.access _ hstall (hb.beamTime_read hs address)
          apply spent_stop _ hcore
          rintro ⟨⟩
          exact b.read_ne_mismatch address hread
  | write core address value next ih =>
      obtain ⟨hcore, hstall, hnext⟩ := h
      cases hwrite : (b.write address value).1 with
      | ok _ =>
          rw [onBus_write_ok hwrite, accesses_write_ok hwrite]
          apply Spent.access _ hstall (hb.beamTime_write hs address value)
          apply ih hnext (hb.write address value) (hs.write address value)
      | error fault =>
          rw [onBus_write_error hwrite, accesses_write_error hwrite]
          apply Spent.access _ hstall (hb.beamTime_write hs address value)
          apply spent_stop _ hcore
          rintro ⟨⟩
          exact b.write_ne_mismatch address value hwrite
  | charge more next ih =>
      obtain ⟨hmore, hnext⟩ := h
      apply Spent.charge hs _ hmore
      exact ih hnext (hb.charge more) (hs.charge more)

end

end Activity

namespace Processor

/-- The accesses of the next instruction. -/
def accesses [Arithmetic] (p : Processor) : List Access :=
  (Exec.instruction p.layout.irqVector p.core).accesses p.bus

section

variable {s : Settings} {p : Processor} {waited : Nat}

/-- What an instruction spends. -/
theorem Sound.spent_step (hp : p.Sound s) :
  Activity.Spent s p.bus p.core.cycles 7 2 (p.step.1, p.step.2.core, p.step.2.bus) p.accesses
  := (Exec.within_instruction p.layout.irqVector p.core).spends hp.consistent hp.suits

/-- The beam is where the cycles of the processor and its waits for the ends of lines have
brought it. -/
def Balanced [Arithmetic] (s : Settings) (waited : Nat) (p : Processor) : Prop :=
  p.bus.beamTime = p.core.cycles * s.ticksPerCycle + waited

theorem Balanced.grant (h : p.Balanced s waited) (budget : Budget) :
  (p.grant budget).Balanced s waited
  := h

theorem Balanced.flush (h : p.Balanced s waited) (hp : p.Sound s) :
  p.flush.Balanced s waited
  := hp.consistent.beamTime_flush.trans h

/-- After an instruction the accesses of the instruction are waited for as well. -/
theorem Balanced.step (h : p.Balanced s waited) (hp : p.Sound s) :
  p.step.2.Balanced s (waited + Access.waits s.geometry.ticksPerScanline p.accesses)
  := by
  have hbeam := hp.spent_step.beamTime_eq
  dsimp only at hbeam
  rw [Balanced] at h ⊢
  rw [h] at hbeam
  omega

/-- After a run the accesses of all its instructions are waited for as well. -/
theorem Balanced.runWithin (h : p.Balanced s waited) (hp : p.Sound s) (limit : Nat) :
  (p.runWithin limit).2.Balanced s
    (waited + Access.waits s.geometry.ticksPerScanline ((p.starts limit).flatMap accesses))
  := by
  induction limit generalizing p waited with
  | zero =>
      unfold Processor.runWithin starts
      dsimp only
      split_ifs
      · exact h.flush hp
      · exact h.flush hp
  | succ limit ih =>
      have hstep := (h.flush hp).step hp.flush
      have hsound := hp.flush.step
      unfold Processor.runWithin starts
      dsimp only
      split_ifs
      · exact h.flush hp
      · rcases houtcome : p.flush.step with ⟨fault | _, q⟩
        · rw [houtcome] at hstep
          simpa using hstep
        · rw [houtcome] at hstep hsound
          have hrest := ih hstep hsound
          rwa [List.flatMap_cons, Access.waits_append, ← Nat.add_assoc]

end

end Processor

end RasterConsole
