import RasterConsole.Processor
import RasterConsole.Proofs.Bus.Overdue
import RasterConsole.Proofs.Processor.Requests

/-!
# Instructions on old debts

`Activity.lead` is the number of cycles that an activity charges before it first turns to
the register window.  An activity that starts while an old debt is open charges them
behind it, and so lets the waiting writes come late by as many cycles (`Activity.onBus_overdue`).
It still has the same result, and leaves the same registers and the same memory, as one
that starts when the old debt is paid.
-/

namespace RasterConsole

attribute [local instance] Arithmetic.exact

namespace Activity

variable {α : Type}

/-- The cycles that an activity charges, on a given memory, before it first turns to the
register window. -/
def lead (memory : Memory) : Activity α → Nat
  | done _ _ => 0
  | fail _ _ => 0
  | read _ address next =>
    if address < windowSize then 0
    else
      match memory.read address.toNat with
      | .ok byte => (next byte).lead memory
      | .error _ => 0
  | write _ address value next =>
    if address < windowSize then 0
    else
      match memory.writeFault? address.toNat with
      | some _ => 0
      | none => next.lead (memory.store address.toNat value)
  | charge cycles next => cycles + next.lead memory

/-- An activity does the same on twins. -/
theorem onBus_twins {a : Activity α} (ha : a.WritesLast) {punctual late : Raster} {b b' : Bus}
    (hr : punctual.Alike late) (h : Bus.Twins punctual late b b') :
  (a.onBus b').1 = (a.onBus b).1 ∧ (a.onBus b').2.1 = (a.onBus b).2.1
    ∧ Bus.Twinned punctual late (a.onBus b).2.2 (a.onBus b').2.2
  := by
  induction a generalizing b b' with
  | done _ _ => exact ⟨rfl, rfl, h.twinned⟩
  | fail _ _ => exact ⟨rfl, rfl, h.twinned⟩
  | read core address next ih =>
      obtain ⟨hresult, htwins⟩ := h.read hr address
      cases hread : (b.read address).1 with
      | ok byte =>
          rw [onBus_read_ok hread, onBus_read_ok (hresult.trans hread)]
          apply ih byte (ha byte) htwins
      | error fault =>
          rw [onBus_read_error hread, onBus_read_error (hresult.trans hread)]
          exact ⟨rfl, rfl, htwins.twinned⟩
  | write core address value next ih =>
      obtain ⟨hresult, htwinned⟩ := h.write hr address value
      cases hwrite : (b.write address value).1 with
      | ok _ =>
          rw [onBus_write_ok hwrite, onBus_write_ok (hresult.trans hwrite)]
          obtain hsilent | ⟨haddress, hrest⟩ := ha
          · obtain ⟨hvalue, hcore, hbus⟩ :=
              hsilent.onBus_eq (b'.write address value).2 (b.write address value).2
            obtain ⟨-, -, hbus'⟩ :=
              hsilent.onBus_eq (b.write address value).2 (b'.write address value).2
            rw [hbus, hbus']
            exact ⟨hvalue, hcore, htwinned⟩
          · apply ih hrest (h.write_memory haddress value).2
      | error fault =>
          rw [onBus_write_error hwrite, onBus_write_error (hresult.trans hwrite)]
          exact ⟨rfl, rfl, htwinned⟩
  | charge cycles next ih => exact ih ha (h.charge cycles)

/-- An activity that begins with an access to the register window begins with a flush. -/
theorem onBus_read_flush (b : Bus) {address : UInt16} (ha : address < windowSize) (core : Core)
    (next : UInt8 → Activity α) :
  (read core address next).onBus b.flush = (read core address next).onBus b
  := by
  rw [onBus, onBus, b.read_flush ha]

theorem onBus_write_flush (b : Bus) {address : UInt16} (ha : address < windowSize) (core : Core)
    (value : UInt8) (next : Activity α) :
  (write core address value next).onBus b.flush = (write core address value next).onBus b
  := by
  rw [onBus, onBus, b.write_flush ha]

section

variable {r : Raster} {owed : Nat} {waiting : List RegisterWrite}

/-- An activity that starts while an old debt is open makes the waiting writes late, and is
otherwise the same. -/
theorem onBus_overdue {a : Activity α} (ha : a.WritesLast) {b : Bus}
    (hb : b.budget = .unlimited) (hw : b.waiting = [])
    (hr : ∀ ticks, (b.raster.advance ticks).Alike
      (waiting.foldl Raster.write (r.advance (owed + ticks)))) :
  (a.onBus (b.overdue r owed waiting)).1 = (a.onBus b).1
    ∧ (a.onBus (b.overdue r owed waiting)).2.1 = (a.onBus b).2.1
    ∧ Bus.Twinned (b.raster.advance (b.owed + a.lead b.memory * b.ticksPerCycle))
      (waiting.foldl Raster.write
        (r.advance (owed + (b.owed + a.lead b.memory * b.ticksPerCycle))))
      (a.onBus b).2.2 (a.onBus (b.overdue r owed waiting)).2.2
  := by
  induction a generalizing b with
  | done _ _ | fail _ _ =>
      simp only [lead, Nat.zero_mul, Nat.add_zero]
      exact ⟨rfl, rfl, Bus.twinned_overdue hb hw r owed waiting⟩
  | read core address next ih =>
      by_cases haddress : address < windowSize
      · simp only [lead, if_pos haddress, Nat.zero_mul, Nat.add_zero]
        rw [← onBus_read_flush b haddress,
          ← onBus_read_flush (b.overdue r owed waiting) haddress]
        apply onBus_twins ha (hr _) (Bus.twins_flush_overdue hb hw r owed waiting)
      · have hread : ∀ b : Bus, b.read address = (b.memory.read address.toNat, b) :=
          fun _ => if_neg haddress
        simp only [lead, if_neg haddress]
        cases hbyte : b.memory.read address.toNat with
        | ok byte =>
            have hfound : (b.read address).1 = .ok byte := by rw [hread, hbyte]
            have hfound' : ((b.overdue r owed waiting).read address).1 = .ok byte := by
              rw [hread, ← hbyte]
              rfl
            rw [onBus_read_ok hfound, onBus_read_ok hfound', hread, hread]
            apply ih byte (ha byte) hb hw hr
        | error fault =>
            have hfound : (b.read address).1 = .error fault := by rw [hread, hbyte]
            have hfound' : ((b.overdue r owed waiting).read address).1 = .error fault := by
              rw [hread, ← hbyte]
              rfl
            simp only [Nat.zero_mul, Nat.add_zero]
            rw [onBus_read_error hfound, onBus_read_error hfound', hread, hread]
            exact ⟨rfl, rfl, Bus.twinned_overdue hb hw r owed waiting⟩
  | write core address value next ih =>
      by_cases haddress : address < windowSize
      · simp only [lead, if_pos haddress, Nat.zero_mul, Nat.add_zero]
        rw [← onBus_write_flush b haddress,
          ← onBus_write_flush (b.overdue r owed waiting) haddress]
        apply onBus_twins ha (hr _) (Bus.twins_flush_overdue hb hw r owed waiting)
      · simp only [lead, if_neg haddress]
        cases hfault : b.memory.writeFault? address.toNat with
        | none =>
            have hstore : b.write address value
                = (.ok (), { b with memory := b.memory.store address.toNat value }) := by
              simp only [Bus.write, if_neg haddress, hfault]
            have hstore' : (b.overdue r owed waiting).write address value
                = (.ok (), { b with memory := b.memory.store address.toNat value }.overdue r owed
                  waiting) := by
              simp only [Bus.write, Bus.overdue, if_neg haddress, hfault]
            rw [onBus_write_ok (congrArg Prod.fst hstore),
              onBus_write_ok (congrArg Prod.fst hstore'), hstore, hstore']
            have hrest : next.WritesLast := by
              obtain hsilent | ⟨-, hrest⟩ := ha
              · apply hsilent.keepsRegisters.writesLast
              · apply hrest
            exact @ih hrest { b with memory := b.memory.store address.toNat value } hb hw hr
        | some fault =>
            have hrefuse : b.write address value = (.error fault, b) := by
              simp only [Bus.write, if_neg haddress, hfault]
            have hrefuse' : (b.overdue r owed waiting).write address value
                = (.error fault, b.overdue r owed waiting) := by
              simp only [Bus.write, Bus.overdue, if_neg haddress, hfault]
            simp only [Nat.zero_mul, Nat.add_zero]
            rw [onBus_write_error (congrArg Prod.fst hrefuse),
              onBus_write_error (congrArg Prod.fst hrefuse'), hrefuse, hrefuse']
            exact ⟨rfl, rfl, Bus.twinned_overdue hb hw r owed waiting⟩
  | charge cycles next ih =>
      have hcharge : (b.overdue r owed waiting).charge cycles
          = (b.charge cycles).overdue r owed waiting := by
        simp only [Bus.charge, Bus.overdue, Arithmetic.exact_keep, Nat.add_assoc]
      have hsum : b.owed + (cycles + next.lead b.memory) * b.ticksPerCycle
          = (b.charge cycles).owed + next.lead b.memory * b.ticksPerCycle := by
        rw [Nat.add_mul, ← Nat.add_assoc]
        rfl
      simp only [lead, onBus, hcharge, hsum]
      exact @ih ha (b.charge cycles) hb hw hr

end

end Activity

namespace Processor

/-- The processor with another engine. -/
def withRaster (p : Processor) (raster : Raster) : Processor :=
  { p with bus := { p.bus with raster := raster } }

/-- The processor with an old debt on its bus. -/
def overdue (p : Processor) (r : Raster) (owed : Nat) (waiting : List RegisterWrite) :
    Processor :=
  { p with bus := p.bus.overdue r owed waiting }

/-- The ticks that the next instruction takes before it first turns to the register
window. -/
def lead (p : Processor) : Nat :=
  (Exec.instruction p.layout.irqVector p.core).lead p.bus.memory * p.bus.ticksPerCycle

/-- An instruction that starts while an old debt is open makes the waiting writes late, and
is otherwise the same. -/
theorem step_overdue {p : Processor} (howed : p.bus.owed = 0) (hb : p.bus.budget = .unlimited)
    (hw : p.bus.waiting = []) {r : Raster} {owed : Nat} {waiting : List RegisterWrite}
    (hr : ∀ ticks, (p.bus.raster.advance ticks).Alike
      (waiting.foldl Raster.write (r.advance (owed + ticks)))) :
  (p.overdue r owed waiting).step.1 = p.step.1
    ∧ ∃ (own : List RegisterWrite) (ticks : Nat),
      p.step.2.flush.bus.raster = own.foldl Raster.write (p.bus.raster.advance (p.lead + ticks))
      ∧ (p.overdue r owed waiting).step.2.flush
        = p.step.2.flush.withRaster (own.foldl Raster.write
          ((waiting.foldl Raster.write (r.advance (owed + p.lead))).advance ticks))
  := by
  have hlead : p.lead = p.bus.owed
      + (Exec.instruction p.layout.irqVector p.core).lead p.bus.memory * p.bus.ticksPerCycle := by
    rw [howed, Nat.zero_add, lead]
  obtain ⟨hresult, hcore, own, ticks, hpunctual, hlate⟩ :=
    Activity.onBus_overdue (Exec.writesLast_instruction p.layout.irqVector p.core) hb hw hr
  refine ⟨hresult, own, ticks, ?_, ?_⟩
  · rw [hlead, Raster.advance_add]
    apply hpunctual
  · rw [hlead]
    simp only [overdue, step, flush]
    rw [hcore, hlate]
    rfl

end Processor

end RasterConsole
