import RasterConsole.Proofs.Bus.Course
import RasterConsole.Proofs.Processor.Runs

/-!
# The course of a run

Whatever the processor does, it takes its bus along a course: all ticks of the engine are
covered by the budget and taken out of it, and all writes to the engine are made in their
turn.  This holds of every access and every charge, so of an instruction
(`Processor.leadsTo_step`), and so of a run (`Processor.Runs.leadsTo`).  A run that
succeeds uses up its budget (`Processor.Runs.isSpent`).
-/

namespace RasterConsole

attribute [local instance] Arithmetic.exact

namespace Bus

/-- The bus becomes `b'` along some course. -/
def LeadsTo [Arithmetic] (b b' : Bus) : Prop :=
  ∃ extra issued events, b.Course extra issued events b'

section

variable {b b' b'' : Bus}

theorem LeadsTo.refl (b : Bus) :
  b.LeadsTo b
  := ⟨_, _, _, Course.refl b⟩

theorem LeadsTo.trans (h : b.LeadsTo b') (h' : b'.LeadsTo b'') :
  b.LeadsTo b''
  := by
  obtain ⟨_, _, _, hcourse⟩ := h
  obtain ⟨_, _, _, hcourse'⟩ := h'
  exact ⟨_, _, _, hcourse.trans hcourse'⟩

theorem leadsTo_flush (b : Bus) :
  b.LeadsTo b.flush
  := ⟨_, _, _, b.course_flush⟩

theorem leadsTo_charge (b : Bus) (cycles : Nat) :
  b.LeadsTo (b.charge cycles)
  := ⟨_, _, _, b.course_owe _⟩

theorem Consistent.leadsTo_read (h : b.Consistent) (address : UInt16) :
  b.LeadsTo (b.read address).2
  := ⟨_, _, _, h.course_read address⟩

theorem Consistent.leadsTo_write (h : b.Consistent) (address : UInt16) (value : UInt8) :
  b.LeadsTo (b.write address value).2
  := ⟨_, _, _, h.course_write address value⟩

end

end Bus

namespace Processor

section

variable {s : Settings} {p q : Processor} {result : Except Fault Unit}

/-- Every access and every charge goes on from where the last one has led. -/
theorem leadsTo_step (h : p.bus.Consistent) :
  p.bus.LeadsTo p.step.2.bus
  := by
  have hend : p.step.2.bus.Consistent ∧ p.bus.LeadsTo p.step.2.bus := by
    apply step_preserves (P := fun b => b.Consistent ∧ p.bus.LeadsTo b)
    · rintro b address ⟨hb, hled⟩
      exact ⟨hb.read address, hled.trans (hb.leadsTo_read address)⟩
    · rintro b address value ⟨hb, hled⟩
      exact ⟨hb.write address value, hled.trans (hb.leadsTo_write address value)⟩
    · rintro b cycles ⟨hb, hled⟩
      exact ⟨hb.charge cycles, hled.trans (b.leadsTo_charge cycles)⟩
    · exact ⟨h, .refl p.bus⟩
  apply hend.2

theorem Runs.leadsTo (h : Runs p result q) (hp : p.Sound s) :
  p.bus.LeadsTo q.bus
  := by
  induction h with
  | spent _ => apply Bus.leadsTo_flush
  | @failed p q fault _ hstep =>
      have hled := leadsTo_step hp.flush.consistent
      rw [hstep] at hled
      exact p.bus.leadsTo_flush.trans hled
  | @more p q r result _ hstep _ ih =>
      have hled := leadsTo_step hp.flush.consistent
      have hq := hp.flush.step
      rw [hstep] at hled hq
      exact (p.bus.leadsTo_flush.trans hled).trans (ih hq)

/-- Nothing but a spent budget lets a run succeed. -/
theorem Runs.isSpent (h : Runs p result q) (hok : result = .ok ()) :
  q.bus.budget.isSpent = true
  := by
  induction h with
  | spent hspent => exact hspent
  | failed _ _ => cases hok
  | more _ _ _ ih => exact ih hok

end

end Processor

end RasterConsole
