import RasterConsole.Proofs.Processor.Runs

/-!
# The instructions of a run

`Processor.starts` lists the processors of a run within a limit at the moments at which they start
an instruction.  All debts are paid then (`settled_of_mem_starts`), and a run does nothing but
start these instructions and flush in between (`runWithin_eq_proceed`).  So what flushing and
instructions preserve holds after a run (`runWithin_preserves`) and wherever it starts an
instruction (`of_mem_starts`), and a run that fails does so in the last one of them
(`exists_failed_start`).
-/

namespace RasterConsole

namespace Processor

/-- The processors of a run within a limit at the moments at which they start an
instruction. -/
def starts [Arithmetic] (p : Processor) (limit : Nat) : List Processor :=
  let p := p.flush
  if p.bus.budget.isSpent then []
  else
    match limit with
    | 0 => []
    | limit + 1 =>
      p :: match p.step with
        | (.ok (), p) => p.starts limit
        | (.error _, _) => []

section

variable [Arithmetic] {p : Processor}

/-- The processor after an instruction of a run: flushed if it goes on to the next one. -/
def proceed (p : Processor) : Processor :=
  match p.step with
  | (.ok (), q) => q.flush
  | (.error _, q) => q

/-- A run does nothing but flush, and run the instructions that it starts: it is left where the
last one of them leads. -/
theorem runWithin_eq_proceed (p : Processor) (limit : Nat) :
  (p.runWithin limit).2 = ((p.starts limit).map proceed).getLastD p.flush
  := by
  induction limit generalizing p with
  | zero =>
      unfold Processor.runWithin starts
      dsimp only
      split_ifs
      · rfl
      · rfl
  | succ limit ih =>
      unfold Processor.runWithin starts
      dsimp only
      split_ifs
      · rfl
      · rw [List.map_cons, List.getLastD_cons, proceed]
        rcases p.flush.step with ⟨fault | _, q⟩
        · rfl
        · exact ih q

/-- A run that fails does so in the last one of the instructions that it starts. -/
theorem exists_failed_start {limit : Nat} {fault : Fault}
    (h : (p.runWithin limit).1 = some (.error fault)) :
  ∃ q, (p.starts limit).getLast? = some q ∧ q.step = (.error fault, (p.runWithin limit).2)
  := by
  induction limit generalizing p with
  | zero =>
      unfold Processor.runWithin at h
      dsimp only at h
      split_ifs at h
      cases h
  | succ limit ih =>
      unfold Processor.runWithin at h ⊢
      unfold starts
      dsimp only at h ⊢
      split_ifs at h ⊢
      · cases h
      · rcases houtcome : p.flush.step with ⟨fault' | _, q⟩
        · rw [houtcome] at h
          cases h
          exact ⟨p.flush, rfl, houtcome⟩
        · rw [houtcome] at h
          obtain ⟨last, hlast, hstep⟩ := ih h
          use last
          rw [List.getLast?_cons, hlast]
          exact ⟨rfl, hstep⟩

/-- Wherever a run starts an instruction, it has just flushed a processor of which everything
holds that the instructions of the run preserve, and there is budget left. -/
theorem exists_flush_of_mem_starts {P : Processor → Prop} (hstep : ∀ p, P p → P p.flush.step.2)
    {limit : Nat} {q : Processor} (h : P p) (hq : q ∈ p.starts limit) :
  ∃ r, P r ∧ r.flush = q ∧ r.flush.bus.budget.isSpent = false
  := by
  induction limit generalizing p with
  | zero =>
      unfold starts at hq
      dsimp only at hq
      split_ifs at hq
      · cases hq
      · cases hq
  | succ limit ih =>
      unfold starts at hq
      dsimp only at hq
      split_ifs at hq with hspent
      · cases hq
      · rw [Bool.not_eq_true] at hspent
        rcases List.mem_cons.mp hq with rfl | hrest
        · exact ⟨p, h, rfl, hspent⟩
        · have hnext := hstep p h
          rcases houtcome : p.flush.step with ⟨fault | _, next⟩
          · rw [houtcome] at hrest
            cases hrest
          · rw [houtcome] at hrest hnext
            exact ih hnext hrest

/-- A run starts no instruction before all debts are paid. -/
theorem settled_of_mem_starts {limit : Nat} {q : Processor} (h : q ∈ p.starts limit) :
  q.bus.owed = 0 ∧ q.bus.waiting = [] ∧ q.bus.budget.isSpent = false
  := by
  obtain ⟨r, -, rfl, hspent⟩ :=
    exists_flush_of_mem_starts (P := fun _ => True) (fun _ _ => trivial) trivial h
  have howed : r.flush.bus.owed = 0 := Bus.owed_flush hspent
  exact ⟨howed, Bus.waiting_flush howed, hspent⟩

/-- What flushing and instructions preserve holds wherever a run starts an instruction. -/
theorem of_mem_starts {P : Processor → Prop} (hflush : ∀ p, P p → P p.flush)
    (hstep : ∀ p, P p → P p.step.2) {limit : Nat} {q : Processor} (h : P p)
    (hq : q ∈ p.starts limit) :
  P q
  := by
  obtain ⟨r, hr, rfl, -⟩ :=
    exists_flush_of_mem_starts (fun r hr => hstep r.flush (hflush r hr)) h hq
  apply hflush r hr

/-- If only the instructions that a run starts are known to preserve something, that is enough for
it to hold after the run. -/
theorem runWithin_preserves_of_starts {P : Processor → Prop}
    (hflush : ∀ p, P p → P p.flush)
    {limit : Nat} (hstep : ∀ q ∈ p.starts limit, P q → P q.step.2) (h : P p) :
  P (p.runWithin limit).2
  := by
  induction limit generalizing p with
  | zero =>
      unfold Processor.runWithin
      dsimp only
      split_ifs
      · exact hflush p h
      · exact hflush p h
  | succ limit ih =>
      unfold starts at hstep
      unfold Processor.runWithin
      dsimp only at hstep ⊢
      split_ifs at hstep ⊢
      · exact hflush p h
      · have hfirst := hstep p.flush List.mem_cons_self (hflush p h)
        rcases houtcome : p.flush.step with ⟨fault | _, q⟩
        · rw [houtcome] at hfirst
          exact hfirst
        · rw [houtcome] at hstep hfirst
          exact ih (fun q hq => hstep q (List.mem_cons_of_mem _ hq)) hfirst

/-- What flushing and instructions preserve holds after a run. -/
theorem runWithin_preserves {P : Processor → Prop}
    (hflush : ∀ p, P p → P p.flush) (hstep : ∀ p, P p → P p.step.2) (h : P p) (limit : Nat) :
  P (p.runWithin limit).2
  := runWithin_preserves_of_starts hflush (fun q _ => hstep q) h

end

end Processor

end RasterConsole
