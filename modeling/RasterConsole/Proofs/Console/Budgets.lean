import RasterConsole.Proofs.Console.Reachable

/-!
# Cutting a number of ticks

A console may be run by one call for a number of ticks, or by several calls for parts of
it, one after the other.  `runSlices_sameOutcome` says that it makes no difference where
the calls are cut, be it inside an instruction or while it waits for the end of a line.
-/

namespace RasterConsole

attribute [local instance] Arithmetic.exact

namespace Console

/-- The console run for one number of ticks after the other, with the result of each
call. -/
def runSlices [Arithmetic] (c : Console) : List Nat → List (Except Fault Unit) × Console
  | [] => ([], c)
  | ticks :: rest =>
    let (result, c) := c.runTicks ticks
    let (results, c) := c.runSlices rest
    (result :: results, c)

/-- A row of calls comes to the same as one call.  If the one call succeeds, then they
all do, and they leave the same console.  If it fails, then they succeed up to one that
fails in the same way and are refused from there on, and both consoles are faulted and
have the same registers and the same memory. -/
structure SameOutcome (whole : Except Fault Unit × Console)
    (slices : List (Except Fault Unit) × Console) : Prop where
  of_ok : whole.1 = .ok () → (∀ result ∈ slices.1, result = .ok ()) ∧ slices.2 = whole.2
  of_error : ∀ fault, whole.1 = .error fault →
    (∃ done refused, slices.1 =
      List.replicate done (.ok ()) ++ .error fault :: List.replicate refused (.error .faulted))
    ∧ whole.2.faulted = true ∧ slices.2.faulted = true
    ∧ slices.2.processor.core = whole.2.processor.core
    ∧ slices.2.processor.bus.memory = whole.2.processor.bus.memory

section

variable {s : Settings} {c : Console}

/-- A faulted console refuses every call. -/
theorem runSlices_faulted (hf : c.faulted = true) (ns : List Nat) :
  c.runSlices ns = (List.replicate ns.length (.error .faulted), c)
  := by
  induction ns with
  | nil => rfl
  | cons n ns ih =>
      have hrefused : c.runTicks n = (.error .faulted, c) := if_pos hf
      simp only [runSlices, hrefused, ih]
      rfl

/-- A call that succeeds may go before a row of calls. -/
theorem SameOutcome.cons {whole : Except Fault Unit × Console}
    {slices : List (Except Fault Unit) × Console} (h : SameOutcome whole slices) :
  SameOutcome whole (.ok () :: slices.1, slices.2)
  := by
  constructor
  · intro hok
    obtain ⟨hresults, hfinal⟩ := h.of_ok hok
    refine ⟨?_, hfinal⟩
    intro result hmem
    rcases List.mem_cons.mp hmem with rfl | hmem
    · rfl
    · apply hresults result hmem
  · intro fault hfault
    obtain ⟨⟨done, refused, hresults⟩, hrest⟩ := h.of_error fault hfault
    refine ⟨⟨done + 1, refused, ?_⟩, hrest⟩
    rw [hresults, List.replicate_succ, List.cons_append]

/-- A call that fails goes before calls that are all refused. -/
theorem sameOutcome_of_failed {fault : Fault} {stop q : Processor}
    (hcore : stop.core = q.core) (hmemory : stop.bus.memory = q.bus.memory) (refused : Nat) :
  SameOutcome (guard s (.error fault, q))
    (.error fault :: List.replicate refused (.error .faulted), (guard s (.error fault, stop)).2)
  := by
  constructor
  · intro hok
    cases hok
  · intro _ hfault
    cases hfault
    exact ⟨⟨0, refused, rfl⟩, rfl, rfl, hcore, hmemory⟩

theorem sameOutcome_single (result : Except Fault Unit) (q : Processor) :
  SameOutcome (guard s (result, q)) ([(guard s (result, q)).1], (guard s (result, q)).2)
  := by
  constructor
  · intro hok
    exact ⟨fun _ hmem => (List.mem_singleton.mp hmem).trans hok, rfl⟩
  · intro fault hfault
    cases result with
    | ok _ => cases hfault
    | error _ =>
        cases hfault
        exact ⟨⟨0, 0, rfl⟩, rfl, rfl, rfl, rfl⟩

/-- Running a sound console slice by slice comes to the same as running it for all the
ticks at once. -/
theorem Sound.runSlices (hc : c.Sound s) (hf : c.faulted = false) (n : Nat) (ns : List Nat) :
  SameOutcome (c.runTicks (n :: ns).sum) (c.runSlices (n :: ns))
  := by
  induction ns generalizing c n with
  | nil =>
      obtain ⟨result, q, -, hruns⟩ := hc.exists_runs n
      rw [List.sum_singleton, Console.runSlices, hc.runTicks_of_runs hf hruns]
      apply sameOutcome_single
  | cons m ns ih =>
      obtain ⟨result, q, -, hruns⟩ := hc.exists_runs (n + (m :: ns).sum)
      rw [List.sum_cons, hc.runTicks_of_runs hf hruns]
      rcases hruns.cut hc.processor with
        ⟨mid, hfirst, hrest⟩ | ⟨fault, stop, rfl, hstop, hcore, hmemory⟩
      · have hmid : Sound s (guard s (.ok (), mid)).2 :=
          sound_guard hc.valid (hfirst.sound (hc.processor.grant _))
        have hslices := ih hmid rfl m
        rw [hmid.runTicks_of_runs rfl hrest] at hslices
        rw [Console.runSlices, hc.runTicks_of_runs hf hfirst]
        apply hslices.cons
      · rw [Console.runSlices, hc.runTicks_of_runs hf hstop]
        dsimp only [guard]
        rw [runSlices_faulted rfl]
        apply sameOutcome_of_failed hcore hmemory _

/-- It makes no difference where a run is cut: on every console that can come up and is
not faulted, with whatever it still owes and whatever waits on it, calls for parts of a
number of ticks come to the same as one call for all of them. -/
theorem runSlices_sameOutcome (hc : Reachable s c) (hf : c.faulted = false) (n : Nat)
    (ns : List Nat) :
  SameOutcome (c.runTicks (n :: ns).sum) (c.runSlices (n :: ns))
  := hc.sound.runSlices hf n ns

/-- The small console may be cut between the cycles of its store and the write. -/
theorem runSlices_sameOutcome_small :
  Reachable .small small ∧ small.faulted = false
    ∧ (small.runTicks [10, 3, 0, 12].sum).1 = .ok ()
    ∧ SameOutcome (small.runTicks [10, 3, 0, 12].sum) (small.runSlices [10, 3, 0, 12])
  := by
  have hf : small.faulted = false := by decide +kernel
  refine ⟨small_reachable, hf, by decide +kernel, ?_⟩
  apply runSlices_sameOutcome small_reachable hf 10 [3, 0, 12]

end

end Console

end RasterConsole
