import RasterConsole.Proofs.Console.Booting
import RasterConsole.Proofs.Console.Framing

/-!
# Faults

A console that has failed is faulted.  It refuses to run and to present until it is reset or
boots a program, and a reset always succeeds.  A console that is not faulted hands its
picture to the display as it is, and the picture has the size that the display expects, so
the display alone decides what becomes of it.  All this holds in every arithmetic.

`Console.perform` is one operation of a console in front of a display.  Whatever has been
performed before, the next operation keeps to this protocol (`faultProtocol_performAll`).
-/

namespace RasterConsole

open Arithmetic (keep)

namespace Console

/-! ### The operations of a console -/

/-- What can be asked of a console. -/
inductive Operation where
  | boot (program : List UInt8)
  | reset
  | step
  | runTicks (ticks : Nat)
  | runFrame
  | present
  deriving DecidableEq

/-- The operation boots a program. -/
def Operation.Boots : Operation → Prop
  | boot _ => True
  | reset | step | runTicks _ | runFrame | present => False

/-- The operation runs the program. -/
def Operation.Runs : Operation → Prop
  | step | runTicks _ | runFrame => True
  | boot _ | reset | present => False

/-- The result of an operation that has failed. -/
def Failed (result : Except Fault Unit) : Prop := ∃ fault, result = .error fault

section

variable {σ : Type} (sink : Sink σ)

/-- The result of an operation of a console in front of a display, with the console and the
display that it leaves. -/
def perform [Arithmetic] (c : Console) (display : σ) : Operation → Except Fault Unit × Console × σ
  | .boot program => let (result, c) := c.boot program; (result, c, display)
  | .reset => let (result, c) := c.reset; (result, c, display)
  | .step => let (result, c) := c.step; (result, c, display)
  | .runTicks ticks => let (result, c) := c.runTicks ticks; (result, c, display)
  | .runFrame => let (result, c) := c.runFrame; (result, c, display)
  | .present => let (result, display) := c.present sink display; (result, c, display)

/-- The console and the display after operations in a row, whether or not they fail. -/
def performAll [Arithmetic] (c : Console) (display : σ) : List Operation → Console × σ
  | [] => (c, display)
  | operation :: rest =>
    let (_, c, display) := c.perform sink display operation
    c.performAll display rest

end

/-- The picture of a console in the size that its settings ask for. -/
def shown (s : Settings) (c : Console) : Frame :=
  ⟨c.picture.bytes, s.geometry.visibleWidth, s.geometry.visibleHeight⟩

/-- How a console takes the next operation. -/
structure FaultProtocol [Arithmetic] {σ : Type} (sink : Sink σ) (s : Settings) (c : Console)
    (display : σ) (operation : Operation) : Prop where
  /-- A faulted console does nothing but boot and reset. -/
  refused : c.faulted = true → operation.Runs ∨ operation = .present →
    c.perform sink display operation = (.error .faulted, c, display)
  /-- A console becomes faulted when it fails to boot or to run. -/
  faults : c.faulted = false →
    ((c.perform sink display operation).2.1.faulted = true
      ↔ (operation.Boots ∨ operation.Runs) ∧ Failed (c.perform sink display operation).1)
  /-- A faulted console recovers when it is reset, or boots and does not fail. -/
  recovers : c.faulted = true →
    ((c.perform sink display operation).2.1.faulted = false
      ↔ operation = .reset ∨ operation.Boots ∧ (c.perform sink display operation).1 = .ok ())
  /-- A reset does not fail. -/
  resets : operation = .reset → (c.perform sink display operation).1 = .ok ()
  /-- A console that is not faulted gives the display its picture, and stays as it is. -/
  presents : c.faulted = false → operation = .present →
    c.picture.bytes.length = keep (s.geometry.visibleWidth * s.geometry.visibleHeight * 4)
      ∧ c.perform sink display operation
        = ((sink.take display (shown s c)).1, c, (sink.take display (shown s c)).2)

section

variable {s : Settings} {c : Console}

theorem failed_error (fault : Fault) :
  Failed (.error fault)
  := ⟨fault, rfl⟩

theorem not_failed_ok :
  ¬ Failed (.ok ())
  := by
  rintro ⟨_, h⟩
  cases h

/-- Every operation but a reset and a presentation boots or runs. -/
theorem Operation.boots_or_runs {operation : Operation} (hreset : operation ≠ .reset)
    (hpresent : operation ≠ .present) :
  operation.Boots ∨ operation.Runs
  := by
  cases operation with
  | boot _ => exact .inl trivial
  | step | runTicks _ | runFrame => exact .inr trivial
  | reset => exact absurd rfl hreset
  | present => exact absurd rfl hpresent

theorem eq_ok_iff_not_failed {result : Except Fault Unit} :
  result = .ok () ↔ ¬ Failed result
  := by
  cases result with
  | ok _ => exact ⟨fun _ => not_failed_ok, fun _ => rfl⟩
  | error fault => exact iff_of_false nofun (not_not_intro (failed_error fault))

/-! ### Faults of the operations -/

/-- After an operation of its processor a console is faulted exactly when that has failed. -/
theorem faulted_guard (s : Settings) (outcome : Except Fault Unit × Processor) :
  (guard s outcome).2.faulted = true ↔ Failed (guard s outcome).1
  := by
  obtain ⟨_ | fault, _⟩ := outcome
  · exact ⟨fun _ => failed_error _, fun _ => rfl⟩
  · exact ⟨fun h => (Bool.false_ne_true h).elim, fun h => absurd h not_failed_ok⟩

variable [Arithmetic]

theorem faulted_boot (c : Console) (program : List UInt8) :
  (c.boot program).2.faulted = true ↔ Failed (c.boot program).1
  := by
  unfold Console.boot
  dsimp only
  split
  · apply faulted_guard
  · exact ⟨fun _ => failed_error _, fun _ => rfl⟩

theorem faulted_reset (c : Console) :
  c.reset.2.faulted = true ↔ Failed c.reset.1
  := faulted_guard _ _

theorem faulted_step (c : Console) :
  c.step.2.faulted = true ↔ Failed c.step.1
  := by
  cases hf : c.faulted with
  | true =>
      rw [Console.step, if_pos hf]
      exact ⟨fun _ => failed_error _, fun _ => hf⟩
  | false =>
      rw [step_of_running hf]
      apply faulted_guard

theorem faulted_runTicks (c : Console) (ticks : Nat) :
  (c.runTicks ticks).2.faulted = true ↔ Failed (c.runTicks ticks).1
  := by
  unfold Console.runTicks
  split_ifs with hf
  · exact ⟨fun _ => failed_error _, fun _ => hf⟩
  · apply faulted_guard

theorem faulted_runFrame (c : Console) :
  c.runFrame.2.faulted = true ↔ Failed c.runFrame.1
  := by
  obtain ⟨hresult, hfaulted⟩ := c.runFrame_eq_runTicks
  rw [hresult, hfaulted]
  apply faulted_runTicks

/-- A faulted console refuses to run, and nothing changes. -/
theorem refused_of_faulted (hf : c.faulted = true) :
  c.step = (.error .faulted, c) ∧ (∀ ticks, c.runTicks ticks = (.error .faulted, c))
    ∧ c.runFrame = (.error .faulted, c)
  := by
  have hrun : ∀ ticks, c.runTicks ticks = (.error .faulted, c) := fun _ => if_pos hf
  refine ⟨if_pos hf, hrun, ?_⟩
  rw [runFrame, hrun]

/-- A reset succeeds on every console that fits its settings. -/
theorem Fits.reset_ok (hc : c.Fits s) (hs : s.validate = .ok ()) :
  c.reset.1 = .ok ()
  := by
  have hrestart : ({ c.processor with bus := c.processor.bus.restart } : Processor).Fits s :=
    ⟨hc.processor.layout_eq, hc.processor.capacity_eq⟩
  obtain ⟨entry, -, hreset⟩ := hrestart.reset_eq hs
  rw [Console.reset, guard_fst, hreset]

/-- A console that is not faulted hands its picture to the display. -/
theorem Framed.present_eq {σ : Type} (h : c.Framed s) (hf : c.faulted = false) (sink : Sink σ)
    (display : σ) :
  c.present sink display = sink.take display (shown s c)
  := by
  have hframe : c.frame = shown s c := by
    rw [shown, ← h.settings_eq]
    rfl
  rw [present, if_neg (ne_true_of_eq_false hf), hframe]
  exact if_pos h.length_bytes

/-! ### The protocol -/

section

variable {σ : Type} (sink : Sink σ) (display : σ)

/-- An operation that acts on the console leaves it faulted exactly when it fails. -/
theorem faulted_perform (operation : Operation) (h : operation ≠ .present) :
  (c.perform sink display operation).2.1.faulted = true
    ↔ Failed (c.perform sink display operation).1
  := by
  cases operation with
  | boot program => apply faulted_boot
  | reset => apply faulted_reset
  | step => apply faulted_step
  | runTicks ticks => apply faulted_runTicks
  | runFrame => apply faulted_runFrame
  | present => exact absurd rfl h

theorem Reachable.perform (hc : Reachable s c) (operation : Operation) :
  Reachable s (c.perform sink display operation).2.1
  := by
  cases operation with
  | boot program => exact hc.boot program
  | reset => exact hc.reset
  | step => exact hc.step
  | runTicks ticks => exact hc.runTicks ticks
  | runFrame => exact hc.runFrame
  | present => exact hc

theorem refused_perform (hf : c.faulted = true) {operation : Operation}
    (h : operation.Runs ∨ operation = .present) :
  c.perform sink display operation = (.error .faulted, c, display)
  := by
  obtain ⟨hstep, hticks, hframe⟩ := refused_of_faulted hf
  cases operation with
  | boot _ | reset => rcases h with hruns | hpresent <;> trivial
  | step => rw [perform, hstep]
  | runTicks ticks => rw [perform, hticks]
  | runFrame => rw [perform, hframe]
  | present => rw [perform, present, if_pos hf]

/-- A console that is not faulted becomes so by failing, which a reset never does and a
presentation does without consequences. -/
theorem Fits.becomes_faulted_iff (hc : c.Fits s) (hs : s.validate = .ok ())
    (hf : c.faulted = false) (operation : Operation) :
  (c.perform sink display operation).2.1.faulted = true
    ↔ (operation.Boots ∨ operation.Runs) ∧ Failed (c.perform sink display operation).1
  := by
  by_cases hpresent : operation = .present
  · obtain rfl := hpresent
    exact iff_of_false (ne_true_of_eq_false hf) fun h => h.1.elim id id
  · rw [faulted_perform sink display operation hpresent]
    by_cases hreset : operation = .reset
    · obtain rfl := hreset
      exact iff_of_false (eq_ok_iff_not_failed.mp (hc.reset_ok hs)) fun h => h.1.elim id id
    · exact (and_iff_right (Operation.boots_or_runs hreset hpresent)).symm

/-- A faulted console recovers by a reset, which always succeeds, or by booting. -/
theorem Fits.recovers_iff (hc : c.Fits s) (hs : s.validate = .ok ()) (hf : c.faulted = true)
    (operation : Operation) :
  (c.perform sink display operation).2.1.faulted = false
    ↔ operation = .reset
      ∨ operation.Boots ∧ (c.perform sink display operation).1 = .ok ()
  := by
  cases operation with
  | reset =>
      rw [← Bool.not_eq_true, faulted_perform sink display .reset nofun]
      exact iff_of_true (eq_ok_iff_not_failed.mp (hc.reset_ok hs)) (.inl rfl)
  | boot program =>
      rw [← Bool.not_eq_true, faulted_perform sink display (.boot program) nofun,
        ← eq_ok_iff_not_failed]
      exact ⟨fun h => .inr ⟨trivial, h⟩, fun h => (h.resolve_left nofun).2⟩
  | step | runTicks _ | runFrame | present =>
      rw [refused_perform sink display hf (by simp [Operation.Runs]), hf]
      exact iff_of_false nofun fun h => (h.resolve_left nofun).1

/-- Every operation of a console that has come up keeps to the protocol. -/
theorem Reachable.faultProtocol (hc : Reachable s c) (operation : Operation) :
  FaultProtocol sink s c display operation
  := by
  constructor
  · intro hf hop
    apply refused_perform sink display hf hop
  · intro hf
    apply hc.fits.becomes_faulted_iff sink display hc.valid hf
  · intro hf
    apply hc.fits.recovers_iff sink display hc.valid hf
  · rintro rfl
    apply hc.fits.reset_ok hc.valid
  · rintro hf rfl
    use hc.framed.length_bytes
    rw [Console.perform, hc.framed.present_eq hf]

theorem Reachable.performAll (hc : Reachable s c) (operations : List Operation) :
  Reachable s (c.performAll sink display operations).1
  := by
  induction operations generalizing c display with
  | nil => apply hc
  | cons operation rest ih => exact ih _ (hc.perform sink display operation)

/-- Whatever has been asked of a console since it was built, with whatever results, and
whatever the display has made of the pictures: the next operation keeps to the protocol. -/
theorem faultProtocol_performAll (hc : build s = .ok c) (operations : List Operation)
    (operation : Operation) :
  FaultProtocol sink s (c.performAll sink display operations).1
    (c.performAll sink display operations).2 operation
  := by
  apply Reachable.faultProtocol
  apply (Reachable.build hc).performAll

end

end

/-- A console that presents a picture before the program comes to its fault and asks for
another one after it. -/
def smallUse : List Operation :=
  [.boot [0xA9, 0x44, 0x85, 0x09, 0xEA, 0xEA, 0xEA, 0xEA], .runTicks 20, .present, .runTicks 40]

/-- The console after this use, with what the display has kept. -/
def smallEnd : Console × Array Frame :=
  performAll .capture ⟨.small, Processor.fresh .small, false⟩ #[] smallUse

/-- The display has got one picture, and gets no other from the faulted console. -/
theorem faultProtocol_performAll_small :
  build .small = .ok ⟨.small, Processor.fresh .small, false⟩
    ∧ FaultProtocol .capture .small smallEnd.1 smallEnd.2 .present
    ∧ smallEnd.1.faulted = true ∧ smallEnd.2.size = 1
    ∧ smallEnd.1.perform .capture smallEnd.2 .present
      = (.error .faulted, smallEnd.1, smallEnd.2)
  := by
  have hbuild : build .small = .ok ⟨.small, Processor.fresh .small, false⟩ := rfl
  have hprotocol : FaultProtocol .capture .small smallEnd.1 smallEnd.2 .present :=
    faultProtocol_performAll Sink.capture #[] hbuild smallUse .present
  have hf : smallEnd.1.faulted = true := by decide +kernel
  have hone : smallEnd.2.size = 1 := by decide +kernel
  exact ⟨hbuild, hprotocol, hf, hone, hprotocol.refused hf (.inr rfl)⟩

end Console

end RasterConsole
