import RasterConsole.Proofs.Bus.Invariants

/-!
# Paying at once

`EagerBus` is the bus as a program may imagine it: it owes nothing, lets no write wait,
and runs the engine at once for every cycle that is charged.  The bus that pays lazily
answers every request alike (`Bus.serveAll_eq_eager`), as long as its budget covers all
the ticks that the eager one runs.  In between it is behind by the ticks that it owes.

These are never more than the budget, so nothing is lost of them in any arithmetic that counts
up to the budget (`Arithmetic.Counts`), and words count up to every budget that is a word.
-/

namespace RasterConsole

namespace Arithmetic

/-- All numbers up to a limit are kept. -/
def Counts [Arithmetic] (limit : Nat) : Prop := ∀ n ≤ limit, keep n = n

theorem counts_exact (limit : Nat) :
  @Counts exact limit
  := fun n _ => exact_keep n

theorem counts_words {limit : Nat} (h : limit < 2 ^ 64) :
  @Counts words limit
  := fun _ hn => words_keep (hn.trans_lt h)

end Arithmetic

/-! ### Requests -/

/-- What can be asked of a bus. -/
inductive Request where
  | read (address : UInt16)
  | write (address : UInt16) (value : UInt8)
  | readWord (address : UInt16)
  | peek (address : UInt16)
  | charge (cycles : Nat)
  | flush
  deriving Repr, DecidableEq

/-- What a bus answers. -/
inductive Answer where
  | byte (result : Except Fault UInt8)
  | word (result : Except Fault UInt16)
  | done (result : Except Fault Unit)

/-- The answer of the bus to a request. -/
def Bus.serve [Arithmetic] (b : Bus) : Request → Answer × Bus
  | .read address => (.byte (b.read address).1, (b.read address).2)
  | .write address value => (.done (b.write address value).1, (b.write address value).2)
  | .readWord address => (.word (b.readWord address).1, (b.readWord address).2)
  | .peek address => (.byte (b.peek address), b)
  | .charge cycles => (.done (.ok ()), b.charge cycles)
  | .flush => (.done (.ok ()), b.flush)

/-- The answers of the bus to one request after the other. -/
def Bus.serveAll [Arithmetic] (b : Bus) : List Request → List Answer × Bus
  | [] => ([], b)
  | request :: rest =>
    let (answer, b) := b.serve request
    let (answers, b) := b.serveAll rest
    (answer :: answers, b)

/-! ### The eager bus -/

/-- Memory and raster engine, and the number of ticks that the engine has run. -/
structure EagerBus where
  memory : Memory
  raster : Raster
  ticksPerCycle : Nat
  elapsed : Nat

namespace EagerBus

def fresh [Arithmetic] (s : Settings) : EagerBus where
  memory := Memory.zeroed s.memorySize
  raster := Raster.fresh s.geometry
  ticksPerCycle := s.ticksPerCycle
  elapsed := 0

/-- The bus after its engine has run some ticks. -/
def run [Arithmetic] (e : EagerBus) (ticks : Nat) : EagerBus :=
  { e with raster := e.raster.advance ticks, elapsed := e.elapsed + ticks }

/-- The bus after an access to the register window: at the end of the line if the register
is the one that waits for it. -/
def touch [Arithmetic] (e : EagerBus) (address : UInt16) : EagerBus :=
  if address = 0x02 then e.run e.raster.ticksToLineEnd else e

def read [Arithmetic] (e : EagerBus) (address : UInt16) : Except Fault UInt8 × EagerBus :=
  if address < windowSize then (.ok 0, e.touch address)
  else (e.memory.read address.toNat, e)

def write [Arithmetic] (e : EagerBus) (address : UInt16) (value : UInt8) :
    Except Fault Unit × EagerBus :=
  if address < windowSize then
    if address = 0x02 then (.ok (), e.touch address)
    else (.ok (), { e with raster := e.raster.write ⟨address, value⟩ })
  else
    match e.memory.writeFault? address.toNat with
    | some fault => (.error fault, e)
    | none => (.ok (), { e with memory := e.memory.store address.toNat value })

def peek (e : EagerBus) (address : UInt16) : Except Fault UInt8 :=
  if address < windowSize then .ok 0 else e.memory.read address.toNat

def readWord [Arithmetic] (e : EagerBus) (address : UInt16) : Except Fault UInt16 × EagerBus :=
  match e.read address with
  | (.error fault, e) => (.error fault, e)
  | (.ok low, e) =>
    match e.read (address + 1) with
    | (.error fault, e) => (.error fault, e)
    | (.ok high, e) => (.ok (wordOf low high), e)

/-- The answer of the eager bus to a request. -/
def serve [Arithmetic] (e : EagerBus) : Request → Answer × EagerBus
  | .read address => (.byte (e.read address).1, (e.read address).2)
  | .write address value => (.done (e.write address value).1, (e.write address value).2)
  | .readWord address => (.word (e.readWord address).1, (e.readWord address).2)
  | .peek address => (.byte (e.peek address), e)
  | .charge cycles => (.done (.ok ()), e.run (cycles * e.ticksPerCycle))
  | .flush => (.done (.ok ()), e)

/-- The answers of the eager bus to one request after the other. -/
def serveAll [Arithmetic] (e : EagerBus) : List Request → List Answer × EagerBus
  | [] => ([], e)
  | request :: rest =>
    let (answer, e) := e.serve request
    let (answers, e) := e.serveAll rest
    (answer :: answers, e)

section

variable [Arithmetic]

theorem serveAll_append (e : EagerBus) (first rest : List Request) :
  (e.serveAll (first ++ rest)).2 = ((e.serveAll first).2.serveAll rest).2
  := by
  induction first generalizing e with
  | nil => rfl
  | cons request first ih => exact ih _

/-! ### Time does not run backwards -/

theorem elapsed_le_touch (e : EagerBus) (address : UInt16) :
  e.elapsed ≤ (e.touch address).elapsed
  := by
  unfold touch
  split_ifs
  · apply Nat.le_add_right
  · exact le_rfl

theorem elapsed_le_read (e : EagerBus) (address : UInt16) :
  e.elapsed ≤ (e.read address).2.elapsed
  := by
  unfold read
  split_ifs
  · apply elapsed_le_touch
  · exact le_rfl

theorem elapsed_le_write (e : EagerBus) (address : UInt16) (value : UInt8) :
  e.elapsed ≤ (e.write address value).2.elapsed
  := by
  unfold write
  split_ifs
  · apply elapsed_le_touch
  · exact le_rfl
  · split
    · exact le_rfl
    · exact le_rfl

theorem readWord_of_error {e : EagerBus} {address : UInt16} {fault : Fault}
    (h : (e.read address).1 = .error fault) :
  e.readWord address = (.error fault, (e.read address).2)
  := by
  rw [readWord]
  generalize e.read address = outcome at h ⊢
  obtain ⟨_, _⟩ := outcome
  obtain rfl := h
  rfl

/-- The second byte is read only if the first one is. -/
theorem readWord_of_ok {e : EagerBus} {address : UInt16} {low : UInt8}
    (h : (e.read address).1 = .ok low) :
  e.readWord address
    = (((e.read address).2.read (address + 1)).1.map (wordOf low),
      ((e.read address).2.read (address + 1)).2)
  := by
  rw [readWord]
  generalize e.read address = outcome at h ⊢
  obtain ⟨_, e'⟩ := outcome
  obtain rfl := h
  dsimp only
  rcases e'.read (address + 1) with ⟨_ | _, _⟩
  · rfl
  · rfl

theorem elapsed_le_readWord (e : EagerBus) (address : UInt16) :
  (e.read address).2.elapsed ≤ (e.readWord address).2.elapsed
  := by
  cases h : (e.read address).1 with
  | error fault => rw [readWord_of_error h]
  | ok low =>
      rw [readWord_of_ok h]
      apply elapsed_le_read

theorem elapsed_le_serve (e : EagerBus) (request : Request) :
  e.elapsed ≤ (e.serve request).2.elapsed
  := by
  cases request with
  | read address => exact e.elapsed_le_read address
  | write address value => exact e.elapsed_le_write address value
  | readWord address =>
      apply (e.elapsed_le_read address).trans (e.elapsed_le_readWord address)
  | peek address => exact le_rfl
  | charge cycles => exact Nat.le_add_right _ _
  | flush => exact le_rfl

theorem elapsed_le_serveAll (e : EagerBus) (requests : List Request) :
  e.elapsed ≤ (e.serveAll requests).2.elapsed
  := by
  induction requests generalizing e with
  | nil => exact le_rfl
  | cons request rest ih => exact (e.elapsed_le_serve request).trans (ih _)

end

end EagerBus

namespace Bus

/-! ### Words -/

theorem readWord_of_error [Arithmetic] {b : Bus} {address : UInt16} {fault : Fault}
    (h : (b.read address).1 = .error fault) :
  b.readWord address = (.error fault, (b.read address).2)
  := by
  rw [readWord]
  generalize b.read address = outcome at h ⊢
  obtain ⟨_, _⟩ := outcome
  obtain rfl := h
  rfl

theorem readWord_of_ok [Arithmetic] {b : Bus} {address : UInt16} {low : UInt8}
    (h : (b.read address).1 = .ok low) :
  b.readWord address
    = (((b.read address).2.read (address + 1)).1.map (wordOf low),
      ((b.read address).2.read (address + 1)).2)
  := by
  rw [readWord]
  generalize b.read address = outcome at h ⊢
  obtain ⟨_, b'⟩ := outcome
  obtain rfl := h
  dsimp only
  rcases b'.read (address + 1) with ⟨_ | _, _⟩
  · rfl
  · rfl

/-! ### Lockstep -/

theorem isStrobeAddress_iff (address : UInt16) :
  isStrobeAddress address = true ↔ address = 0x02
  := by
  constructor
  · intro h
    unfold isStrobeAddress Register.ofAddress? at h
    split at h
    · rename_i hregister
      split at hregister
      all_goals first | rfl | cases hregister <;> cases h
    · cases h
  · intro h
    rw [h]
    rfl

/-- The bus is behind the eager one by the ticks that it owes and by nothing else, and what
is left of its `budget` pays for the rest. -/
structure Lockstep [Arithmetic] (budget : Nat) (e : EagerBus) (b : Bus) : Prop where
  memory_eq : b.memory = e.memory
  ticksPerCycle_eq : b.ticksPerCycle = e.ticksPerCycle
  raster_eq : e.raster = b.raster.advance b.owed
  waiting_eq : b.waiting = []
  owed_le : b.owed ≤ e.elapsed
  budget_eq : ∃ left, b.budget = .ticks left ∧ left + e.elapsed = budget + b.owed

section

variable [Arithmetic] {budget : Nat} {e : EagerBus} {b : Bus}

theorem lockstep_fresh (s : Settings) (budget : Nat) :
  Lockstep budget (EagerBus.fresh s) ((fresh s).grant (.ticks budget))
  := ⟨rfl, rfl, rfl, rfl, le_rfl, budget, rfl, rfl⟩

theorem Lockstep.owe (h : Lockstep budget e b) (ticks : Nat) :
  Lockstep budget (e.run ticks) (b.owe ticks)
  := by
  obtain ⟨hmemory, hticks, hraster, hwaiting, howed, left, hbudget, hleft⟩ := h
  refine ⟨hmemory, hticks, ?_, hwaiting, Nat.add_le_add_right howed ticks, left, hbudget, ?_⟩
  · simp only [EagerBus.run, Bus.owe, hraster, Raster.advance_add]
  · simp only [EagerBus.run, Bus.owe]
    omega

/-- What is charged is no more than the eager bus has run, so all of it is counted. -/
theorem Lockstep.charge (h : Lockstep budget e b) (hcounts : Arithmetic.Counts budget)
    {cycles : Nat} (hbudget : (e.run (cycles * e.ticksPerCycle)).elapsed ≤ budget) :
  Lockstep budget (e.run (cycles * e.ticksPerCycle)) (b.charge cycles)
  := by
  have howe := h.owe (cycles * e.ticksPerCycle)
  have hkeep : Arithmetic.keep (b.owed + cycles * e.ticksPerCycle)
      = b.owed + cycles * e.ticksPerCycle := hcounts _ (howe.owed_le.trans hbudget)
  have hcharge : b.charge cycles = b.owe (cycles * e.ticksPerCycle) := by
    unfold Bus.charge Bus.owe
    rw [h.ticksPerCycle_eq, hkeep]
  rw [hcharge]
  exact howe

/-- As long as the budget covers what the eager bus has run, a flush pays all that is
owed. -/
theorem Lockstep.covers (h : Lockstep budget e b) (hbudget : e.elapsed ≤ budget) :
  b.budget.covers b.owed = true
  := by
  obtain ⟨left, hb, hleft⟩ := h.budget_eq
  rw [hb, Budget.covers, decide_eq_true_eq]
  omega

theorem Lockstep.flush (h : Lockstep budget e b) (hbudget : e.elapsed ≤ budget) :
  Lockstep budget e b.flush ∧ b.flush.owed = 0
  := by
  have hc := h.covers hbudget
  obtain ⟨hmemory, hticks, hraster, hwaiting, -, left, hb, hleft⟩ := h
  rw [hb, Budget.covers, decide_eq_true_eq] at hc
  rw [flush_of_covers (by simpa [hb, Budget.covers] using hc), hwaiting]
  refine ⟨⟨hmemory, hticks, hraster, rfl, Nat.zero_le _, left - b.owed, ?_, ?_⟩, rfl⟩
  · rw [hb, Budget.spend]
  · dsimp only
    omega

/-- A bus that owes nothing waits for the end of the line at once. -/
theorem Lockstep.waitForLine (h : Lockstep budget e b) (howed : b.owed = 0)
    (hbudget : (e.run e.raster.ticksToLineEnd).elapsed ≤ budget) :
  Lockstep budget (e.run e.raster.ticksToLineEnd) b.waitForLine ∧ b.waitForLine.owed = 0
  := by
  obtain ⟨hmemory, hticks, hraster, hwaiting, hle, left, hb, hleft⟩ := h
  rw [howed, Raster.advance_zero] at hraster
  simp only [EagerBus.run] at hbudget
  have hfast : (b.owed = 0 && b.budget.covers b.raster.ticksToLineEnd) = true := by
    simp only [howed, hb, Budget.covers, ← hraster, decide_true, Bool.true_and, decide_eq_true_eq]
    omega
  unfold Bus.waitForLine
  rw [if_pos hfast]
  refine ⟨⟨hmemory, hticks, ?_, hwaiting, hle.trans (Nat.le_add_right _ _),
    left - e.raster.ticksToLineEnd, ?_, ?_⟩, howed⟩
  · simp only [EagerBus.run, howed, Raster.advance_zero, hraster]
  · simp only [hb, Budget.spend, hraster]
  · simp only [EagerBus.run]
    omega

theorem Lockstep.touch (h : Lockstep budget e b) (address : UInt16)
    (hbudget : (e.touch address).elapsed ≤ budget) :
  Lockstep budget (e.touch address) (b.touch address) ∧ (b.touch address).owed = 0
  := by
  obtain ⟨hflush, howed⟩ := h.flush ((e.elapsed_le_touch address).trans hbudget)
  unfold EagerBus.touch at hbudget ⊢
  unfold Bus.touch
  simp only [isStrobeAddress_iff]
  split_ifs at hbudget ⊢
  · exact hflush.waitForLine howed hbudget
  · exact ⟨hflush, howed⟩

/-- Registers are written at once if nothing is owed. -/
theorem Lockstep.post (h : Lockstep budget e b) (howed : b.owed = 0) (w : RegisterWrite) :
  Lockstep budget { e with raster := e.raster.write w } (b.post w)
  := by
  obtain ⟨hmemory, hticks, hraster, hwaiting, hle, hbudget⟩ := h
  unfold Bus.post
  rw [if_pos howed]
  refine ⟨hmemory, hticks, ?_, hwaiting, hle, hbudget⟩
  rw [howed, Raster.advance_zero] at hraster ⊢
  rw [hraster]

theorem Lockstep.store (h : Lockstep budget e b) (memory : Memory) :
  Lockstep budget { e with memory := memory } { b with memory := memory }
  := ⟨rfl, h.ticksPerCycle_eq, h.raster_eq, h.waiting_eq, h.owed_le, h.budget_eq⟩

theorem Lockstep.read (h : Lockstep budget e b) (address : UInt16)
    (hbudget : (e.read address).2.elapsed ≤ budget) :
  (b.read address).1 = (e.read address).1
    ∧ Lockstep budget (e.read address).2 (b.read address).2
  := by
  unfold Bus.read EagerBus.read at *
  split_ifs at hbudget ⊢
  · exact ⟨rfl, (h.touch address hbudget).1⟩
  · rw [h.memory_eq]
    exact ⟨rfl, h⟩

theorem Lockstep.write (h : Lockstep budget e b) (address : UInt16) (value : UInt8)
    (hbudget : (e.write address value).2.elapsed ≤ budget) :
  (b.write address value).1 = (e.write address value).1
    ∧ Lockstep budget (e.write address value).2 (b.write address value).2
  := by
  simp only [Bus.write, EagerBus.write, isStrobeAddress_iff, h.memory_eq] at hbudget ⊢
  split_ifs at hbudget ⊢ with hwindow hwait
  · exact ⟨rfl, (h.touch address hbudget).1⟩
  · have htouch : e.touch address = e := if_neg hwait
    rw [← htouch] at hbudget
    obtain ⟨hsettled, howed⟩ := h.touch address hbudget
    rw [htouch] at hsettled
    exact ⟨rfl, hsettled.post howed _⟩
  · cases e.memory.writeFault? address.toNat with
    | none => exact ⟨rfl, h.store _⟩
    | some fault => exact ⟨rfl, h⟩

theorem Lockstep.readWord (h : Lockstep budget e b) (address : UInt16)
    (hbudget : (e.readWord address).2.elapsed ≤ budget) :
  (b.readWord address).1 = (e.readWord address).1
    ∧ Lockstep budget (e.readWord address).2 (b.readWord address).2
  := by
  obtain ⟨hlow, hread⟩ := h.read address ((e.elapsed_le_readWord address).trans hbudget)
  cases hfirst : (e.read address).1 with
  | error fault =>
      rw [EagerBus.readWord_of_error hfirst, readWord_of_error (hlow.trans hfirst)]
      exact ⟨rfl, hread⟩
  | ok low =>
      rw [EagerBus.readWord_of_ok hfirst] at hbudget ⊢
      rw [readWord_of_ok (hlow.trans hfirst)]
      obtain ⟨hhigh, hboth⟩ := hread.read (address + 1) hbudget
      exact ⟨by rw [hhigh], hboth⟩

/-- A request has the same answer on both. -/
theorem Lockstep.serve (h : Lockstep budget e b) (hcounts : Arithmetic.Counts budget)
    (request : Request)
    (hbudget : (e.serve request).2.elapsed ≤ budget) :
  (b.serve request).1 = (e.serve request).1
    ∧ Lockstep budget (e.serve request).2 (b.serve request).2
  := by
  cases request with
  | read address =>
      obtain ⟨hresult, hstep⟩ := h.read address hbudget
      exact ⟨congrArg Answer.byte hresult, hstep⟩
  | write address value =>
      obtain ⟨hresult, hstep⟩ := h.write address value hbudget
      exact ⟨congrArg Answer.done hresult, hstep⟩
  | readWord address =>
      obtain ⟨hresult, hstep⟩ := h.readWord address hbudget
      exact ⟨congrArg Answer.word hresult, hstep⟩
  | peek address =>
      refine ⟨?_, h⟩
      simp only [Bus.serve, EagerBus.serve, Bus.peek, EagerBus.peek, h.memory_eq]
      rfl
  | charge cycles => exact ⟨rfl, h.charge hcounts hbudget⟩
  | flush => exact ⟨rfl, (h.flush hbudget).1⟩

theorem Lockstep.serveAll (h : Lockstep budget e b) (hcounts : Arithmetic.Counts budget)
    (requests : List Request)
    (hbudget : (e.serveAll requests).2.elapsed ≤ budget) :
  (b.serveAll requests).1 = (e.serveAll requests).1
    ∧ Lockstep budget (e.serveAll requests).2 (b.serveAll requests).2
  := by
  induction requests generalizing e b with
  | nil => exact ⟨rfl, h⟩
  | cons request rest ih =>
      obtain ⟨hanswer, hstep⟩ :=
        h.serve hcounts request ((EagerBus.elapsed_le_serveAll _ rest).trans hbudget)
      obtain ⟨hanswers, hrest⟩ := ih hstep hbudget
      exact ⟨congrArg₂ List.cons hanswer hanswers, hrest⟩

/-- The bus has the same memory as the eager one, its engine is behind by the ticks that it
owes, and a flush makes up for them. -/
structure CatchesUp [Arithmetic] (b : Bus) (e : EagerBus) : Prop where
  memory_eq : b.memory = e.memory
  raster_eq : e.raster = b.raster.advance b.owed
  raster_flush_eq : b.flush.raster = e.raster
  owed_flush_eq : b.flush.owed = 0
  waiting_flush_eq : b.flush.waiting = []

theorem Lockstep.catchesUp (h : Lockstep budget e b) (hbudget : e.elapsed ≤ budget) :
  b.CatchesUp e
  := by
  obtain ⟨hflush, howed⟩ := h.flush hbudget
  constructor
  · apply h.memory_eq
  · apply h.raster_eq
  · rw [hflush.raster_eq, howed, Raster.advance_zero]
  · apply howed
  · apply hflush.waiting_eq

/-- A bus with a budget that covers all the ticks which the eager one runs answers every
request like the eager one, and at every point of the way catches up with it.  It does so in every
arithmetic that counts up to the budget. -/
theorem serveAll_eq_eager (s : Settings) {all requests : List Request}
    (hpart : requests <+: all) (hcounts : Arithmetic.Counts budget)
    (hbudget : ((EagerBus.fresh s).serveAll all).2.elapsed ≤ budget) :
  (((fresh s).grant (.ticks budget)).serveAll requests).1
      = ((EagerBus.fresh s).serveAll requests).1
    ∧ (((fresh s).grant (.ticks budget)).serveAll requests).2.CatchesUp
      ((EagerBus.fresh s).serveAll requests).2
  := by
  obtain ⟨rest, rfl⟩ := hpart
  have hspent : ((EagerBus.fresh s).serveAll requests).2.elapsed ≤ budget := by
    rw [EagerBus.serveAll_append] at hbudget
    apply (EagerBus.elapsed_le_serveAll _ rest).trans hbudget
  obtain ⟨hanswers, hend⟩ := (lockstep_fresh s budget).serveAll hcounts requests hspent
  exact ⟨hanswers, hend.catchesUp hspent⟩

end

/-- A store of a color, a wait for the end of the line, and a store to memory. -/
def smallRequests : List Request :=
  [.charge 5, .write 0x09 0x44, .charge 7, .read 0x02, .write 0x90 1, .peek 0x90]

theorem serveAll_eq_eager_small :
  Arithmetic.Counts 40 ∧ ((EagerBus.fresh .small).serveAll smallRequests).2.elapsed ≤ 40
    ∧ (((fresh .small).grant (.ticks 40)).serveAll (smallRequests.take 3)).2.CatchesUp
      ((EagerBus.fresh .small).serveAll (smallRequests.take 3)).2
  := by
  have hbudget : ((EagerBus.fresh .small).serveAll smallRequests).2.elapsed ≤ 40 := by
    decide +kernel
  have hpart : smallRequests.take 3 <+: smallRequests := List.take_prefix 3 smallRequests
  have hcounts : Arithmetic.Counts 40 := Arithmetic.counts_words (by decide)
  exact ⟨hcounts, hbudget, (serveAll_eq_eager .small hpart hcounts hbudget).2⟩

end Bus

end RasterConsole
