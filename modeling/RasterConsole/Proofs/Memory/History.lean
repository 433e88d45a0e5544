import Mathlib.Data.List.Induction
import RasterConsole.Proofs.Memory.Contents

/-!
# The history of a memory

What a memory holds is told by the operations that have been performed on it: an operation
succeeds exactly when all the bytes it asks for lie inside, and each byte is the one that
the latest successful operation reaching it has stored, or zero.

The operations are performed in place, so that a row of bytes is stored byte by byte and
what has been stored before a failure would stay.  That nothing is left behind by an
operation that fails is then a property of the order in which it checks and stores.
-/

namespace RasterConsole

namespace Memory

/-- A request to a memory. -/
inductive Operation where
  | read (address : Nat)
  | write (address : Nat) (byte : UInt8)
  | readWord (address : Nat)
  | writeWord (address : Nat) (word : UInt16)
  | load (base : Nat) (bytes : List UInt8)
  | clear
  deriving DecidableEq, Repr

/-- What an operation that succeeds answers. -/
inductive Answer where
  | done
  | byte (byte : UInt8)
  | word (word : UInt16)
  deriving DecidableEq, Repr

/-! ### Performing operations -/

/-- A row of bytes stored in place, one after the other.  The bytes before the first one
that cannot be stored stay stored. -/
def putAll (m : Memory) (address : Nat) : List UInt8 → Except Fault Answer × Memory
  | [] => (.ok .done, m)
  | byte :: rest =>
      match m.write address byte with
      | .ok m => m.putAll (address + 1) rest
      | .error fault => (.error fault, m)

/-- What an operation performed in place answers, and the memory it leaves. -/
def perform (m : Memory) : Operation → Except Fault Answer × Memory
  | .read address => (.byte <$> m.read address, m)
  | .write address byte => m.putAll address [byte]
  | .readWord address => (.word <$> m.readWord address, m)
  | .writeWord address word =>
      if address + 1 < m.capacity then m.putAll address [lowByte word, highByte word]
      else (.error (m.outside (address + 1)), m)
  | .load base bytes =>
      if base + bytes.length ≤ m.capacity then m.putAll base bytes
      else (.error (.loadOverflow base bytes.length m.capacity), m)
  | .clear => (.ok .done, m.clear)

/-- The memory after a sequence of operations, whether they succeed or not. -/
def performAll (m : Memory) (operations : List Operation) : Memory :=
  operations.foldl (fun m operation => (m.perform operation).2) m

/-- What the functions on memories make of an operation: its answer and the new memory. -/
def outcome (m : Memory) : Operation → Except Fault (Answer × Memory)
  | .read address => return (.byte (← m.read address), m)
  | .write address byte => return (.done, ← m.write address byte)
  | .readWord address => return (.word (← m.readWord address), m)
  | .writeWord address word => return (.done, ← m.writeWord address word)
  | .load base bytes => return (.done, ← m.load base bytes)
  | .clear => return (.done, m.clear)

/-! ### What operations ask for -/

/-- The byte that lies at an address when a row of bytes is laid out from `base` on. -/
def rowAt? (base : Nat) (bytes : List UInt8) (address : Nat) : Option UInt8 :=
  if base ≤ address then bytes[address - base]? else none

namespace Operation

/-- The first address an operation asks for. -/
def start : Operation → Nat
  | read address | write address _ | readWord address | writeWord address _ => address
  | load base _ => base
  | clear => 0

/-- The number of bytes an operation asks for.  To clear a memory is to ask for no byte in
particular. -/
def length : Operation → Nat
  | read _ | write _ _ => 1
  | readWord _ | writeWord _ _ => 2
  | load _ bytes => bytes.length
  | clear => 0

/-- All the bytes that the operation asks for lie inside a memory of that capacity. -/
def Fits (operation : Operation) (capacity : Nat) : Prop :=
  operation.start + operation.length ≤ capacity

instance (operation : Operation) (capacity : Nat) : Decidable (operation.Fits capacity) :=
  inferInstanceAs (Decidable (_ ≤ _))

/-- The byte that an operation stores at an address when it succeeds, if it reaches it. -/
def stores? (address : Nat) : Operation → Option UInt8
  | read _ | readWord _ => none
  | write base byte => rowAt? base [byte] address
  | writeWord base word => rowAt? base [lowByte word, highByte word] address
  | load base bytes => rowAt? base bytes address
  | clear => some 0

/-- What an operation stores at an address in a memory of that capacity.  An operation that
does not fit stores nothing. -/
def effect? (capacity address : Nat) (operation : Operation) : Option UInt8 :=
  if operation.Fits capacity then operation.stores? address else none

/-- What an operation answers when it succeeds, from what is held at each address. -/
def answer (held : Nat → UInt8) : Operation → Answer
  | read address => .byte (held address)
  | readWord address => .word (wordOf (held address) (held (address + 1)))
  | write _ _ | writeWord _ _ | load _ _ | clear => .done

/-- The faults that an operation can report: an address that it asks for and that lies
outside, or a row of bytes that does not fit as a whole. -/
def Blames (operation : Operation) (capacity : Nat) : Fault → Prop
  | .addressing address size =>
      size = capacity ∧ capacity ≤ address
        ∧ operation.start ≤ address ∧ address < operation.start + operation.length
  | .loadOverflow base length size =>
      size = capacity ∧ operation.start = base ∧ operation.length = length
  | _ => False

end Operation

/-- The byte that the latest of the operations reaching an address has stored there, or zero
if none has reached it. -/
def latest (capacity : Nat) (operations : List Operation) (address : Nat) : UInt8 :=
  (operations.reverse.findSome? (Operation.effect? capacity address)).getD 0

/-- A memory of some capacity holds certain bytes and answers every operation by them. -/
structure Keeps (m : Memory) (capacity : Nat) (held : Nat → UInt8) : Prop where
  capacity_eq : m.capacity = capacity
  read_eq : ∀ address < capacity, m.read address = .ok (held address)
  /-- To perform an operation in place is to apply the function for it. -/
  outcome_eq : ∀ operation,
    m.outcome operation
      = (fun answer => (answer, (m.perform operation).2)) <$> (m.perform operation).1
  /-- An operation succeeds if all that it asks for lies inside. -/
  of_fits : ∀ operation, operation.Fits capacity →
    (m.perform operation).1 = .ok (operation.answer held)
  /-- Otherwise it fails, blames what lies outside and changes nothing. -/
  of_not_fits : ∀ operation, ¬ operation.Fits capacity →
    ∃ fault, m.perform operation = (.error fault, m) ∧ operation.Blames capacity fault

section

variable {m : Memory} {operation : Operation} {held : Nat → UInt8} {address : Nat}

/-! ### One operation that succeeds -/

/-- A row of bytes that fits is stored as a whole. -/
theorem putAll_of_le {base : Nat} {bytes : List UInt8}
    (h : base + bytes.length ≤ m.capacity) :
  m.putAll base bytes = (.ok .done, m.storeAll base bytes)
  := by
  induction bytes generalizing m base with
  | nil => rfl
  | cons byte rest ih =>
      rw [List.length_cons] at h
      simp only [putAll, write_of_lt byte (show base < m.capacity by omega)]
      apply ih
      rw [capacity_store]
      omega

/-- The memory after an operation that succeeds. -/
def applied (m : Memory) : Operation → Memory
  | .read _ | .readWord _ => m
  | .write base byte => m.storeAll base [byte]
  | .writeWord base word => m.storeAll base [lowByte word, highByte word]
  | .load base bytes => m.storeAll base bytes
  | .clear => m.clear

@[simp]
theorem capacity_applied (m : Memory) (operation : Operation) :
  (m.applied operation).capacity = m.capacity
  := by
  cases operation with
  | read | readWord => rfl
  | write | writeWord | load => apply capacity_storeAll
  | clear => apply capacity_zeroed

/-- An operation that fits succeeds, with the answer that the bytes held give. -/
theorem perform_of_fits (hfits : operation.Fits m.capacity)
    (hheld : ∀ address < m.capacity, m.read address = .ok (held address)) :
  m.perform operation = (.ok (operation.answer held), m.applied operation)
  := by
  cases operation with
  | read address => rw [perform, hheld address hfits]; rfl
  | readWord address =>
      have hlow := hheld address (Nat.lt_of_succ_lt hfits)
      rw [perform, readWord_of_read hlow (hheld (address + 1) hfits)]
      rfl
  | write base byte => exact putAll_of_le hfits
  | writeWord base word => exact (if_pos hfits).trans (putAll_of_le hfits)
  | load base bytes => exact (if_pos hfits).trans (putAll_of_le hfits)
  | clear => rfl

/-- In a row that has been stored the bytes of the row are found, elsewhere what was held. -/
theorem read_storeAll {base : Nat} {bytes : List UInt8} {byte : UInt8}
    (hfits : base + bytes.length ≤ m.capacity) (hread : m.read address = .ok byte) :
  (m.storeAll base bytes).read address = .ok ((rowAt? base bytes address).getD byte)
  := by
  rw [rowAt?]
  split_ifs with hbase
  · obtain ⟨i, rfl⟩ := Nat.exists_eq_add_of_le hbase
    rw [Nat.add_sub_cancel_left]
    rcases Nat.lt_or_ge i bytes.length with hi | hi
    · rw [read_storeAll_of_lt hfits hi, List.getElem?_eq_getElem hi, Option.getD_some]
    · rw [read_storeAll_of_outside m (by omega), hread, List.getElem?_eq_none hi,
        Option.getD_none]
  · rw [read_storeAll_of_outside m (by omega), hread, Option.getD_none]

theorem read_applied {byte : UInt8} (hfits : operation.Fits m.capacity)
    (h : address < m.capacity) (hread : m.read address = .ok byte) :
  (m.applied operation).read address = .ok ((operation.stores? address).getD byte)
  := by
  cases operation with
  | read | readWord => exact hread
  | write | writeWord | load => exact read_storeAll hfits hread
  | clear => exact read_zeroed h

/-! ### One operation that fails -/

/-- An operation that does not fit blames what lies outside and leaves the memory alone.
Only a word has a byte that could be stored before the failure, and its high byte is
checked first. -/
theorem perform_of_not_fits (hfits : ¬ operation.Fits m.capacity) :
  ∃ fault, m.perform operation = (.error fault, m) ∧ operation.Blames m.capacity fault
  := by
  cases operation with
  | read address =>
      have h : m.capacity ≤ address := Nat.not_lt.mp hfits
      refine ⟨m.outside address, ?_, rfl, h, le_rfl, Nat.lt_succ_self address⟩
      rw [perform, read_of_le h]
      rfl
  | write base byte =>
      have h : m.capacity ≤ base := Nat.not_lt.mp hfits
      refine ⟨m.outside base, ?_, rfl, h, le_rfl, Nat.lt_succ_self base⟩
      simp only [perform, putAll, write_of_le byte h]
  | readWord address =>
      have h : m.capacity ≤ address + 1 := Nat.not_lt.mp hfits
      rcases Nat.lt_or_ge address m.capacity with hlow | hlow
      · obtain ⟨low, hread⟩ := read_of_lt hlow
        refine ⟨m.outside (address + 1), ?_, rfl, h, by simp [Operation.start], ?_⟩
        · rw [perform, readWord, hread, read_of_le h]
          rfl
        · simp [Operation.start, Operation.length]
      · refine ⟨m.outside address, ?_, rfl, hlow, le_rfl, ?_⟩
        · rw [perform, readWord, read_of_le hlow]
          rfl
        · simp [Operation.start, Operation.length]
  | writeWord base word =>
      have h : m.capacity ≤ base + 1 := Nat.not_lt.mp hfits
      refine ⟨m.outside (base + 1), if_neg hfits, rfl, h, ?_, ?_⟩
      · simp [Operation.start]
      · simp [Operation.start, Operation.length]
  | load base bytes => exact ⟨_, if_neg hfits, rfl, rfl, rfl⟩
  | clear => exact absurd (Nat.zero_le m.capacity) hfits

/-! ### Any operation -/

/-- Performed in place, an operation comes to what the function for it gives. -/
theorem outcome_eq (m : Memory) (operation : Operation) :
  m.outcome operation
    = (fun answer => (answer, (m.perform operation).2)) <$> (m.perform operation).1
  := by
  cases operation with
  | read address =>
      simp only [outcome, perform]
      cases m.read address <;> rfl
  | readWord address =>
      simp only [outcome, perform]
      cases m.readWord address <;> rfl
  | write base byte =>
      rcases Nat.lt_or_ge base m.capacity with h | h
      · simp only [outcome, perform, putAll, write_of_lt byte h]
        rfl
      · simp only [outcome, perform, putAll, write_of_le byte h]
        rfl
  | writeWord base word =>
      by_cases h : base + 1 < m.capacity
      · rw [outcome, writeWord_of_lt word h, perform, if_pos h, putAll_of_le h]
        rfl
      · rw [outcome, writeWord, if_neg h, perform, if_neg h]
        rfl
  | load base bytes =>
      by_cases h : base + bytes.length ≤ m.capacity
      · rw [outcome, load, if_pos h, perform, if_pos h, putAll_of_le h]
        rfl
      · rw [outcome, load, if_neg h, perform, if_neg h]
        rfl
  | clear => rfl

variable {capacity : Nat}

/-- The bytes that a memory holds decide what it makes of every operation. -/
theorem keeps_of_read (hcapacity : m.capacity = capacity)
    (hread : ∀ address < capacity, m.read address = .ok (held address)) :
  m.Keeps capacity held
  := by
  subst hcapacity
  refine ⟨rfl, hread, outcome_eq m, ?_, ?_⟩
  · intro operation hfits
    rw [perform_of_fits hfits hread]
  · intro operation hfits
    exact perform_of_not_fits hfits

/-- A memory made of zeros holds zeros. -/
theorem keeps_zeroed (capacity : Nat) :
  (zeroed capacity).Keeps capacity fun _ => 0
  := keeps_of_read (capacity_zeroed capacity) fun _ => read_zeroed

/-- After an operation the memory holds what the operation has stored, and elsewhere what it
held before. -/
theorem Keeps.perform (h : m.Keeps capacity held) (operation : Operation) :
  (m.perform operation).2.Keeps capacity fun address =>
    (operation.effect? capacity address).getD (held address)
  := by
  obtain rfl := h.capacity_eq
  by_cases hfits : operation.Fits m.capacity
  · rw [perform_of_fits hfits h.read_eq]
    apply keeps_of_read (capacity_applied m operation)
    intro address haddress
    rw [Operation.effect?, if_pos hfits]
    exact read_applied hfits haddress (h.read_eq address haddress)
  · obtain ⟨fault, hperform, -⟩ := perform_of_not_fits hfits
    rw [hperform]
    apply keeps_of_read rfl
    intro address haddress
    rw [Operation.effect?, if_neg hfits]
    exact h.read_eq address haddress

/-- What the latest operation stores takes the place of what those before it have stored. -/
theorem latest_concat (capacity : Nat) (operations : List Operation) (operation : Operation)
    (address : Nat) :
  latest capacity (operations ++ [operation]) address
    = (operation.effect? capacity address).getD (latest capacity operations address)
  := by
  rw [latest, List.reverse_append, List.reverse_singleton, List.singleton_append,
    List.findSome?_cons]
  cases operation.effect? capacity address <;> rfl

end

/-- After any sequence of operations a memory has the capacity it was made with, and holds
at each address the byte of the latest successful operation that reached it. -/
theorem keeps_performAll (capacity : Nat) (operations : List Operation) :
  ((zeroed capacity).performAll operations).Keeps capacity (latest capacity operations)
  := by
  -- the last operation is taken off, for it is the one that overrides the others
  induction operations using List.reverseRecOn with
  | nil => exact keeps_zeroed capacity
  | append_singleton operations operation ih =>
      rw [performAll, List.foldl_append]
      rw [funext (latest_concat capacity operations operation)]
      exact ih.perform operation

/-- A word stored across the upper end of a row shows its low byte there, and one that does
not fit shows neither. -/
example :
  let m := (zeroed 4).performAll [.load 0 [1, 2, 3], .writeWord 2 0x0908, .writeWord 3 0x0706]
  m.cells = #[1, 2, 8, 9]
  := by decide

end Memory

end RasterConsole
