import RasterConsole.Proofs.Bus.Invariants

/-!
# What memory holds

A byte that has been stored is what a read finds at its address, and at every other
address a read finds what it found before.  From this come the contents after a row of
bytes has been stored, and the word that a vector holds after its two bytes have.
-/

namespace RasterConsole

/-- What follows a step that can fail succeeds if, and only if, the step does as well. -/
theorem bind_eq_ok_iff {ε α β : Type} {x : Except ε α} {f : α → Except ε β} {b : β} :
  x >>= f = .ok b ↔ ∃ a, x = .ok a ∧ f a = .ok b
  := by
  constructor
  · intro h
    cases x with
    | error _ => cases h
    | ok a => exact ⟨a, rfl, h⟩
  · rintro ⟨a, rfl, h⟩
    exact h

/-! ### The bytes of a word -/

theorem toNat_wordOf (low high : UInt8) :
  (wordOf low high).toNat = high.toNat * 256 + low.toNat
  := by
  have hlow := low.toNat_lt
  have hhigh := high.toNat_lt
  simp only [wordOf, UInt16.toNat_add, UInt16.toNat_mul, UInt8.toNat_toUInt16,
    UInt16.reduceToNat]
  omega

theorem toNat_lowByte (word : UInt16) :
  (lowByte word).toNat = word.toNat % 256
  := word.toNat_toUInt8

theorem toNat_highByte (word : UInt16) :
  (highByte word).toNat = word.toNat / 256
  := by
  have hword := word.toNat_lt
  simp only [highByte, UInt16.toNat_toUInt8, UInt16.toNat_div, UInt16.reduceToNat]
  omega

theorem wordOf_bytes (word : UInt16) :
  wordOf (lowByte word) (highByte word) = word
  := by
  apply UInt16.toNat_inj.mp
  rw [toNat_wordOf, toNat_lowByte, toNat_highByte]
  omega

/-- A word is made of its two bytes and of no others. -/
theorem wordOf_eq_iff {low high : UInt8} {word : UInt16} :
  wordOf low high = word ↔ low = lowByte word ∧ high = highByte word
  := by
  have hlow := low.toNat_lt
  rw [← UInt16.toNat_inj, ← UInt8.toNat_inj, ← UInt8.toNat_inj, toNat_wordOf, toNat_lowByte,
    toNat_highByte]
  omega

namespace Memory

/-! ### A byte after a store -/

theorem read_of_lt {m : Memory} {address : Nat} (h : address < m.capacity) :
  ∃ byte, m.read address = .ok byte
  := by
  use m.cells[address]
  rw [read, Array.getElem?_eq_getElem h]

theorem read_of_le {m : Memory} {address : Nat} (h : m.capacity ≤ address) :
  m.read address = .error (m.outside address)
  := by
  rw [read, Array.getElem?_eq_none h]

/-- A byte that is found lies inside. -/
theorem lt_of_read {m : Memory} {address : Nat} {byte : UInt8} (h : m.read address = .ok byte) :
  address < m.capacity
  := by
  by_contra hout
  rw [read_of_le (Nat.not_lt.mp hout)] at h
  cases h

theorem write_of_lt {m : Memory} {address : Nat} (byte : UInt8) (h : address < m.capacity) :
  m.write address byte = .ok (m.store address byte)
  := by
  rw [write, writeFault?, if_pos h]

theorem write_of_le {m : Memory} {address : Nat} (byte : UInt8) (h : m.capacity ≤ address) :
  m.write address byte = .error (m.outside address)
  := by
  rw [write, writeFault?, if_neg h.not_gt]

theorem read_zeroed {capacity address : Nat} (h : address < capacity) :
  (zeroed capacity).read address = .ok 0
  := by
  rw [read, zeroed, Array.getElem?_replicate, if_pos h]

theorem read_store_of_ne (m : Memory) {address address' : Nat} (byte : UInt8)
    (h : address' ≠ address) :
  (m.store address byte).read address' = m.read address'
  := by
  simp only [read, outside, capacity_store]
  rw [store, Array.getElem?_setIfInBounds_ne h.symm]

theorem read_store_self {m : Memory} {address : Nat} (byte : UInt8)
    (h : address < m.capacity) :
  (m.store address byte).read address = .ok byte
  := by
  rw [read, store, Array.getElem?_setIfInBounds_self_of_lt h]

/-! ### A row of bytes -/

/-- Storing a row of bytes leaves all other addresses alone. -/
theorem read_storeAll_of_outside (m : Memory) {base address : Nat} {bytes : List UInt8}
    (h : address < base ∨ base + bytes.length ≤ address) :
  (m.storeAll base bytes).read address = m.read address
  := by
  induction bytes generalizing m base with
  | nil => rfl
  | cons byte rest ih =>
      rw [List.length_cons] at h
      rw [storeAll, ih (m.store base byte) (by omega), read_store_of_ne m byte (by omega)]

/-- A row of bytes that has been stored is found where it was stored. -/
theorem read_storeAll_of_lt {m : Memory} {base i : Nat} {bytes : List UInt8}
    (hfits : base + bytes.length ≤ m.capacity) (hi : i < bytes.length) :
  (m.storeAll base bytes).read (base + i) = .ok bytes[i]
  := by
  induction bytes generalizing m base i with
  | nil => cases hi
  | cons byte rest ih =>
      rw [List.length_cons] at hfits hi
      rw [storeAll]
      cases i with
      | zero =>
          -- the later bytes are stored behind this one
          rw [read_storeAll_of_outside _ (by omega)]
          apply read_store_self byte (by omega)
      | succ i =>
          have hbase : base + (i + 1) = base + 1 + i := by omega
          rw [hbase, ih (by rw [capacity_store]; omega) (by omega), List.getElem_cons_succ]

/-- What is found in a row of zeros after some bytes have been stored in it. -/
def loaded (base : Nat) (bytes : List UInt8) (address : Nat) : UInt8 :=
  if base ≤ address then bytes[address - base]?.getD 0 else 0

/-- A memory of zeros holds the bytes that have been loaded into it and zeros elsewhere. -/
theorem read_storeAll_zeroed {capacity base address : Nat} {bytes : List UInt8}
    (hfits : base + bytes.length ≤ capacity) (h : address < capacity) :
  ((zeroed capacity).storeAll base bytes).read address = .ok (loaded base bytes address)
  := by
  rw [loaded]
  split_ifs with hbase
  · obtain ⟨i, rfl⟩ := Nat.exists_eq_add_of_le hbase
    rw [Nat.add_sub_cancel_left]
    rcases Nat.lt_or_ge i bytes.length with hi | hi
    · rw [read_storeAll_of_lt (by rwa [capacity_zeroed]) hi, List.getElem?_eq_getElem hi]
      rfl
    · rw [read_storeAll_of_outside _ (by omega), read_zeroed h, List.getElem?_eq_none hi]
      rfl
  · rw [read_storeAll_of_outside _ (by omega), read_zeroed h]

/-! ### Words -/

theorem readWord_of_read {m : Memory} {address : Nat} {low high : UInt8}
    (hlow : m.read address = .ok low) (hhigh : m.read (address + 1) = .ok high) :
  m.readWord address = .ok (wordOf low high)
  := by
  rw [readWord, hlow, hhigh]
  rfl

/-- A word is read exactly where its two bytes are. -/
theorem readWord_eq_ok_iff {m : Memory} {address : Nat} {word : UInt16} :
  m.readWord address = .ok word
    ↔ m.read address = .ok (lowByte word) ∧ m.read (address + 1) = .ok (highByte word)
  := by
  constructor
  · intro h
    obtain ⟨low, hlow, h⟩ := bind_eq_ok_iff.mp h
    obtain ⟨high, hhigh, h⟩ := bind_eq_ok_iff.mp h
    obtain ⟨rfl, rfl⟩ := wordOf_eq_iff.mp (Except.ok.inj h)
    exact ⟨hlow, hhigh⟩
  · rintro ⟨hlow, hhigh⟩
    rw [readWord_of_read hlow hhigh, wordOf_bytes]

theorem readWord_of_lt {m : Memory} {address : Nat} (h : address + 1 < m.capacity) :
  ∃ word, m.readWord address = .ok word
  := by
  obtain ⟨low, hlow⟩ := read_of_lt (Nat.lt_of_succ_lt h)
  obtain ⟨high, hhigh⟩ := read_of_lt h
  exact ⟨_, readWord_of_read hlow hhigh⟩

/-- The memory with the bytes of a word stored at `address`. -/
def storeWord (m : Memory) (address : Nat) (word : UInt16) : Memory :=
  m.storeAll address [lowByte word, highByte word]

@[simp]
theorem capacity_storeWord (m : Memory) (address : Nat) (word : UInt16) :
  (m.storeWord address word).capacity = m.capacity
  := capacity_storeAll m address _

theorem writeWord_of_lt {m : Memory} {address : Nat} (word : UInt16)
    (h : address + 1 < m.capacity) :
  m.writeWord address word = .ok (m.storeWord address word)
  := if_pos h

theorem read_storeWord_of_outside (m : Memory) {address address' : Nat} (word : UInt16)
    (h : address' ≠ address) (h' : address' ≠ address + 1) :
  (m.storeWord address word).read address' = m.read address'
  := by
  apply read_storeAll_of_outside
  simp only [List.length_cons, List.length_nil]
  omega

theorem read_storeWord_low {m : Memory} {address : Nat} (word : UInt16)
    (h : address + 1 < m.capacity) :
  (m.storeWord address word).read address = .ok (lowByte word)
  := read_storeAll_of_lt (i := 0) h (by simp)

theorem read_storeWord_high {m : Memory} {address : Nat} (word : UInt16)
    (h : address + 1 < m.capacity) :
  (m.storeWord address word).read (address + 1) = .ok (highByte word)
  := read_storeAll_of_lt (i := 1) h (by simp)

/-- A word that has been stored is found where it was stored. -/
theorem readWord_storeWord {m : Memory} {address : Nat} (word : UInt16)
    (h : address + 1 < m.capacity) :
  (m.storeWord address word).readWord address = .ok word
  := by
  rw [readWord_of_read (read_storeWord_low word h) (read_storeWord_high word h), wordOf_bytes]

end Memory

end RasterConsole
