/-!
# Arithmetic

Ticks, lines, columns and bytes are counted in words of 64 bits, and nothing but the size of
a word bounds what settings may ask for.  A sum or a product that does not fit into a word
loses all but its last 64 bits.  `Arithmetic.keep` is what is left of a number that has been
computed, and every sum and every product that settings can make too large goes through it.

The program runs on `Arithmetic.words`.  Under `Arithmetic.exact` nothing is ever lost: the
numbers of a console are the natural numbers that they stand for.  The two agree on numbers
that fit into a word (`Arithmetic.words_keep`).  What grows by one at a time, as the frames
and the cycles do, is counted without a limit in both.

What does not depend on how much is left of a number is said of every arithmetic.
-/

namespace RasterConsole

/-- What is left of a number that has been computed.  Pixels are counted by their four bytes, and
what is left of whole pixels are whole pixels. -/
class Arithmetic where
  keep : Nat → Nat
  keep_pixels : ∀ n, 4 ∣ keep (n * 4)

namespace Arithmetic

/-- The arithmetic of words: the last 64 bits are left. -/
instance words : Arithmetic where
  keep n := n % UInt64.size
  keep_pixels n := (Nat.dvd_mod_iff (by decide)).mpr (Nat.dvd_mul_left 4 n)

/-- The arithmetic without a limit. -/
@[reducible]
def exact : Arithmetic where
  keep n := n
  keep_pixels n := Nat.dvd_mul_left 4 n

/-- What is left of a number of pixels. -/
def keepPixels [Arithmetic] (n : Nat) : Nat := keep (n * 4) / 4

/-- What is left of a number of pixels has as many bytes as are left of their bytes. -/
theorem keepPixels_mul [Arithmetic] (n : Nat) :
  keepPixels n * 4 = keep (n * 4)
  := Nat.div_mul_cancel (keep_pixels n)

@[simp]
theorem exact_keep (n : Nat) :
  exact.keep n = n
  := rfl

@[simp]
theorem exact_keepPixels (n : Nat) :
  @keepPixels exact n = n
  := Nat.mul_div_cancel n (by decide)

/-- A word keeps a number that fits into it. -/
theorem words_keep {n : Nat} (h : n < 0x10000000000000000) :
  words.keep n = n
  := Nat.mod_eq_of_lt h

/-- A word keeps a number of pixels whose bytes fit into it. -/
theorem words_keepPixels {n : Nat} (h : n * 4 < 0x10000000000000000) :
  @keepPixels words n = n
  := by
  rw [keepPixels, words_keep h, Nat.mul_div_cancel n (by decide)]

end Arithmetic

end RasterConsole
