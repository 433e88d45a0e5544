import RasterConsole.Decimal.Binary64

/-!
# The shortest decimal of a binary number

A binary number `m * 2 ^ q` is the nearest one to every real of an interval around it,
which reaches half way to its two neighbours and includes its ends exactly when `m` is
even.  `shortest` picks a decimal `d * 10 ^ p` of that interval with the largest `p` and,
of the two multiples of `10 ^ p` next to the number, the nearer one; of two at the same
distance the larger.  `text` writes it by position, never with an exponent.
-/

namespace RasterConsole

/-- The number `digits * 10 ^ place`. -/
structure Decimal where
  digits : Nat
  place : Int
  deriving Repr, DecidableEq

namespace Decimal

/-- The decimal with a point and no exponent, without needless zeros. -/
def text (d : Decimal) : String :=
  let ds := Nat.toDigits 10 d.digits
  match d.place with
  | .ofNat p => String.ofList (if d.digits = 0 then ds else ds ++ List.replicate p '0')
  | .negSucc p =>
    let padded := ds.leftpad (p + 2) '0'
    let cut := padded.length - (p + 1)
    String.ofList (padded.take cut ++ '.' :: padded.drop cut)

end Decimal

namespace Binary64

/-- The interval of reals that round to `m * 2 ^ q`, in quarters of `2 ^ q`: its two ends
and whether they belong to it.  Below a power of two the neighbour is only half as far. -/
def interval (m : Nat) (q : Int) : Nat × Nat × Bool :=
  let near := decide (m = 0x10000000000000 ∧ -1074 < q)
  (4 * m - (if near then 1 else 2), 4 * m + 2, m % 2 == 0)

/-- A positive fraction `numer / denom` that equals `2 ^ q / 10 ^ p`. -/
def ratio (q p : Int) : Nat × Nat :=
  (Nat.pow 2 q.toNat * Nat.pow 10 (-p).toNat, Nat.pow 2 (-q).toNat * Nat.pow 10 p.toNat)

/-- The multiple of `10 ^ p` nearest to `m * 2 ^ q` among its two neighbours that round
to it, if there is one. -/
def candidate? (m : Nat) (q p : Int) : Option Decimal :=
  let (numer, denom) := ratio q p
  let (low, high, closed) := interval m q
  let inside (d : Nat) : Bool :=
    let x := 4 * d * denom
    if closed then decide (low * numer ≤ x ∧ x ≤ high * numer)
    else decide (low * numer < x ∧ x < high * numer)
  let below := m * numer / denom
  let above := below + 1
  if inside below && inside above then
    if 2 * (m * numer) < (below + above) * denom then some ⟨below, p⟩ else some ⟨above, p⟩
  else if inside below then some ⟨below, p⟩
  else if inside above then some ⟨above, p⟩
  else none

/-- The places a shortest decimal can end at, largest first. -/
def places : List Int := (List.range 1400).map fun k => 310 - Int.ofNat k

/-- The shortest decimal that rounds to `m * 2 ^ q`. -/
def shortest (m : Nat) (q : Int) : Decimal :=
  if m = 0 then ⟨0, 0⟩ else (places.findSome? (candidate? m q)).getD ⟨m, 0⟩

/-- The text of a number in a message. -/
def text : Binary64 → String
  | nan => "NaN"
  | infinity negative => if negative then "-inf" else "inf"
  | finite negative m q =>
    let digits := (shortest m q).text
    if negative then "-" ++ digits else digits

end Binary64

end RasterConsole
