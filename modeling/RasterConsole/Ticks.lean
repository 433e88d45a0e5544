import RasterConsole.Fault

/-!
# Tick requests

A number of ticks may be asked for as a natural number, as a signed integer or as a
floating point number.  `TickRequest.ticks` is the number of ticks that a request stands
for, or the reason why it stands for none.
-/

namespace RasterConsole

/-- A number offered as a count of engine ticks. -/
inductive TickRequest where
  | natural (ticks : Nat)
  | signed (ticks : Int)
  | real (ticks : Binary64)
  deriving Repr, DecidableEq

/-- The largest count of ticks that a request can stand for. -/
def maximumTicks : Nat := 0xFFFFFFFFFFFFFFFF

/-- The ticks of a floating point number.  The upper limit is the nearest floating point
number to `maximumTicks`, which is one larger; it stands for `maximumTicks`. -/
def Binary64.ticks? : Binary64 → Option Nat
  | finite negative m q =>
    match whole? m q with
    | some n =>
      if negative && n != 0 then none
      else if n ≤ maximumTicks + 1 then some (min n maximumTicks)
      else none
    | none => none
  | infinity _ => none
  | nan => none

/-- The ticks that a request stands for. -/
def TickRequest.ticks : TickRequest → Except Fault Nat
  | natural n => .ok n
  | signed (.ofNat n) => .ok n
  | signed (.negSucc n) => .error (.invalidTickRequest (.negative (.negSucc n)))
  | real x =>
    match x.ticks? with
    | some n => .ok n
    | none => .error (.invalidTickRequest (.notWhole x))

end RasterConsole
