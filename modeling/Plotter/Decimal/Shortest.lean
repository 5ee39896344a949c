/-!
The shortest decimal of a binary value. A value `significand * 2 ^ exponent` is told apart from its
neighbours by every decimal inside its rounding interval; of those the coarsest decimal grid is
taken, and on it the point nearest to the value.
-/

set_option autoImplicit false

namespace Plotter.Decimal

inductive Tie where
  | even
  | up
deriving DecidableEq, Repr

/-- A positive value with the reals that round to it, all over one denominator. The ends belong to
the interval iff the binary significand is even. -/
structure Interval where
  low : Nat
  value : Nat
  high : Nat
  denominator : Nat
  closed : Bool
deriving DecidableEq, Repr

def Interval.ofBinary (significand : Nat) (exponent : Int) (narrowBelow : Bool) : Interval :=
  let scale := Nat.pow 2 (exponent - 2).toNat
  { low := (4 * significand - if narrowBelow then 1 else 2) * scale
    value := 4 * significand * scale
    high := (4 * significand + 2) * scale
    denominator := Nat.pow 2 (2 - exponent).toNat
    closed := significand % 2 == 0 }

def Interval.holds (range : Interval) (factor unit count : Nat) : Bool :=
  if range.closed then range.low * factor ≤ count * unit && count * unit ≤ range.high * factor
  else range.low * factor < count * unit && count * unit < range.high * factor

def Interval.gridPoint (range : Interval) (tie : Tie) (power : Int) : Option Nat :=
  let factor := Nat.pow 10 (-power).toNat
  let unit := range.denominator * Nat.pow 10 power.toNat
  let below := range.value * factor / unit
  let remainder := range.value * factor % unit
  match range.holds factor unit below, range.holds factor unit (below + 1) with
  | false, false => none
  | true, false => some below
  | false, true => some (below + 1)
  | true, true =>
    if 2 * remainder < unit then some below
    else if unit < 2 * remainder then some (below + 1)
    else
      match tie with
      | .up => some (below + 1)
      | .even => some (below + below % 2)

structure Scaled where
  digits : Nat
  power : Int
deriving DecidableEq, Repr

def Interval.topPower (range : Interval) : Int :=
  if range.denominator ≤ range.value then (Nat.toDigits 10 (range.value / range.denominator)).length
  else 1 - ((Nat.toDigits 10 (range.denominator / range.value)).length : Int)

def Interval.search (range : Interval) (tie : Tie) : Nat → Int → Scaled
  | 0, power => ⟨range.value / range.denominator, power⟩
  | steps + 1, power =>
    match range.gridPoint tie power with
    | some digits => ⟨digits, power⟩
    | none => range.search tie steps (power - 1)

/-- Twenty grids reach past seventeen digits, which tell any two double precision values apart. -/
def shortest (tie : Tie) (range : Interval) : Scaled :=
  range.search tie 20 range.topPower

end Plotter.Decimal
