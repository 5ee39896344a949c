import Plotter.Decimal.Style

set_option autoImplicit false

namespace Plotter.Binary

structure Width where
  fraction : Nat
  exponent : Nat
deriving DecidableEq, Repr

def single : Width := ⟨23, 8⟩

def double : Width := ⟨52, 11⟩

def Width.fractions (width : Width) : Nat := Nat.pow 2 width.fraction

def Width.lowest (width : Width) : Int :=
  2 - (Nat.pow 2 (width.exponent - 1) : Int) - width.fraction

/-- The pattern of positive infinity; smaller patterns are the finite numbers in order. -/
def Width.infinity (width : Width) : Nat := (Nat.pow 2 width.exponent - 1) * width.fractions

def Width.signBit (width : Width) : Nat := Nat.pow 2 (width.fraction + width.exponent)

structure Magnitude where
  significand : Nat
  exponent : Int
deriving DecidableEq, Repr

def Width.magnitude (width : Width) (pattern : Nat) : Magnitude :=
  let fraction := pattern % width.fractions
  let biased := pattern / width.fractions % Nat.pow 2 width.exponent
  if biased = 0 then ⟨fraction, width.lowest⟩
  else ⟨width.fractions + fraction, width.lowest + biased - 1⟩

def shiftToEven (number shift : Nat) : Nat :=
  let unit := Nat.pow 2 shift
  let quotient := number / unit
  let remainder := number % unit
  if 2 * remainder < unit then quotient
  else if unit < 2 * remainder then quotient + 1
  else quotient + quotient % 2

/-- The pattern nearest to the magnitude, a half to the even neighbour and too large a value to
infinity. The significand is counted in units of the target; one that fills up carries into the
exponent by itself. -/
def Width.nearest (width : Width) (size : Magnitude) : Nat :=
  if size.significand = 0 then 0
  else
    let leading : Int := size.exponent + size.significand.log2
    let unit := max (leading - width.fraction) width.lowest
    let units :=
      if size.exponent < unit then shiftToEven size.significand (unit - size.exponent).toNat
      else size.significand * Nat.pow 2 (size.exponent - unit).toNat
    min ((unit - width.lowest).toNat * width.fractions + units) width.infinity

def nearestSingle (negative : Bool) (size : Magnitude) : Float32 :=
  let pattern := single.nearest size
  Float32.ofBits (UInt32.ofNat (if negative then single.signBit + pattern else pattern))

def singleOfInt (number : Int) : Float32 :=
  nearestSingle (number < 0) ⟨number.natAbs, 0⟩

def singleOfDouble (number : Float) : Float32 :=
  let pattern := number.toBits.toNat
  let unsigned := pattern % double.signBit
  let negative := double.signBit ≤ pattern
  if double.infinity < unsigned then Float32.ofBits 0x7fc00000
  else if unsigned = double.infinity then
    Float32.ofBits (if negative then 0xff800000 else 0x7f800000)
  else nearestSingle negative (double.magnitude unsigned)

def Width.interval (width : Width) (pattern : Nat) : Option Decimal.Interval :=
  let size := width.magnitude pattern
  if size.significand = 0 then none
  else some (.ofBinary size.significand size.exponent
    (size.significand == width.fractions && width.lowest < size.exponent))

structure Specials where
  nan : List Char
  infinity : List Char
  negativeInfinity : List Char

def Width.text (width : Width) (style : Decimal.Style) (specials : Specials) (pattern : Nat) :
    List Char :=
  let unsigned := pattern % width.signBit
  let negative := decide (width.signBit ≤ pattern)
  if width.infinity < unsigned then specials.nan
  else if unsigned = width.infinity then
    if negative then specials.negativeInfinity else specials.infinity
  else style.text negative (width.interval unsigned)

def messageStyle : Decimal.Style := ⟨fun _ => true, [], .up⟩

def messageSpecials : Specials := ⟨"NaN".toList, "inf".toList, "-inf".toList⟩

def messageText (number : Float32) : String :=
  String.ofList (single.text messageStyle messageSpecials number.toBits.toNat)

/-- The larger number, of two equal ones the right one, so that its sign of zero stays; the other
operand when one is not a number. -/
def larger (left right : Float32) : Float32 :=
  if left.isNaN || left ≤ right then right else left

end Plotter.Binary
