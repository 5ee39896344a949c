import Plotter.Decimal.Shortest

set_option autoImplicit false

namespace Plotter.Decimal

structure Style where
  positional : Int → Bool
  wholeEnd : List Char
  tie : Tie

def positionalText (wholeEnd digits : List Char) (first : Int) : List Char :=
  if first < 0 then
    '0' :: '.' :: (List.replicate (-first - 1).toNat '0' ++ digits)
  else
    let whole := (first + 1).toNat
    let fraction := digits.drop whole
    let padded := digits.take whole ++ List.replicate (whole - digits.length) '0'
    if fraction.isEmpty then padded ++ wholeEnd else padded ++ '.' :: fraction

def scientificText (digits : List Char) (first : Int) : List Char :=
  let fraction := digits.drop 1
  let mantissa := digits.take 1 ++ if fraction.isEmpty then [] else '.' :: fraction
  let sign := if first < 0 then '-' else '+'
  mantissa ++ 'e' :: sign :: Nat.toDigits 10 first.natAbs

def Style.unsignedText (style : Style) (number : Scaled) : List Char :=
  let digits := Nat.toDigits 10 number.digits
  let first := number.power + digits.length - 1
  if style.positional first then positionalText style.wholeEnd digits first
  else scientificText digits first

def Style.text (style : Style) (negative : Bool) (magnitude : Option Interval) : List Char :=
  let unsigned :=
    match magnitude with
    | none => '0' :: style.wholeEnd
    | some range => style.unsignedText (shortest style.tie range)
  if negative then '-' :: unsigned else unsigned

end Plotter.Decimal
