import Plotter.Json.Scan

set_option autoImplicit false

namespace Plotter.Json

inductive Numeral where
  | natural (value : Nat)
  | negative (value : Int)
  | real (value : Float)
deriving DecidableEq

def digitValue (char : Char) : Nat := char.toNat - 48

def startsWithDigit : List Char → Bool
  | [] => false
  | char :: _ => char.isDigit

def gatherDigits (limit : Nat) : Nat → List Char → Nat × Nat × List Char
  | number, [] => (number, 0, [])
  | number, char :: rest =>
    if char.isDigit && number * 10 + digitValue char ≤ limit then
      let (total, count, rest) := gatherDigits limit (number * 10 + digitValue char) rest
      (total, count + 1, rest)
    else (number, 0, char :: rest)

def skipDigits (text : List Char) : List Char := text.dropWhile Char.isDigit

def powerOfTen (exponent : Nat) : Float := Float.ofScientific 1 false exponent

def shrink : Nat → Float → Nat → Float
  | 0, number, _ => number
  | steps + 1, number, exponent =>
    if exponent ≤ 308 then number / powerOfTen exponent
    else if number == 0 then number
    else shrink steps (number / powerOfTen 308) (exponent - 308)

def scaledReal (significand : Nat) (exponent : Int) : Option Float :=
  let number := (UInt64.ofNat significand).toFloat
  if exponent < 0 then some (shrink (exponent.natAbs / 308 + 1) number exponent.natAbs)
  else if exponent ≤ 308 then
    let product := number * powerOfTen exponent.toNat
    if product.isInf then none else some product
  else if number == 0 then some number
  else none

def signed (negative : Bool) (number : Float) : Float := if negative then -number else number

def finishReal (negative : Bool) (significand : Nat) (exponent : Int) (rest : List Char) :
    Except Fault (Numeral × List Char) :=
  match scaledReal significand exponent with
  | some number => .ok (.real (signed negative number), rest)
  | none => .error (Cause.numberOutOfRange.here rest)

def exponentLimit : Nat := 2147483647

def readExponentDigits (negative down : Bool) (significand : Nat) (exponent : Int) :
    List Char → Except Fault (Numeral × List Char)
  | [] => .error (Cause.endOfValue.here [])
  | char :: rest =>
    if char.isDigit then
      let (written, _, rest) := gatherDigits exponentLimit (digitValue char) rest
      if startsWithDigit rest then
        if significand ≠ 0 ∧ ¬ down then .error (Cause.numberOutOfRange.past rest)
        else .ok (.real (signed negative 0), skipDigits rest)
      else
        let shift : Int := if down then -(written : Int) else written
        finishReal negative significand (exponent + shift) rest
    else .error (Cause.invalidNumber.past (char :: rest))

def readExponent (negative : Bool) (significand : Nat) (exponent : Int) (text : List Char) :
    Except Fault (Numeral × List Char) :=
  match text with
  | '+' :: rest => readExponentDigits negative false significand exponent rest
  | '-' :: rest => readExponentDigits negative true significand exponent rest
  | rest => readExponentDigits negative false significand exponent rest

def readTail (negative : Bool) (significand : Nat) (exponent : Int) (text : List Char) :
    Except Fault (Numeral × List Char) :=
  match text with
  | 'e' :: rest => readExponent negative significand exponent rest
  | 'E' :: rest => readExponent negative significand exponent rest
  | rest => finishReal negative significand exponent rest

def wordLimit : Nat := UInt64.size - 1

def readFraction (negative : Bool) (significand : Nat) (exponent : Int) (text : List Char) :
    Except Fault (Numeral × List Char) :=
  let (significand, count, rest) := gatherDigits wordLimit significand text
  if startsWithDigit rest then readTail negative significand (exponent - count) (skipDigits rest)
  else if count = 0 then
    if rest.isEmpty then .error (Cause.endOfValue.here []) else .error (Cause.invalidNumber.past rest)
  else readTail negative significand (exponent - count) rest

def wholeNumeral (negative : Bool) (significand : Nat) : Numeral :=
  if negative then
    if significand = 0 ∨ 9223372036854775808 < significand then .real (-(UInt64.ofNat significand).toFloat)
    else .negative (-significand)
  else .natural significand

def readWhole (negative : Bool) (significand : Nat) (text : List Char) :
    Except Fault (Numeral × List Char) :=
  match text with
  | '.' :: rest => readFraction negative significand 0 rest
  | 'e' :: rest => readExponent negative significand 0 rest
  | 'E' :: rest => readExponent negative significand 0 rest
  | rest => .ok (wholeNumeral negative significand, rest)

def readLongTail (negative : Bool) (significand : Nat) (exponent : Int) (text : List Char) :
    Except Fault (Numeral × List Char) :=
  match text with
  | '.' :: rest => readFraction negative significand exponent rest
  | rest => readTail negative significand exponent rest

def readLong (negative : Bool) (significand : Nat) (text : List Char) :
    Except Fault (Numeral × List Char) :=
  -- a digit beyond those that fit only raises the exponent
  readLongTail negative significand (text.length - (skipDigits text).length) (skipDigits text)

def readUnsigned (negative : Bool) (text : List Char) : Except Fault (Numeral × List Char) :=
  match text with
  | [] => .error (Cause.endOfValue.here [])
  | '0' :: rest =>
    if startsWithDigit rest then .error (Cause.invalidNumber.past rest)
    else readWhole negative 0 rest
  | char :: rest =>
    if char.isDigit then
      let (significand, _, rest) := gatherDigits wordLimit (digitValue char) rest
      if startsWithDigit rest then readLong negative significand rest
      else readWhole negative significand rest
    else .error (Cause.invalidNumber.past (char :: rest))

def readNumeral (text : List Char) : Except Fault (Numeral × List Char) :=
  match text with
  | '-' :: rest => readUnsigned true rest
  | rest => readUnsigned false rest

def skipSomeDigits (text : List Char) : Except Fault (List Char) :=
  if startsWithDigit text then .ok (skipDigits text) else .error (Cause.invalidNumber.past text)

def skipExponent (text : List Char) : Except Fault (List Char) :=
  match text with
  | '+' :: rest => skipSomeDigits rest
  | '-' :: rest => skipSomeDigits rest
  | rest => skipSomeDigits rest

def skipTail (text : List Char) : Except Fault (List Char) :=
  match text with
  | 'e' :: rest => skipExponent rest
  | 'E' :: rest => skipExponent rest
  | rest => .ok rest

def skipWholeDigits (text : List Char) : Except Fault (List Char) :=
  match text with
  | '0' :: rest =>
    if startsWithDigit rest then .error (Cause.invalidNumber.past rest) else .ok rest
  | rest => skipSomeDigits rest

def skipWhole (text : List Char) : Except Fault (List Char) :=
  match text with
  | '.' :: rest => (skipSomeDigits rest).bind skipTail
  | rest => skipTail rest

def skipUnsigned (text : List Char) : Except Fault (List Char) :=
  (skipWholeDigits text).bind skipWhole

end Plotter.Json
