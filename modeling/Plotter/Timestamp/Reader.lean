import Plotter.Json.Codec
import Plotter.Text.Blank
import Plotter.Timestamp.Basic

set_option autoImplicit false

namespace Plotter.Timestamp

inductive Flaw where
  | outOfRange
  | impossible
  | invalid
  | tooShort
  | tooLong
deriving DecidableEq, Repr

def Flaw.message : Flaw → String
  | .outOfRange => "input is out of range"
  | .impossible => "no possible date and time matching input"
  | .invalid => "input contains invalid characters"
  | .tooShort => "premature end of input"
  | .tooLong => "trailing input"

def numberLimit : Nat := 9223372036854775807

def moreDigits : Nat → Nat → List Char → Except Flaw (Nat × List Char)
  | 0, number, text => .ok (number, text)
  | _ + 1, number, [] => .ok (number, [])
  | most + 1, number, char :: rest =>
    if !char.isDigit then .ok (number, char :: rest)
    else if numberLimit < number * 10 + Json.digitValue char then .error .outOfRange
    else moreDigits most (number * 10 + Json.digitValue char) rest

def readDigits (most : Nat) (text : List Char) : Except Flaw (Nat × List Char) :=
  match text with
  | [] => .error .tooShort
  | char :: _ => if char.isDigit then moreDigits most 0 text else .error .invalid

def readTwoDigits (least most : Nat) (text : List Char) : Except Flaw (Nat × List Char) := do
  let (number, rest) ← readDigits 2 (Text.trimStart text)
  if least ≤ number ∧ number ≤ most then .ok (number, rest) else .error .outOfRange

def readYear (text : List Char) : Except Flaw (Int × List Char) := do
  let (negative, most, text) :=
    match Text.trimStart text with
    | '-' :: rest => (true, rest.length, rest)
    | '+' :: rest => (false, rest.length, rest)
    | text => (false, 4, text)
  let (number, rest) ← readDigits most text
  let year : Int := if negative then -(number : Int) else number
  if -2147483648 ≤ year ∧ year < 2147483648 then .ok (year, rest) else .error .outOfRange

def readMark (mark : Char) (text : List Char) : Except Flaw (List Char) :=
  match Text.trimStart text with
  | [] => .error .tooShort
  | char :: rest => if char = mark then .ok rest else .error .invalid

def readDate (text : List Char) : Except Flaw (Date × List Char) := do
  let (year, text) ← readYear text
  let text ← readMark '-' text
  let (month, text) ← readTwoDigits 1 12 text
  let text ← readMark '-' text
  let (day, text) ← readTwoDigits 1 31 text
  .ok (⟨year, month, day⟩, text)

def readFraction (text : List Char) : Except Flaw (Nat × List Char) :=
  match text with
  | '.' :: rest => do
    let (number, after) ← readDigits 9 rest
    .ok (number * Nat.pow 10 (9 - (rest.length - after.length)), after.dropWhile Char.isDigit)
  | text => .ok (0, text)

def readTime (text : List Char) : Except Flaw ((Nat × Nat) × List Char) := do
  let (hour, text) ← readTwoDigits 0 23 text
  let text ← readMark ':' text
  let (minute, text) ← readTwoDigits 0 59 text
  let text ← readMark ':' text
  let (second, text) ← readTwoDigits 0 60 text
  let (nanoseconds, text) ← readFraction text
  let leap := if second = 60 then 1000000000 else 0
  .ok ((hour * 3600 + minute * 60 + min second 59, leap + nanoseconds), Text.trimStart text)

def readPair (text : List Char) : Except Flaw (Nat × List Char) :=
  if Json.byteLength (text.take 2) < 2 then .error .tooShort
  else
    match text with
    | tens :: ones :: rest =>
      if tens.isDigit && ones.isDigit then
        .ok (Json.digitValue tens * 10 + Json.digitValue ones, rest)
      else .error .invalid
    | _ => .error .invalid

def readSign : List Char → Except Flaw (Bool × List Char)
  | [] => .error .tooShort
  | '+' :: rest => .ok (false, rest)
  | '-' :: rest => .ok (true, rest)
  | '−' :: rest => .ok (true, rest)
  | _ :: _ => .error .invalid

def readSignedOffset (text : List Char) : Except Flaw (Int × List Char) := do
  let (west, text) ← readSign text
  let (hours, text) ← readPair text
  let text := text.dropWhile fun char => char = ':' || Text.isBlank char
  let (minutes, text) ← readPair text
  if 59 < minutes then .error .outOfRange
  else
    let seconds : Int := hours * 3600 + minutes * 60
    .ok (if west then -seconds else seconds, text)

def readOffset (text : List Char) : Except Flaw (Int × List Char) :=
  match text with
  | 'Z' :: rest => .ok (0, rest)
  | 'z' :: rest => .ok (0, rest)
  | text =>
    if (text.take 3).map Char.toUpper = ['U', 'T', 'C'] then .ok (0, text.drop 3)
    else readSignedOffset text

def readSeparator : List Char → Except Flaw (List Char)
  | [] => .error .tooShort
  | 'T' :: rest => .ok rest
  | 't' :: rest => .ok rest
  | ' ' :: rest => .ok rest
  | _ :: _ => .error .invalid

def ofLocal (date : Date) (seconds nanoseconds : Nat) (offset : Int) : Except Flaw Timestamp :=
  let moved : Int := seconds - offset
  let day := if moved < 0 then date.previous else if 86400 ≤ moved then date.next else date
  if day.isReal then .ok ⟨day, (moved % 86400).toNat, nanoseconds⟩ else .error .impossible

def parse (text : String) : Except Flaw Timestamp := do
  let (date, text) ← readDate text.toList
  let text ← readSeparator text
  let ((seconds, nanoseconds), text) ← readTime text
  let (offset, text) ← readOffset text
  if !(Text.trimStart text).isEmpty then .error .tooLong
  if !date.isReal then .error .outOfRange
  if 86400 ≤ offset.natAbs then .error .outOfRange
  ofLocal date seconds nanoseconds offset

def codec : Json.Codec Timestamp where
  read := Json.readText "an RFC 3339 formatted date and time string" fun text =>
    match parse text with
    | .ok stamp => .ok stamp
    | .error flaw => .error (.refused flaw.message)
  value stamp := .string stamp.text

end Plotter.Timestamp
