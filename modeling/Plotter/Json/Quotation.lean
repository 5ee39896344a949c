import Plotter.Json.Scan

set_option autoImplicit false

namespace Plotter.Json

def hexValue (char : Char) : Option Nat :=
  if char.isDigit then some (char.toNat - 48)
  else if 'a' ≤ char ∧ char ≤ 'f' then some (char.toNat - 87)
  else if 'A' ≤ char ∧ char ≤ 'F' then some (char.toNat - 55)
  else none

def hexNumber (number : Nat) : List Char → Option Nat
  | [] => some number
  | char :: rest =>
    match hexValue char with
    | some digit => hexNumber (number * 16 + digit) rest
    | none => none

def readHex (text : List Char) : Except Fault (Nat × List Char) :=
  let digits := text.take 4
  if byteLength digits < 4 then .error (Cause.endOfString.here [])
  else
    match hexNumber 0 digits with
    | some number => .ok (number, text.drop 4)
    -- four bytes are taken, whatever they are
    | none => .error (.placed .invalidEscape ⟨text, 4⟩)

def isLeading (unit : Nat) : Bool := 0xd800 ≤ unit && unit ≤ 0xdbff

def isTrailing (unit : Nat) : Bool := 0xdc00 ≤ unit && unit ≤ 0xdfff

def joinSurrogates (leading trailing : Nat) : Char :=
  Char.ofNat (0x10000 + (leading - 0xd800) * 0x400 + (trailing - 0xdc00))

def readPairMark (mark : Char) : List Char → Except Fault (List Char)
  | [] => .error (Cause.endOfString.here [])
  | char :: rest =>
    if char = mark then .ok rest else .error (Cause.brokenSurrogatePair.past (char :: rest))

def readTrailing (leading : Nat) (text : List Char) : Except Fault (Char × List Char) := do
  let text ← readPairMark '\\' text
  let text ← readPairMark 'u' text
  let (unit, rest) ← readHex text
  if isTrailing unit then .ok (joinSurrogates leading unit, rest)
  else .error (Cause.loneSurrogate.here rest)

def readUnicode (text : List Char) : Except Fault (Char × List Char) := do
  let (unit, rest) ← readHex text
  if isTrailing unit then .error (Cause.loneSurrogate.here rest)
  else if isLeading unit then readTrailing unit rest
  else .ok (Char.ofNat unit, rest)

def shortEscape : Char → Option Char
  | '"' => some '"'
  | '\\' => some '\\'
  | '/' => some '/'
  | 'b' => some '\x08'
  | 'f' => some '\x0c'
  | 'n' => some '\n'
  | 'r' => some '\r'
  | 't' => some '\t'
  | _ => none

def readEscape : List Char → Except Fault (Char × List Char)
  | [] => .error (Cause.endOfString.here [])
  | char :: rest =>
    if char = 'u' then readUnicode rest
    else
      match shortEscape char with
      | some meant => .ok (meant, rest)
      | none => .error (Cause.invalidEscape.past (char :: rest))

/-- Every step takes a character, so as much fuel as there are characters is enough. -/
def readChars : Nat → List Char → Except Fault (List Char × List Char)
  | 0, _ => .error (Cause.endOfString.here [])
  | _ + 1, [] => .error (Cause.endOfString.here [])
  | fuel + 1, char :: rest =>
    if char = '"' then .ok ([], rest)
    else if char = '\\' then
      match readEscape rest with
      | .error fault => .error fault
      | .ok (meant, rest) =>
        match readChars fuel rest with
        | .error fault => .error fault
        | .ok (chars, rest) => .ok (meant :: chars, rest)
    else if char.toNat < 0x20 then .error (Cause.controlCharacter.past (char :: rest))
    else
      match readChars fuel rest with
      | .error fault => .error fault
      | .ok (chars, rest) => .ok (char :: chars, rest)

def readString (text : List Char) : Except Fault (String × List Char) :=
  match readChars text.length text with
  | .error fault => .error fault
  | .ok (chars, rest) => .ok (String.ofList chars, rest)

def skipChars : Nat → List Char → Except Fault (List Char)
  | 0, _ => .error (Cause.endOfString.here [])
  | _ + 1, [] => .error (Cause.endOfString.here [])
  | fuel + 1, char :: rest =>
    if char = '"' then .ok rest
    else if char = '\\' then
      match rest with
      | [] => .error (Cause.endOfString.here [])
      | 'u' :: rest =>
        match readHex rest with
        | .error fault => .error fault
        | .ok (_, rest) => skipChars fuel rest
      | letter :: more =>
        if (shortEscape letter).isSome then skipChars fuel more
        else .error (Cause.invalidEscape.past rest)
    else if char.toNat < 0x20 then .error (Cause.controlCharacter.here (char :: rest))
    else skipChars fuel rest

def skipString (text : List Char) : Except Fault (List Char) := skipChars text.length text

end Plotter.Json
