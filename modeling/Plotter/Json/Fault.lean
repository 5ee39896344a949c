import Plotter.Binary
import Plotter.Text.Quoted

/-!
What can be wrong with a document, and where. A reader consumes characters from the front, so a
place is the text that is still unread, and a line and column are counted only for the message.
-/

set_option autoImplicit false

namespace Plotter.Json

inductive Found where
  | null
  | boolean (value : Bool)
  | integer (value : Int)
  | real (value : Float)
  | string (value : String)
  | sequence
  | map
  | unitVariant
deriving DecidableEq

def realStyle : Decimal.Style := ⟨fun first => -5 ≤ first && first ≤ 15, ['.', '0'], .even⟩

def Found.text : Found → String
  | .null => "null"
  | .boolean true => "boolean `true`"
  | .boolean false => "boolean `false`"
  | .integer value => "integer `" ++ toString value ++ "`"
  | .real value =>
    "floating point `" ++ String.ofList
      (Binary.double.text realStyle Binary.messageSpecials value.toBits.toNat) ++ "`"
  | .string value => "string " ++ Text.quoted value
  | .sequence => "sequence"
  | .map => "map"
  | .unitVariant => "unit variant"

inductive Cause where
  | endOfValue
  | endOfList
  | endOfObject
  | endOfString
  | expectedColon
  | expectedListEnd
  | expectedObjectEnd
  | expectedWord
  | expectedValue
  | invalidEscape
  | invalidNumber
  | numberOutOfRange
  | controlCharacter
  | keyNotString
  | loneSurrogate
  | brokenSurrogatePair
  | trailingComma
  | trailingCharacters
  | missingField (name : String)
  | duplicateField (name : String)
  | wrongLength (count : Nat) (expected : String)
  | wrongType (found : Found) (expected : String)
  | wrongValue (found : Found) (expected : String)
  | unknownVariant (name : String) (known : List String)
  | refused (reason : String)
deriving DecidableEq

def alternatives (names : List String) : String :=
  match names.map fun name => "`" ++ name ++ "`" with
  | [only] => only
  | [first, second] => first ++ " or " ++ second
  | several => "one of " ++ ", ".intercalate several

def Cause.message : Cause → String
  | .endOfValue => "EOF while parsing a value"
  | .endOfList => "EOF while parsing a list"
  | .endOfObject => "EOF while parsing an object"
  | .endOfString => "EOF while parsing a string"
  | .expectedColon => "expected `:`"
  | .expectedListEnd => "expected `,` or `]`"
  | .expectedObjectEnd => "expected `,` or `\x7d`"
  | .expectedWord => "expected ident"
  | .expectedValue => "expected value"
  | .invalidEscape => "invalid escape"
  | .invalidNumber => "invalid number"
  | .numberOutOfRange => "number out of range"
  | .controlCharacter => "control character (\\u0000-\\u001F) found while parsing a string"
  | .keyNotString => "key must be a string"
  | .loneSurrogate => "lone leading surrogate in hex escape"
  | .brokenSurrogatePair => "unexpected end of hex escape"
  | .trailingComma => "trailing comma"
  | .trailingCharacters => "trailing characters"
  | .missingField name => "missing field `" ++ name ++ "`"
  | .duplicateField name => "duplicate field `" ++ name ++ "`"
  | .wrongLength count expected =>
    "invalid length " ++ toString count ++ ", expected " ++ expected
  | .wrongType found expected => "invalid type: " ++ found.text ++ ", expected " ++ expected
  | .wrongValue found expected => "invalid value: " ++ found.text ++ ", expected " ++ expected
  | .unknownVariant name known =>
    "unknown variant `" ++ name ++ "`, expected " ++ alternatives known
  | .refused reason => reason

structure Place where
  rest : List Char
  ahead : Nat
deriving DecidableEq

/-- A floating fault has no place yet: the list or object around it gives it the place where it
stands after trying to close. -/
inductive Fault where
  | placed (cause : Cause) (place : Place)
  | floating (cause : Cause) (rest : List Char)
deriving DecidableEq

def Cause.here (cause : Cause) (rest : List Char) : Fault := .placed cause ⟨rest, 0⟩

def Cause.past (cause : Cause) (rest : List Char) : Fault := .placed cause ⟨rest, 1⟩

def byteLength : List Char → Nat
  | [] => 0
  | char :: rest => char.utf8Size + byteLength rest

structure Position where
  line : Nat
  column : Nat
deriving DecidableEq, Repr

def Position.advance (start : Position) (bytes : Nat) : List Char → Position
  | [] => start
  | char :: rest =>
    if bytes < char.utf8Size then { start with column := start.column + bytes }
    else
      let next : Position :=
        if char = '\n' then ⟨start.line + 1, 0⟩ else ⟨start.line, start.column + char.utf8Size⟩
      next.advance (bytes - char.utf8Size) rest

def Place.position (place : Place) (text : List Char) : Position :=
  let unread := byteLength place.rest
  Position.advance ⟨1, 0⟩ (byteLength text - unread + min place.ahead unread) text

structure Failure where
  cause : Cause
  position : Option Position
deriving DecidableEq

def Failure.message (failure : Failure) : String :=
  match failure.position with
  | none => failure.cause.message
  | some position =>
    failure.cause.message ++ " at line " ++ toString position.line ++ " column " ++
      toString position.column

def Fault.within (text : List Char) : Fault → Failure
  | .placed cause place => ⟨cause, some (place.position text)⟩
  | .floating cause _ => ⟨cause, none⟩

end Plotter.Json
