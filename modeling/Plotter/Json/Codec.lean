import Plotter.Json.Skip
import Plotter.Json.Value

set_option autoImplicit false

namespace Plotter.Json

structure Codec (α : Type) where
  read : Reader α
  value : α → Value

/-- The fault of a value that is not what was expected. A scalar is read to its end first, and what
is wrong inside it comes before. -/
def mismatch (expected : String) (text : List Char) : Fault :=
  let report (found : Found) (rest : List Char) : Fault := (Cause.wrongType found expected).here rest
  let word (found : Found) : Except Fault (List Char) → Fault
    | .ok rest => report found rest
    | .error fault => fault
  let numeral : Except Fault (Numeral × List Char) → Fault
    | .ok (.natural value, rest) => report (.integer value) rest
    | .ok (.negative value, rest) => report (.integer value) rest
    | .ok (.real value, rest) => report (.real value) rest
    | .error fault => fault
  match text with
  | [] => Cause.endOfValue.here []
  | 'n' :: rest => word .null (readWord ['u', 'l', 'l'] rest)
  | 't' :: rest => word (.boolean true) (readWord ['r', 'u', 'e'] rest)
  | 'f' :: rest => word (.boolean false) (readWord ['a', 'l', 's', 'e'] rest)
  | '"' :: rest =>
    match readString rest with
    | .ok (string, rest) => report (.string string) rest
    | .error fault => fault
  | '[' :: rest => report .sequence ('[' :: rest)
  | '\x7b' :: rest => report .map ('\x7b' :: rest)
  | char :: rest =>
    if char = '-' || char.isDigit then numeral (readNumeral (char :: rest))
    else Cause.expectedValue.past (char :: rest)

def readNumber {α : Type} (expected : String) (take : Numeral → Except Cause α) : Reader α :=
  fun text =>
    match skipGaps text with
    | [] => .error (Cause.endOfValue.here [])
    | char :: rest =>
      if char = '-' || char.isDigit then
        match readNumeral (char :: rest) with
        | .error fault => .error fault
        | .ok (numeral, rest) =>
          match take numeral with
          | .ok value => .ok (value, rest)
          | .error cause => .error (cause.here rest)
      else .error (mismatch expected (char :: rest))

def takeNatural (expected : String) (limit : Nat) : Numeral → Except Cause Nat
  | .natural value =>
    if value < limit then .ok value else .error (.wrongValue (.integer value) expected)
  | .negative value => .error (.wrongValue (.integer value) expected)
  | .real value => .error (.wrongType (.real value) expected)

def natural (expected : String) (limit : Nat) : Codec Nat where
  read := readNumber expected (takeNatural expected limit)
  value := .ofNat

def Codec.convert {α β : Type} (codec : Codec α) (there : α → β) (back : β → α) : Codec β where
  read text :=
    match codec.read text with
    | .ok (content, rest) => .ok (there content, rest)
    | .error fault => .error fault
  value content := codec.value (back content)

def count : Codec Nat := natural "usize" UInt64.size

def word64 : Codec UInt64 := (natural "u64" UInt64.size).convert UInt64.ofNat UInt64.toNat

def size64 : Codec UInt64 := count.convert UInt64.ofNat UInt64.toNat

def word32 : Codec UInt32 := (natural "u32" UInt32.size).convert UInt32.ofNat UInt32.toNat

def takeSingle : Numeral → Except Cause Float32
  | .natural value => .ok (Binary.singleOfInt value)
  | .negative value => .ok (Binary.singleOfInt value)
  | .real value => .ok (Binary.singleOfDouble value)

def single : Codec Float32 where
  read := readNumber "f32" takeSingle
  value := .ofSingle

def boolean : Codec Bool where
  read text :=
    match skipGaps text with
    | [] => .error (Cause.endOfValue.here [])
    | 't' :: rest => (readWord ['r', 'u', 'e'] rest).map (true, ·)
    | 'f' :: rest => (readWord ['a', 'l', 's', 'e'] rest).map (false, ·)
    | rest => .error (mismatch "a boolean" rest)
  value := .boolean

def readText {α : Type} (expected : String) (take : String → Except Cause α) : Reader α :=
  fun text =>
    match skipGaps text with
    | [] => .error (Cause.endOfValue.here [])
    | '"' :: rest =>
      match readString rest with
      | .error fault => .error fault
      | .ok (string, rest) =>
        match take string with
        | .ok value => .ok (value, rest)
        | .error cause => .error (cause.here rest)
    | rest => .error (mismatch expected rest)

def string : Codec String where
  read := readText "a string" .ok
  value := .string

def readNull : Reader Unit :=
  fun text =>
    match skipGaps text with
    | [] => .error (Cause.endOfValue.here [])
    | 'n' :: rest => (readWord ['u', 'l', 'l'] rest).map ((), ·)
    | rest => .error (mismatch "unit" rest)

def Codec.optional {α : Type} (codec : Codec α) : Codec (Option α) where
  read text :=
    match skipGaps text with
    | 'n' :: rest => (readWord ['u', 'l', 'l'] rest).map (none, ·)
    | rest =>
      match codec.read rest with
      | .ok (content, rest) => .ok (some content, rest)
      | .error fault => .error fault
  value
    | none => .null
    | some content => codec.value content

def readItems {α : Type} (read : Reader α) :
    Nat → Bool → List Char → Except Fault (List α × List Char)
  | 0, _, _ => .error (Cause.endOfList.here [])
  | fuel + 1, first, text =>
    match nextItem first text with
    | .error fault => .error fault
    | .ok none => .ok ([], skipGaps text)
    | .ok (some text) =>
      match read text with
      | .error fault => .error fault
      | .ok (item, rest) =>
        match readItems read fuel false rest with
        | .error fault => .error fault
        | .ok (items, rest) => .ok (item :: items, rest)

def Codec.list {α : Type} (codec : Codec α) : Codec (List α) where
  read text :=
    match skipGaps text with
    | [] => .error (Cause.endOfValue.here [])
    | '[' :: rest => closing closeList afterList (readItems codec.read (rest.length + 1) true rest)
    | rest => .error (mismatch "a sequence" rest)
  value items := .list (items.map codec.value)

def Codec.parse {α : Type} (codec : Codec α) (text : String) : Except Failure α :=
  let fail (fault : Fault) : Failure := fault.within text.toList
  match codec.read text.toList with
  | .error fault => .error (fail fault)
  | .ok (content, rest) =>
    match skipGaps rest with
    | [] => .ok content
    | rest => .error (fail (Cause.trailingCharacters.past rest))

def Codec.write {α : Type} (codec : Codec α) (layout : Layout) (content : α) : String :=
  (codec.value content).text layout

end Plotter.Json
