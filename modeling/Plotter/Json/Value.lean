import Plotter.Binary

set_option autoImplicit false

namespace Plotter.Json

inductive Value where
  | null
  | boolean (value : Bool)
  | number (literal : List Char)
  | string (text : String)
  | list (items : List Value)
  | object (members : List (String × Value))

structure Layout where
  lineBreak : Nat → List Char
  afterColon : List Char

def compact : Layout := ⟨fun _ => [], []⟩

def pretty : Layout := ⟨fun depth => '\n' :: List.replicate (2 * depth) ' ', [' ']⟩

def hexDigit (number : Nat) : Char := Nat.digitChar (number % 16)

def escapedChar (char : Char) : List Char :=
  if char = '"' ∨ char = '\\' then ['\\', char]
  else if char = '\x08' then ['\\', 'b']
  else if char = '\t' then ['\\', 't']
  else if char = '\n' then ['\\', 'n']
  else if char = '\x0c' then ['\\', 'f']
  else if char = '\r' then ['\\', 'r']
  else if char.toNat < 0x20 then
    ['\\', 'u', '0', '0', hexDigit (char.toNat / 16), hexDigit char.toNat]
  else [char]

def stringText (text : String) : List Char :=
  '"' :: (text.toList.flatMap escapedChar ++ ['"'])

mutual
def Value.render (layout : Layout) (depth : Nat) : Value → List Char
  | .null => ['n', 'u', 'l', 'l']
  | .boolean true => ['t', 'r', 'u', 'e']
  | .boolean false => ['f', 'a', 'l', 's', 'e']
  | .number literal => literal
  | .string text => stringText text
  | .list [] => ['[', ']']
  | .list (item :: items) =>
    '[' :: (layout.lineBreak (depth + 1) ++ item.render layout (depth + 1) ++
      renderItems layout (depth + 1) items ++ layout.lineBreak depth ++ [']'])
  | .object [] => ['\x7b', '\x7d']
  | .object ((name, value) :: members) =>
    '\x7b' :: (layout.lineBreak (depth + 1) ++ stringText name ++ ':' :: layout.afterColon ++
      value.render layout (depth + 1) ++ renderMembers layout (depth + 1) members ++
      layout.lineBreak depth ++ ['\x7d'])
def renderItems (layout : Layout) (depth : Nat) : List Value → List Char
  | [] => []
  | item :: items =>
    ',' :: (layout.lineBreak depth ++ item.render layout depth ++ renderItems layout depth items)
def renderMembers (layout : Layout) (depth : Nat) : List (String × Value) → List Char
  | [] => []
  | (name, value) :: members =>
    ',' :: (layout.lineBreak depth ++ stringText name ++ ':' :: layout.afterColon ++
      value.render layout depth ++ renderMembers layout depth members)
end

def Value.text (layout : Layout) (value : Value) : String := String.ofList (value.render layout 0)

def singleStyle : Decimal.Style := ⟨fun first => -6 ≤ first && first ≤ 12, ['.', '0'], .even⟩

def singleText (number : Float32) : List Char :=
  Binary.single.text singleStyle Binary.messageSpecials number.toBits.toNat

def Value.ofSingle (number : Float32) : Value :=
  if number.isFinite then .number (singleText number) else .null

def Value.ofNat (number : Nat) : Value := .number (Nat.toDigits 10 number)

end Plotter.Json
