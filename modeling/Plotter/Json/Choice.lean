import Plotter.Json.Record

set_option autoImplicit false

namespace Plotter.Json

structure Variant (α : Type) where
  name : String
  plain : Option α
  content : Reader α

def Variant.unit {α : Type} (name : String) (value : α) : Variant α where
  name := name
  plain := some value
  content text :=
    match readNull text with
    | .ok (_, rest) => .ok (value, rest)
    | .error fault => .error fault

def Variant.record {α : Type} {αs : List Type} (choice name : String) (fields : Fields αs)
    (make : Row αs → α) : Variant α where
  name := name
  plain := none
  content text :=
    match fields.read ("struct variant " ++ choice ++ "::" ++ name) text with
    | .ok (row, rest) => .ok (make row, rest)
    | .error fault => .error fault

def readVariant {α : Type} (variants : List (Variant α)) : Reader (Variant α) :=
  fun text =>
    match readString text with
    | .error fault => .error fault
    | .ok (name, rest) =>
      match variants.find? fun variant => variant.name = name with
      | some variant => .ok (variant, rest)
      | none =>
        .error ((Cause.unknownVariant name (variants.map Variant.name)).here rest)

def closeVariant {α : Type} (value : α) (text : List Char) : Except Fault (α × List Char) :=
  match skipGaps text with
  | [] => .error (Cause.endOfObject.here [])
  | '\x7d' :: rest => .ok (value, rest)
  | rest => .error (Cause.expectedValue.here rest)

def readTagged {α : Type} (variants : List (Variant α)) : Reader α :=
  fun text =>
    match skipGaps text with
    | [] => .error (Cause.endOfObject.here [])
    | '"' :: rest =>
      match readVariant variants rest with
      | .error fault => .error fault
      | .ok (variant, rest) =>
        match readColon rest with
        | .error fault => .error fault
        | .ok rest =>
          match variant.content rest with
          | .error fault => .error fault
          | .ok (value, rest) => closeVariant value rest
    | '\x7d' :: rest => .error (Cause.expectedValue.past ('\x7d' :: rest))
    | rest => .error (Cause.keyNotString.past rest)

def readChoice {α : Type} (variants : List (Variant α)) : Reader α :=
  fun text =>
    match skipGaps text with
    | [] => .error (Cause.endOfValue.here [])
    | '"' :: rest =>
      match readVariant variants rest with
      | .error fault => .error fault
      | .ok (variant, rest) =>
        match variant.plain with
        | some value => .ok (value, rest)
        | none => .error (.floating (.wrongType .unitVariant "struct variant") rest)
    | '\x7b' :: rest => readTagged variants rest
    | rest => .error (Cause.expectedValue.past rest)

def Value.tagged (name : String) (content : Value) : Value := .object [(name, content)]

end Plotter.Json
