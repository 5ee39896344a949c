import Plotter.Json.Codec

set_option autoImplicit false

namespace Plotter.Json

inductive Absence (α : Type) where
  | fault
  /-- Only an object may leave the field out. -/
  | omitted (value : α)
  | default (value : α)

structure Field (α : Type) where
  name : String
  codec : Codec α
  absence : Absence α := .fault

inductive Fields : List Type → Type 1 where
  | nil : Fields []
  | cons {α : Type} {αs : List Type} (field : Field α) (rest : Fields αs) : Fields (α :: αs)

def Row : List Type → Type
  | [] => Unit
  | α :: αs => α × Row αs

def Slots : List Type → Type
  | [] => Unit
  | α :: αs => Option α × Slots αs

def Slots.empty : (αs : List Type) → Slots αs
  | [] => ()
  | _ :: αs => (none, empty αs)

def Fields.members : {αs : List Type} → Fields αs → Row αs → List (String × Value)
  | _, .nil, _ => []
  | _, .cons field rest, (content, row) => (field.name, field.codec.value content) :: rest.members row

def Fields.readMember : {αs : List Type} → Fields αs → Slots αs → String → Reader (Slots αs)
  | _, .nil, slots, _, text =>
    match readColon text with
    | .error fault => .error fault
    | .ok text => (skipValue text).map (slots, ·)
  | _, .cons field rest, (slot, slots), key, text =>
    if key = field.name then
      match slot with
      | some _ => .error (.floating (.duplicateField field.name) text)
      | none =>
        match readColon text with
        | .error fault => .error fault
        | .ok text =>
          match field.codec.read text with
          | .ok (content, text) => .ok ((some content, slots), text)
          | .error fault => .error fault
    else
      match rest.readMember slots key text with
      | .ok (slots, text) => .ok ((slot, slots), text)
      | .error fault => .error fault

def readMembers {σ : Type} (readMember : σ → String → Reader σ) :
    Nat → Bool → σ → Reader σ
  | 0, _, _, _ => .error (Cause.endOfObject.here [])
  | fuel + 1, first, state, text =>
    match nextKey first text with
    | .error fault => .error fault
    | .ok none => .ok (state, skipGaps text)
    | .ok (some text) =>
      match readString text with
      | .error fault => .error fault
      | .ok (key, text) =>
        match readMember state key text with
        | .error fault => .error fault
        | .ok (state, text) => readMembers readMember fuel false state text

def Fields.complete : {αs : List Type} → Fields αs → Slots αs → Except String (Row αs)
  | _, .nil, _ => .ok ()
  | _, .cons field rest, (slot, slots) =>
    let content : Except String _ :=
      match slot, field.absence with
      | some content, _ => .ok content
      | none, .omitted content => .ok content
      | none, .default content => .ok content
      | none, .fault => .error field.name
    match content with
    | .error name => .error name
    | .ok content =>
      match rest.complete slots with
      | .error name => .error name
      | .ok row => .ok (content, row)

def Fields.readList (expected : String) :
    {αs : List Type} → Fields αs → Nat → Bool → Reader (Row αs)
  | _, .nil, _, _, text => .ok ((), text)
  | _, .cons field rest, position, first, text =>
    match nextItem first text with
    | .error fault => .error fault
    | .ok none =>
      match field.absence with
      | .default content =>
        match rest.readList expected position first text with
        | .ok (row, text) => .ok ((content, row), text)
        | .error fault => .error fault
      | _ => .error (.floating (.wrongLength position expected) (skipGaps text))
    | .ok (some text) =>
      match field.codec.read text with
      | .error fault => .error fault
      | .ok (content, text) =>
        match rest.readList expected (position + 1) false text with
        | .ok (row, text) => .ok ((content, row), text)
        | .error fault => .error fault

def Fields.length : {αs : List Type} → Fields αs → Nat
  | _, .nil => 0
  | _, .cons _ rest => rest.length + 1

def Fields.expectation {αs : List Type} (fields : Fields αs) (kind : String) : String :=
  kind ++ " with " ++ toString fields.length ++
    (if fields.length = 1 then " element" else " elements")

def Fields.readObject {αs : List Type} (fields : Fields αs) : Reader (Row αs) :=
  fun text =>
    match readMembers fields.readMember (text.length + 1) true (Slots.empty αs) text with
    | .error fault => .error fault
    | .ok (slots, text) =>
      match fields.complete slots with
      | .ok row => .ok (row, text)
      | .error name => .error (.floating (.missingField name) text)

def Fields.read {αs : List Type} (fields : Fields αs) (kind : String) : Reader (Row αs) :=
  fun text =>
    match skipGaps text with
    | [] => .error (Cause.endOfValue.here [])
    | '[' :: rest =>
      closing closeList afterList (fields.readList (fields.expectation kind) 0 true rest)
    | '\x7b' :: rest => closing closeObject afterObject (fields.readObject rest)
    | rest => .error (mismatch kind rest)

def Fields.codec {αs : List Type} (fields : Fields αs) (kind : String) : Codec (Row αs) where
  read := fields.read kind
  value row := .object (fields.members row)

def record {α : Type} {αs : List Type} (name : String) (fields : Fields αs)
    (there : Row αs → α) (back : α → Row αs) : Codec α :=
  (fields.codec ("struct " ++ name)).convert there back

end Plotter.Json
