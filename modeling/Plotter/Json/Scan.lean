import Plotter.Json.Fault

set_option autoImplicit false

namespace Plotter.Json

abbrev Reader (α : Type) := List Char → Except Fault (α × List Char)

def isGap (char : Char) : Bool := char = ' ' || char = '\n' || char = '\t' || char = '\r'

def skipGaps (text : List Char) : List Char := text.dropWhile isGap

def readWord : List Char → List Char → Except Fault (List Char)
  | [], rest => .ok rest
  | _ :: _, [] => .error (Cause.endOfValue.here [])
  | letter :: word, char :: rest =>
    if char = letter then readWord word rest else .error (Cause.expectedWord.past (char :: rest))

def afterList (text : List Char) : List Char :=
  match skipGaps text with
  | ']' :: rest => rest
  | ',' :: rest => skipGaps rest
  | rest => rest

def closeList (text : List Char) : Except Fault (List Char) :=
  match skipGaps text with
  | [] => .error (Cause.endOfList.here [])
  | ']' :: rest => .ok rest
  | ',' :: rest =>
    match skipGaps rest with
    | ']' :: more => .error (Cause.trailingComma.past (']' :: more))
    | more => .error (Cause.trailingCharacters.past more)
  | rest => .error (Cause.trailingCharacters.past rest)

def afterObject (text : List Char) : List Char :=
  match skipGaps text with
  | '\x7d' :: rest => rest
  | rest => rest

def closeObject (text : List Char) : Except Fault (List Char) :=
  match skipGaps text with
  | [] => .error (Cause.endOfObject.here [])
  | '\x7d' :: rest => .ok rest
  | ',' :: rest => .error (Cause.trailingComma.past (',' :: rest))
  | rest => .error (Cause.trailingCharacters.past rest)

def closing {α : Type} (close : List Char → Except Fault (List Char))
    (after : List Char → List Char) : Except Fault (α × List Char) → Except Fault (α × List Char)
  | .ok (content, rest) =>
    match close rest with
    | .ok rest => .ok (content, rest)
    | .error fault => .error fault
  | .error (.floating cause rest) => .error (cause.here (after rest))
  | .error fault => .error fault

def nextItem (first : Bool) (text : List Char) : Except Fault (Option (List Char)) :=
  match skipGaps text with
  | [] => .error (Cause.endOfList.here [])
  | ']' :: _ => .ok none
  | char :: rest =>
    if first then .ok (some (char :: rest))
    else if char = ',' then
      match skipGaps rest with
      | [] => .error (Cause.endOfValue.here [])
      | ']' :: more => .error (Cause.trailingComma.past (']' :: more))
      | more => .ok (some more)
    else .error (Cause.expectedListEnd.past (char :: rest))

def nextKey (first : Bool) (text : List Char) : Except Fault (Option (List Char)) :=
  let opened : List Char → Except Fault (Option (List Char))
    | [] => .error (Cause.endOfValue.here [])
    | '"' :: rest => .ok (some rest)
    | '\x7d' :: rest => .error (Cause.trailingComma.past ('\x7d' :: rest))
    | rest => .error (Cause.keyNotString.past rest)
  match skipGaps text with
  | [] => .error (Cause.endOfObject.here [])
  | '\x7d' :: _ => .ok none
  | char :: rest =>
    if first then opened (char :: rest)
    else if char = ',' then opened (skipGaps rest)
    else .error (Cause.expectedObjectEnd.past (char :: rest))

def readColon (text : List Char) : Except Fault (List Char) :=
  match skipGaps text with
  | [] => .error (Cause.endOfObject.here [])
  | ':' :: rest => .ok rest
  | rest => .error (Cause.expectedColon.past rest)

end Plotter.Json
