import Plotter.Json.Numeral
import Plotter.Json.Quotation

set_option autoImplicit false

namespace Plotter.Json

inductive Bracket where
  | list
  | object
deriving DecidableEq, Repr

def skipHead (text : List Char) : Except Fault (Option Bracket × List Char) :=
  match text with
  | [] => .error (Cause.endOfValue.here [])
  | 'n' :: rest => (readWord ['u', 'l', 'l'] rest).map (none, ·)
  | 't' :: rest => (readWord ['r', 'u', 'e'] rest).map (none, ·)
  | 'f' :: rest => (readWord ['a', 'l', 's', 'e'] rest).map (none, ·)
  | '"' :: rest => (skipString rest).map (none, ·)
  | '-' :: rest => (skipUnsigned rest).map (none, ·)
  | '[' :: rest => .ok (some .list, rest)
  | '\x7b' :: rest => .ok (some .object, rest)
  | char :: rest =>
    if char.isDigit then (skipUnsigned (char :: rest)).map (none, ·)
    else .error (Cause.expectedValue.past (char :: rest))

/-- Closes as many of the open brackets as the text does. `after` says that a value has just ended,
so that a comma may follow; otherwise a bracket has just been opened. What stays open is given back
with the text at the next item. -/
def skipClosing : Bool → List Bracket → List Char → Except Fault (List Bracket × List Char)
  | _, [], text => .ok ([], text)
  | after, .list :: outer, text =>
    match skipGaps text with
    | [] => .error (Cause.endOfList.here [])
    | char :: rest =>
      if char = ']' then skipClosing true outer rest
      else if !after then .ok (.list :: outer, char :: rest)
      else if char = ',' then .ok (.list :: outer, rest)
      else .error (Cause.expectedListEnd.past (char :: rest))
  | after, .object :: outer, text =>
    match skipGaps text with
    | [] => .error (Cause.endOfObject.here [])
    | char :: rest =>
      if char = '\x7d' then skipClosing true outer rest
      else if !after then .ok (.object :: outer, char :: rest)
      else if char = ',' then .ok (.object :: outer, rest)
      else .error (Cause.expectedObjectEnd.past (char :: rest))

def skipKey (text : List Char) : Except Fault (List Char) :=
  match skipGaps text with
  | [] => .error (Cause.endOfObject.here [])
  | '"' :: rest =>
    match skipString rest with
    | .error fault => .error fault
    | .ok rest => readColon rest
  | rest => .error (Cause.keyNotString.past rest)

def skipItem (outer : List Bracket) (text : List Char) : Except Fault (List Bracket × List Char) :=
  match skipHead (skipGaps text) with
  | .error fault => .error fault
  | .ok (some bracket, rest) => skipClosing false (bracket :: outer) rest
  | .ok (none, rest) => skipClosing true outer rest

def settle (next : List Bracket → List Char → Except Fault (List Char)) :
    Except Fault (List Bracket × List Char) → Except Fault (List Char)
  | .error fault => .error fault
  | .ok ([], rest) => .ok rest
  | .ok (.list :: outer, rest) => next (.list :: outer) rest
  | .ok (.object :: outer, rest) => (skipKey rest).bind (next (.object :: outer))

def skipOpen : Nat → List Bracket → List Char → Except Fault (List Char)
  | 0, _, _ => .error (Cause.endOfValue.here [])
  | fuel + 1, outer, text => settle (skipOpen fuel) (skipItem outer text)

def skipValue (text : List Char) : Except Fault (List Char) :=
  -- each value takes a character, and an empty text is looked at once
  skipOpen (text.length + 1) [] text

end Plotter.Json
