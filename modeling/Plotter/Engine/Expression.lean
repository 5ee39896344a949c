import Plotter.Text.Blank

set_option autoImplicit false

namespace Plotter.Expression

inductive Flaw where
  | empty
  | unexpectedClose
  | unclosed
deriving DecidableEq, Repr

def Flaw.message : Flaw → String
  | .empty => "empty expression"
  | .unexpectedClose => "unexpected `)`"
  | .unclosed => "unclosed `(`"

def follow (depth : Int32) (char : Char) : Except Flaw Int32 :=
  if char = '(' then .ok (depth + 1)
  else if char = ')' then
    if depth - 1 < 0 then .error .unexpectedClose else .ok (depth - 1)
  else .ok depth

def depthAfter (text : List Char) : Except Flaw Int32 := text.foldlM follow 0

def flaw (expression : String) : Option Flaw :=
  if expression.toList.all Text.isBlank then some .empty
  else
    match depthAfter expression.toList with
    | .error flaw => some flaw
    | .ok depth => if depth = 0 then none else some .unclosed

end Plotter.Expression
