import Plotter.Error

set_option autoImplicit false

namespace Plotter

structure Equation where
  index : Nat
  expression : String
  disabled : Bool
deriving DecidableEq, Repr

structure Graph where
  name : String
  description : String
  animate : Bool
  equations : List Equation
deriving DecidableEq, Repr

def restrictedCharacters : List Char := ['\x08', '\n', '"', '\x27', ':']

def validateExpression (expression : String) : Except Defect Unit :=
  match expression.toList.find? restrictedCharacters.contains with
  | some char => .error (.restrictedCharacter char)
  | none => .ok ()

namespace Graph

def create (name : String) : Graph := ⟨name, "", false, []⟩

def standard : Graph :=
  { create "grapher-3d" with equations := [⟨0, "f(x)=x", false⟩] }

def size (graph : Graph) : Nat := graph.equations.length

def reindex (start : Nat) (equations : List Equation) : List Equation :=
  equations.mapIdx fun position equation =>
    if position < start then equation else { equation with index := position }

def push (graph : Graph) (expression : String) : Except Defect (Nat × Graph) :=
  match validateExpression expression with
  | .error defect => .error defect
  | .ok _ =>
    let equation : Equation := ⟨graph.size, expression, false⟩
    .ok (graph.size, { graph with equations := graph.equations ++ [equation] })

def insert (graph : Graph) (index : Nat) (expression : String) : Except Defect Graph :=
  if graph.size < index then .error (.equationOutOfBounds index graph.size)
  else
    match validateExpression expression with
    | .error defect => .error defect
    | .ok _ =>
      let equations := graph.equations.insertIdx index ⟨index, expression, false⟩
      .ok { graph with equations := reindex index equations }

def remove (graph : Graph) (index : Nat) : Except Defect (Equation × Graph) :=
  match graph.equations[index]? with
  | none => .error (.equationOutOfBounds index graph.size)
  | some removed =>
    .ok (removed, { graph with equations := reindex index (graph.equations.eraseIdx index) })

def toggleDisabled (graph : Graph) (index : Nat) : Except Defect (Bool × Graph) :=
  match graph.equations[index]? with
  | none => .error (.equationMissing index)
  | some equation =>
    let flipped := { equation with disabled := !equation.disabled }
    .ok (flipped.disabled, { graph with equations := graph.equations.set index flipped })

def setExpression (graph : Graph) (index : Nat) (expression : String) : Except Defect Graph :=
  match validateExpression expression with
  | .error defect => .error defect
  | .ok _ =>
    match graph.equations[index]? with
    | none => .error (.equationOutOfBounds index graph.size)
    | some equation =>
      let changed := { equation with expression := expression }
      .ok { graph with equations := graph.equations.set index changed }

def toggleAnimate (graph : Graph) : Graph := { graph with animate := !graph.animate }

def misplaced : Nat → List Equation → Option (Nat × Nat)
  | _, [] => none
  | position, equation :: rest =>
    if equation.index = position then misplaced (position + 1) rest
    else some (position, equation.index)

def validateIndices (graph : Graph) : Except Defect Unit :=
  match misplaced 0 graph.equations with
  | some (position, index) => .error (.equationMisplaced position index)
  | none => .ok ()

end Graph

end Plotter
