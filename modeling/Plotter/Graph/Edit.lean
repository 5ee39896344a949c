import Plotter.Graph.Basic

set_option autoImplicit false

namespace Plotter.Graph

inductive Edit where
  | push (expression : String)
  | insert (index : Nat) (expression : String)
  | remove (index : Nat)
  | setExpression (index : Nat) (expression : String)
  | toggleDisabled (index : Nat)
  | toggleAnimate
  | rename (name : String)
  | describe (description : String)
deriving DecidableEq, Repr

inductive Answer where
  | done
  | index (value : Nat)
  | removed (equation : Equation)
  | flag (value : Bool)
deriving DecidableEq, Repr

def edit (graph : Graph) : Edit → Except Defect (Answer × Graph)
  | .push expression =>
    match graph.push expression with
    | .ok (index, graph) => .ok (.index index, graph)
    | .error defect => .error defect
  | .insert index expression =>
    match graph.insert index expression with
    | .ok graph => .ok (.done, graph)
    | .error defect => .error defect
  | .remove index =>
    match graph.remove index with
    | .ok (equation, graph) => .ok (.removed equation, graph)
    | .error defect => .error defect
  | .setExpression index expression =>
    match graph.setExpression index expression with
    | .ok graph => .ok (.done, graph)
    | .error defect => .error defect
  | .toggleDisabled index =>
    match graph.toggleDisabled index with
    | .ok (flag, graph) => .ok (.flag flag, graph)
    | .error defect => .error defect
  | .toggleAnimate => .ok (.done, graph.toggleAnimate)
  | .rename name => .ok (.done, { graph with name := name })
  | .describe description => .ok (.done, { graph with description := description })

def after (graph : Graph) (change : Edit) : Graph :=
  match graph.edit change with
  | .ok (_, graph) => graph
  | .error _ => graph

end Plotter.Graph
