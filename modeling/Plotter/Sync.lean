import Plotter.Engine.Pool
import Plotter.Graph.Basic

set_option autoImplicit false

namespace Plotter

def Graph.payload (graph : Graph) : List Formula :=
  graph.equations.map fun equation => ⟨equation.disabled, equation.expression⟩

def Rig.load (rig : Rig) (graph : Graph) : Except EngineFault Unit × Rig :=
  match rig.setAnimationEnabled graph.animate with
  | (.error fault, rig) => (.error fault, rig)
  | (.ok _, rig) => rig.setEquations graph.payload

def Pool.sync (pool : Pool) (handle : Handle) (graph : Graph) : Except Error Unit × Pool :=
  match graph.validateIndices with
  | .error defect => (.error (.invalidData defect), pool)
  | .ok _ =>
    match pool.withEngine handle fun rig => rig.load graph with
    | none => (.error handle.stale, pool)
    | some (.error fault, pool) => (.error (.sync fault), pool)
    | some (.ok _, pool) => (.ok (), pool)

def Viewport.resize (recorded : Viewport) (pool : Pool) (handle : Handle) (viewport : Viewport) :
    Except Error Unit × Viewport × Pool :=
  if !viewport.isValid then (.error (.invalidViewport viewport), recorded, pool)
  else
    match pool.withEngine handle fun rig => ((), rig.setViewport viewport) with
    | none => (.error handle.stale, viewport, pool)
    | some (_, pool) => (.ok (), viewport, pool)

end Plotter
