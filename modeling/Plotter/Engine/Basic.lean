import Plotter.Camera.Basic
import Plotter.Engine.Expression
import Plotter.Error

set_option autoImplicit false

namespace Plotter

structure Formula where
  disabled : Bool
  expression : String
deriving DecidableEq, Repr

def Formula.flaw? (formula : Formula) : Option Expression.Flaw :=
  if formula.disabled then none else Expression.flaw formula.expression

inductive Call where
  | start
  | renderFrame
  | setCameraRotation (x y : Float32)
  | setCameraZoom (zoom : Float32)
  | setViewport (viewport : Viewport)
  | setAnimationEnabled (enabled : Bool)
  | setEquations (formulas : List Formula)
  | release
deriving DecidableEq

def Call.isRenderFrame : Call → Bool
  | .renderFrame => true
  | _ => false

abbrev Journal := Array Call

structure Engine where
  camera : Camera
  viewport : Viewport
  animate : Bool
  equations : List String
  frames : UInt64
  renderFault : Option EngineFault
  startFault : Option EngineFault
  animationFault : Option EngineFault
deriving DecidableEq

namespace Engine

def initialCamera : Camera := ⟨0, 0, 8⟩

def create (viewport : Viewport) : Engine where
  camera := initialCamera
  viewport := viewport
  animate := true
  equations := []
  frames := 0
  renderFault := none
  startFault := none
  animationFault := none

end Engine

structure Rig where
  engine : Engine
  journal : Journal
deriving DecidableEq

namespace Rig

def record (rig : Rig) (call : Call) : Rig := { rig with journal := rig.journal.push call }

def outcome : Option EngineFault → Except EngineFault Unit
  | some fault => .error fault
  | none => .ok ()

def start (rig : Rig) : Except EngineFault Unit × Rig :=
  (outcome rig.engine.startFault, rig.record .start)

def renderFrame (rig : Rig) : Except EngineFault Unit × Rig :=
  let rig := rig.record .renderFrame
  match rig.engine.renderFault with
  | some fault => (.error fault, { rig with engine := { rig.engine with renderFault := none } })
  | none => (.ok (), { rig with engine := { rig.engine with frames := rig.engine.frames + 1 } })

def failNextRender (rig : Rig) (message : String) : Rig :=
  { rig with engine := { rig.engine with renderFault := some ⟨message⟩ } }

def setCameraRotation (rig : Rig) (x y : Float32) : Rig :=
  let rig := rig.record (.setCameraRotation x y)
  let camera := { rig.engine.camera with rotationX := x, rotationY := y }
  { rig with engine := { rig.engine with camera := camera } }

def setCameraZoom (rig : Rig) (zoom : Float32) : Rig :=
  let rig := rig.record (.setCameraZoom zoom)
  let camera := { rig.engine.camera with zoom := zoom }
  { rig with engine := { rig.engine with camera := camera } }

def setCamera (rig : Rig) (camera : Camera) : Rig :=
  (rig.setCameraRotation camera.rotationX camera.rotationY).setCameraZoom camera.zoom

def setViewport (rig : Rig) (viewport : Viewport) : Rig :=
  let rig := rig.record (.setViewport viewport)
  { rig with engine := { rig.engine with viewport := viewport } }

def setAnimationEnabled (rig : Rig) (enabled : Bool) : Except EngineFault Unit × Rig :=
  let rig := rig.record (.setAnimationEnabled enabled)
  let rig := { rig with engine := { rig.engine with animate := enabled } }
  -- the flag stays set when the engine then fails
  (outcome rig.engine.animationFault, rig)

def firstFlaw : Nat → List Formula → Option (Nat × Expression.Flaw)
  | _, [] => none
  | position, formula :: rest =>
    match formula.flaw? with
    | some flaw => some (position, flaw)
    | none => firstFlaw (position + 1) rest

def flawMessage (position : Nat) (flaw : Expression.Flaw) : String :=
  "Error on equation " ++ toString position ++ "\n" ++ flaw.message

def enabledExpressions (formulas : List Formula) : List String :=
  (formulas.filter fun formula => !formula.disabled).map Formula.expression

def setEquations (rig : Rig) (formulas : List Formula) : Except EngineFault Unit × Rig :=
  let rig := rig.record (.setEquations formulas)
  match firstFlaw 1 formulas with
  | some (position, flaw) => (.error ⟨flawMessage position flaw⟩, rig)
  | none =>
    (.ok (), { rig with engine := { rig.engine with equations := enabledExpressions formulas } })

def release (rig : Rig) : Journal := (rig.record .release).journal

inductive Command where
  | start
  | renderFrame
  | failNextRender (message : String)
  | setCameraRotation (x y : Float32)
  | setCameraZoom (zoom : Float32)
  | setCamera (camera : Camera)
  | setViewport (viewport : Viewport)
  | setAnimationEnabled (enabled : Bool)
  | setEquations (formulas : List Formula)
deriving DecidableEq

def perform (rig : Rig) : Command → Except EngineFault Unit × Rig
  | .start => rig.start
  | .renderFrame => rig.renderFrame
  | .failNextRender message => (.ok (), rig.failNextRender message)
  | .setCameraRotation x y => (.ok (), rig.setCameraRotation x y)
  | .setCameraZoom zoom => (.ok (), rig.setCameraZoom zoom)
  | .setCamera camera => (.ok (), rig.setCamera camera)
  | .setViewport viewport => (.ok (), rig.setViewport viewport)
  | .setAnimationEnabled enabled => rig.setAnimationEnabled enabled
  | .setEquations formulas => rig.setEquations formulas

def step (rig : Rig) (target : Camera) (factor : Float32) : Except EngineFault Unit × Rig :=
  match rig.renderFrame with
  | (.error fault, rig) => (.error fault, rig)
  | (.ok _, rig) => (.ok (), rig.setCamera (rig.engine.camera.smoothedToward target factor))

end Rig

end Plotter
