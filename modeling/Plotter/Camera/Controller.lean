import Plotter.Camera.Tuning

set_option autoImplicit false

namespace Plotter

inductive InteractionMode where
  | idle
  | dragging
deriving DecidableEq, Repr

def InteractionMode.name : InteractionMode → String
  | .idle => "Idle"
  | .dragging => "Dragging"

def InteractionMode.codec : Json.Codec InteractionMode where
  read := Json.readChoice [.unit "Idle" .idle, .unit "Dragging" .dragging]
  value mode := .string mode.name

structure Controller where
  mode : InteractionMode
  tuning : Tuning
  target : Camera
deriving DecidableEq

namespace Controller

def create (tuning : Tuning) (initial : Camera) : Controller where
  mode := .idle
  tuning := tuning
  target := { initial with zoom := Binary.larger initial.zoom tuning.minZoom }

def standard : Controller := create .standard initialTarget

def isPointerDown (controller : Controller) : Bool := controller.mode = .dragging

def pointerDown (controller : Controller) : Controller := { controller with mode := .dragging }

def pointerUp (controller : Controller) : Controller := { controller with mode := .idle }

def pointerMove (controller : Controller) (live : Camera) (deltaX deltaY : Float32) :
    Bool × Controller :=
  if controller.isPointerDown && deltaX.isFinite && deltaY.isFinite then
    let target := { controller.target with
      rotationX := live.rotationX - deltaY * controller.tuning.panSensitivity
      rotationY := live.rotationY - deltaX * controller.tuning.panSensitivity }
    (true, { controller with target := target })
  else (false, controller)

/-- Zooms the target away from the live camera. A zoom that would cross zero bounces back, and none
goes below the floor. Effective for finite deltas. -/
def wheel (controller : Controller) (live : Camera) (deltaZ : Float32) : Bool × Controller :=
  if deltaZ.isFinite then
    let zoom := (live.zoom + deltaZ * controller.tuning.zoomSensitivity).abs
    let target := { controller.target with zoom := Binary.larger zoom controller.tuning.minZoom }
    (true, { controller with target := target })
  else (false, controller)

inductive Input where
  | down
  | up
  | move (live : Camera) (deltaX deltaY : Float32)
  | wheel (live : Camera) (deltaZ : Float32)
deriving DecidableEq

def handle (controller : Controller) : Input → Option Bool × Controller
  | .down => (none, controller.pointerDown)
  | .up => (none, controller.pointerUp)
  | .move live deltaX deltaY =>
    let (effective, controller) := controller.pointerMove live deltaX deltaY
    (some effective, controller)
  | .wheel live deltaZ =>
    let (effective, controller) := controller.wheel live deltaZ
    (some effective, controller)

end Controller

end Plotter
