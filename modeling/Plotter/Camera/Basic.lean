import Plotter.Json.Record

set_option autoImplicit false

namespace Plotter

structure Camera where
  rotationX : Float32
  rotationY : Float32
  zoom : Float32
deriving BEq, DecidableEq

def lerp (start target factor : Float32) : Float32 := start + (target - start) * factor

namespace Camera

def isFinite (camera : Camera) : Bool :=
  camera.rotationX.isFinite && camera.rotationY.isFinite && camera.zoom.isFinite

def smoothedToward (camera target : Camera) (factor : Float32) : Camera where
  rotationX := lerp camera.rotationX target.rotationX factor
  rotationY := lerp camera.rotationY target.rotationY factor
  zoom := lerp camera.zoom target.zoom factor

def trail (target : Camera) (factor : Float32) : Nat → Camera → List Camera
  | 0, _ => []
  | steps + 1, camera =>
    let next := camera.smoothedToward target factor
    next :: trail target factor steps next

def distance (left right : Camera) : Float32 :=
  Binary.larger
    (Binary.larger (left.rotationX - right.rotationX).abs (left.rotationY - right.rotationY).abs)
    (left.zoom - right.zoom).abs

def codec : Json.Codec Camera :=
  Json.record "CameraState"
    (.cons ⟨"rotation_x", Json.single, .fault⟩
      (.cons ⟨"rotation_y", Json.single, .fault⟩ (.cons ⟨"zoom", Json.single, .fault⟩ .nil)))
    (fun (rotationX, rotationY, zoom, _) => ⟨rotationX, rotationY, zoom⟩)
    (fun camera => (camera.rotationX, camera.rotationY, camera.zoom, ()))

end Camera

end Plotter
