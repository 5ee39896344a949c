import Plotter.Camera.Basic
import Plotter.Error

set_option autoImplicit false

namespace Plotter

structure Tuning where
  panSensitivity : Float32
  zoomSensitivity : Float32
  smoothingFactor : Float32
  minZoom : Float32
deriving BEq, DecidableEq

namespace Tuning

def standard : Tuning := ⟨0.01, 0.01, 0.1, 0.0001⟩

def validate (tuning : Tuning) : Except Defect Unit :=
  if !tuning.panSensitivity.isFinite || !tuning.zoomSensitivity.isFinite then
    .error .sensitivityNotFinite
  else if !(0 < tuning.smoothingFactor && tuning.smoothingFactor ≤ 1) then
    .error (.smoothingOutOfRange tuning.smoothingFactor)
  else if !(tuning.minZoom.isFinite && 0 < tuning.minZoom) then
    .error (.zoomFloorInvalid tuning.minZoom)
  else .ok ()

def codec : Json.Codec Tuning :=
  Json.record "CameraTuning"
    (.cons ⟨"pan_sensitivity", Json.single, .fault⟩
      (.cons ⟨"zoom_sensitivity", Json.single, .fault⟩
        (.cons ⟨"smoothing_factor", Json.single, .fault⟩
          (.cons ⟨"min_zoom", Json.single, .fault⟩ .nil))))
    (fun (pan, zoom, smoothing, minZoom, _) => ⟨pan, zoom, smoothing, minZoom⟩)
    (fun tuning =>
      (tuning.panSensitivity, tuning.zoomSensitivity, tuning.smoothingFactor, tuning.minZoom, ()))

end Tuning

def pi : Float32 := Float32.ofBits 0x40490fdb

def initialTarget : Camera := ⟨pi / -8, pi / 5, 1⟩

end Plotter
