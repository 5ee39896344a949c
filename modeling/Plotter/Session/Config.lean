import Plotter.Camera.Tuning

set_option autoImplicit false

namespace Plotter

structure Config where
  viewport : Viewport
  tuning : Tuning
  initialTarget : Camera
  targetFrameRate : UInt32
  notificationCapacity : UInt64
deriving BEq, DecidableEq

namespace Config

def standardFrameRate : UInt32 := 60

def standardCapacity : UInt64 := 32

def create (viewport : Viewport) : Config where
  viewport := viewport
  tuning := .standard
  initialTarget := Plotter.initialTarget
  targetFrameRate := standardFrameRate
  notificationCapacity := standardCapacity

def withTuning (config : Config) (tuning : Tuning) : Config := { config with tuning := tuning }

def withSmoothingFactor (config : Config) (factor : Float32) : Config :=
  config.withTuning { config.tuning with smoothingFactor := factor }

def withInitialTarget (config : Config) (target : Camera) : Config :=
  { config with initialTarget := target }

def withTargetFrameRate (config : Config) (framesPerSecond : UInt32) : Config :=
  { config with targetFrameRate := framesPerSecond }

def withNotificationCapacity (config : Config) (capacity : UInt64) : Config :=
  { config with notificationCapacity := capacity }

def validate (config : Config) : Except Error Unit :=
  if !config.viewport.isValid then .error (.invalidViewport config.viewport)
  else
    match config.tuning.validate with
    | .error defect => .error (.invalidData defect)
    | .ok _ =>
      if !config.initialTarget.isFinite then .error (.invalidData .targetNotFinite)
      else if config.targetFrameRate = 0 then .error (.invalidData .frameRateZero)
      else .ok ()

def codec : Json.Codec Config :=
  Json.record "GrapherConfig"
    (.cons ⟨"viewport", Viewport.codec, .fault⟩
      (.cons ⟨"camera_tuning", Tuning.codec, .default .standard⟩
        (.cons ⟨"initial_target", Camera.codec, .default Plotter.initialTarget⟩
          (.cons ⟨"target_frame_rate", Json.word32, .default standardFrameRate⟩
            (.cons ⟨"notification_capacity", Json.size64, .default standardCapacity⟩ .nil)))))
    (fun (viewport, tuning, target, rate, capacity, _) =>
      ⟨viewport, tuning, target, rate, capacity⟩)
    (fun config =>
      (config.viewport, config.tuning, config.initialTarget, config.targetFrameRate,
        config.notificationCapacity, ()))

def toJson (config : Config) : String := codec.write Json.pretty config

def ofJson (text : String) : Except Error Config :=
  match codec.parse text with
  | .error failure => .error (.invalidData (.configUnreadable failure))
  | .ok config =>
    match config.validate with
    | .error error => .error error
    | .ok _ => .ok config

end Config

end Plotter
