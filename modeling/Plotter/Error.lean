import Plotter.FrameLoop.State
import Plotter.Viewport

set_option autoImplicit false

namespace Plotter

inductive Defect where
  | sensitivityNotFinite
  | smoothingOutOfRange (factor : Float32)
  | zoomFloorInvalid (floor : Float32)
  | targetNotFinite
  | frameRateZero
  | equationOutOfBounds (index count : Nat)
  | equationMissing (index : Nat)
  | restrictedCharacter (char : Char)
  | equationMisplaced (position index : Nat)
  | loopNotIdle (state : LoopState)
  | configUnreadable (failure : Json.Failure)
  | snapshotUnreadable (failure : Json.Failure)
  | schemaUnsupported (version : UInt32)
  | other (text : String)
deriving DecidableEq

def Defect.text : Defect → String
  | .sensitivityNotFinite => "camera sensitivities must be finite"
  | .smoothingOutOfRange factor =>
    "smoothing factor must be in (0, 1], got " ++ Binary.messageText factor
  | .zoomFloorInvalid floor => "min zoom must be finite and > 0, got " ++ Binary.messageText floor
  | .targetNotFinite => "initial camera target must be finite"
  | .frameRateZero => "target frame rate must be > 0"
  | .equationOutOfBounds index count =>
    "equation index " ++ toString index ++ " out of bounds for " ++ toString count ++ " equations"
  | .equationMissing index => "no equation at index " ++ toString index
  | .restrictedCharacter char =>
    "expression contains restricted character " ++ Text.quotedSingle char
  | .equationMisplaced position index =>
    "equation at position " ++ toString position ++ " carries index " ++ toString index
  | .loopNotIdle state =>
    "frame loop can only start from idle, current state: " ++ state.name
  | .configUnreadable failure => "failed to parse config json: " ++ failure.message
  | .snapshotUnreadable failure => "failed to parse snapshot json payload: " ++ failure.message
  | .schemaUnsupported version => "unsupported snapshot schema version: " ++ toString version.toNat
  | .other text => text

def Defect.message (defect : Defect) : String := "invalid data: " ++ defect.text

structure EngineFault where
  message : String
deriving DecidableEq, Repr

inductive InitError where
  | unsupported (surface capability : String)
  | rejected (surface reason : String)
deriving DecidableEq, Repr

def InitError.message : InitError → String
  | .unsupported surface capability =>
    "surface `" ++ surface ++ "` does not support " ++ capability
  | .rejected surface reason =>
    "engine could not be created on surface `" ++ surface ++ "`: " ++ reason

def InitError.userMessage : InitError → String
  | .unsupported _ capability => capability ++ " Unsupported, Please update your browser"
  | .rejected _ reason => reason

inductive Error where
  | initialization (error : InitError)
  | sync (fault : EngineFault)
  | staleHandle (surface : String)
  | invalidViewport (viewport : Viewport)
  | invalidData (defect : Defect)
deriving DecidableEq

def Error.message : Error → String
  | .initialization error => error.message
  | .sync fault => "engine rejected graph sync: " ++ fault.message
  | .staleHandle surface => "engine handle for surface `" ++ surface ++ "` was already released"
  | .invalidViewport viewport =>
    "invalid viewport size: width=" ++ toString viewport.width.toNat ++ ", height=" ++
      toString viewport.height.toNat
  | .invalidData defect => defect.message

def Error.isStaleHandle : Error → Bool
  | .staleHandle _ => true
  | _ => false

end Plotter
