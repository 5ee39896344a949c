import Plotter.Json.Choice

set_option autoImplicit false

namespace Plotter

inductive LoopState where
  | idle
  | running
  | stopped
deriving DecidableEq, Repr

def LoopState.name : LoopState → String
  | .idle => "Idle"
  | .running => "Running"
  | .stopped => "Stopped"

def LoopState.codec : Json.Codec LoopState where
  read := Json.readChoice
    [.unit "Idle" .idle, .unit "Running" .running, .unit "Stopped" .stopped]
  value state := .string state.name

end Plotter
