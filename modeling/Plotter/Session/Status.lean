import Plotter.Json.Choice

set_option autoImplicit false

namespace Plotter

inductive EngineStatus where
  | loading
  | ready
  | unsupported (message : String)
  | failed (message : String)
  | released
deriving DecidableEq, Repr

namespace EngineStatus

def messageFields : Json.Fields [String] := .cons ⟨"message", Json.string, .fault⟩ .nil

def value : EngineStatus → Json.Value
  | .loading => .string "Loading"
  | .ready => .string "Ready"
  | .unsupported message => .tagged "Unsupported" (.object (messageFields.members (message, ())))
  | .failed message => .tagged "Failed" (.object (messageFields.members (message, ())))
  | .released => .string "Released"

def codec : Json.Codec EngineStatus where
  read := Json.readChoice
    [.unit "Loading" .loading,
      .unit "Ready" .ready,
      .record "EngineStatus" "Unsupported" messageFields fun (message, _) => .unsupported message,
      .record "EngineStatus" "Failed" messageFields fun (message, _) => .failed message,
      .unit "Released" .released]
  value := value

end EngineStatus

end Plotter
