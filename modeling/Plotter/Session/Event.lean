import Plotter.Json.Choice

set_option autoImplicit false

namespace Plotter

inductive HostEvent where
  | pointerDown
  | pointerUp
  | pointerMove (deltaX deltaY : Float32)
  | wheel (deltaZ : Float32)
  | resize (width height : UInt32)
  | frame
deriving DecidableEq

namespace HostEvent

def moveFields : Json.Fields [Float32, Float32] :=
  .cons ⟨"delta_x", Json.single, .fault⟩ (.cons ⟨"delta_y", Json.single, .fault⟩ .nil)

def wheelFields : Json.Fields [Float32] := .cons ⟨"delta_z", Json.single, .fault⟩ .nil

def resizeFields : Json.Fields [UInt32, UInt32] :=
  .cons ⟨"width", Json.word32, .fault⟩ (.cons ⟨"height", Json.word32, .fault⟩ .nil)

def value : HostEvent → Json.Value
  | .pointerDown => .string "PointerDown"
  | .pointerUp => .string "PointerUp"
  | .pointerMove deltaX deltaY =>
    .tagged "PointerMove" (.object (moveFields.members (deltaX, deltaY, ())))
  | .wheel deltaZ => .tagged "Wheel" (.object (wheelFields.members (deltaZ, ())))
  | .resize width height =>
    .tagged "Resize" (.object (resizeFields.members (width, height, ())))
  | .frame => .string "Frame"

def codec : Json.Codec HostEvent where
  read := Json.readChoice
    [.unit "PointerDown" .pointerDown,
      .unit "PointerUp" .pointerUp,
      .record "HostEvent" "PointerMove" moveFields fun (deltaX, deltaY, _) =>
        .pointerMove deltaX deltaY,
      .record "HostEvent" "Wheel" wheelFields fun (deltaZ, _) => .wheel deltaZ,
      .record "HostEvent" "Resize" resizeFields fun (width, height, _) => .resize width height,
      .unit "Frame" .frame]
  value := value

end HostEvent

end Plotter
