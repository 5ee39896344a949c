import Plotter.Json.Choice
import Plotter.Viewport

set_option autoImplicit false

namespace Plotter

inductive Capability where
  | webGl2
deriving DecidableEq, Repr

def Capability.name : Capability → String
  | .webGl2 => "WebGl2"

def Capability.label : Capability → String
  | .webGl2 => "WebGL"

def Capability.codec : Json.Codec Capability where
  read := Json.readChoice [.unit "WebGl2" .webGl2]
  value capability := .string capability.name

structure SurfaceId where
  name : String
deriving DecidableEq, Repr

namespace SurfaceId

def codec : Json.Codec SurfaceId := Json.string.convert SurfaceId.mk SurfaceId.name

def debugText (id : SurfaceId) : String := "SurfaceId(" ++ Text.quoted id.name ++ ")"

def order : List Char → List Char → Ordering
  | [], [] => .eq
  | [], _ :: _ => .lt
  | _ :: _, [] => .gt
  | left :: lefts, right :: rights =>
    if left.toNat < right.toNat then .lt
    else if right.toNat < left.toNat then .gt
    else order lefts rights

def compare (left right : SurfaceId) : Ordering := order left.name.toList right.name.toList

end SurfaceId

structure Surface where
  id : SurfaceId
  viewport : Viewport
  capabilities : List Capability
deriving DecidableEq, Repr

namespace Surface

def create (id : String) (viewport : Viewport) : Surface := ⟨⟨id⟩, viewport, []⟩

def withCapability (surface : Surface) (capability : Capability) : Surface :=
  if surface.capabilities.contains capability then surface
  else { surface with capabilities := surface.capabilities ++ [capability] }

def supports (surface : Surface) (capability : Capability) : Bool :=
  surface.capabilities.contains capability

end Surface

end Plotter
