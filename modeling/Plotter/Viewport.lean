import Plotter.Json.Record

set_option autoImplicit false

namespace Plotter

structure Viewport where
  width : UInt32
  height : UInt32
deriving DecidableEq, Repr

def Viewport.isValid (viewport : Viewport) : Bool := 0 < viewport.width && 0 < viewport.height

def Viewport.codec : Json.Codec Viewport :=
  Json.record "Viewport"
    (.cons ⟨"width", Json.word32, .fault⟩ (.cons ⟨"height", Json.word32, .fault⟩ .nil))
    (fun (width, height, _) => ⟨width, height⟩)
    (fun viewport => (viewport.width, viewport.height, ()))

end Plotter
