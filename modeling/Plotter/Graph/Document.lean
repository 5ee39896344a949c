import Plotter.Graph.Basic

set_option autoImplicit false

namespace Plotter

def Equation.codec : Json.Codec Equation :=
  Json.record "EquationEntry"
    (.cons ⟨"zIndex", Json.count, .fault⟩
      (.cons ⟨"equation", Json.string, .fault⟩ (.cons ⟨"disabled", Json.boolean, .fault⟩ .nil)))
    (fun (index, expression, disabled, _) => ⟨index, expression, disabled⟩)
    (fun equation => (equation.index, equation.expression, equation.disabled, ()))

def Graph.fieldsCodec : Json.Codec Graph :=
  Json.record "RawGraphModel"
    (.cons ⟨"name", Json.string, .fault⟩
      (.cons ⟨"description", Json.string, .default ""⟩
        (.cons ⟨"animate", Json.boolean, .default false⟩
          (.cons ⟨"equations", Equation.codec.list, .default []⟩ .nil))))
    (fun (name, description, animate, equations, _) => ⟨name, description, animate, equations⟩)
    (fun graph => (graph.name, graph.description, graph.animate, graph.equations, ()))

def Graph.codec : Json.Codec Graph where
  read text :=
    match fieldsCodec.read text with
    | .error fault => .error fault
    | .ok (graph, rest) =>
      match graph.validateIndices with
      | .ok _ => .ok (graph, rest)
      | .error defect => .error (.floating (.refused defect.message) rest)
  value := fieldsCodec.value

end Plotter
