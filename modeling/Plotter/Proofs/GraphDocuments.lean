import Plotter.Proofs.GraphIndices
import Plotter.Proofs.JsonContents

set_option autoImplicit false

namespace Plotter.Graph

open Json

theorem dense_iff_range (equations : List Equation) :
    Dense equations ↔ equations.map Equation.index = List.range equations.length := by
  constructor
  · intro dense
    apply List.ext_getElem?
    intro position
    by_cases inside : position < equations.length
    · have placed := dense position _ (List.getElem?_eq_getElem inside)
      simp [inside, placed]
    · simp [inside]
  · intro places position equation found
    obtain ⟨bound, rfl⟩ := List.getElem?_eq_some_iff.mp found
    have place := congrArg (·[position]?) places
    simpa [bound] using place

theorem equation_returns (equation : Equation) (fits : equation.index < UInt64.size) :
    Equation.codec.Returns equation :=
  record_returns _ _ _ _ equation ⟨count_returns _ fits, string_returns _, boolean_returns _, trivial⟩ rfl
    (by simp [Fields.names])

theorem fields_return (graph : Graph) (fits : ∀ equation ∈ graph.equations, equation.index < UInt64.size) :
    fieldsCodec.Returns graph := by
  have equations : Equation.codec.list.Returns graph.equations :=
    list_returns _ _ fun equation present => equation_returns equation (fits equation present)
  exact record_returns _ _ _ _ graph ⟨string_returns _, string_returns _, boolean_returns _, equations, trivial⟩ rfl
    (by simp [Fields.names])

theorem fields_yield : fieldsCodec.Yields fun graph => ∀ equation ∈ graph.equations, equation.index < UInt64.size := by
  have equation : Equation.codec.Yields fun equation => equation.index < UInt64.size :=
    record_yields _ _ _ _ _ ⟨fun index => index < UInt64.size, fun _ => True, fun _ => True, ()⟩
      ⟨count_yields, trivial, any_yields _, trivial, any_yields _, trivial, trivial⟩ fun _ pass => pass.1
  exact record_yields _ _ _ _ _
    ⟨fun _ => True, fun _ => True, fun _ => True, fun equations => ∀ equation ∈ equations, equation.index < UInt64.size, ()⟩
    ⟨any_yields _, trivial, any_yields _, trivial, any_yields _, trivial, list_yields _ _ equation, by simp [Absence.Suits],
      trivial⟩ fun _ pass => pass.2.2.2.1

theorem read_iff (text rest : List Char) (graph : Graph) :
    codec.read text = .ok (graph, rest) ↔ fieldsCodec.read text = .ok (graph, rest) ∧ Dense graph.equations := by
  rw [← validate_indices_iff]
  simp only [codec]
  cases fieldsCodec.read text with
  | error fault => simp
  | ok result =>
      obtain ⟨fields, left⟩ := result
      -- The fields have been read in full, and only then are the indices looked at.
      cases valid : fields.validateIndices with
      | ok _ =>
          simp only [valid, Except.ok.injEq, Prod.mk.injEq]
          constructor
          · rintro ⟨rfl, rfl⟩
            exact ⟨⟨rfl, rfl⟩, valid⟩
          · exact And.left
      | error defect =>
          simp only [valid]
          constructor
          · intro impossible
            cases impossible
          · rintro ⟨same, passed⟩
            cases same
            rw [valid] at passed
            cases passed

theorem parse_iff (text : String) (graph : Graph) :
    codec.parse text = .ok graph ↔ fieldsCodec.parse text = .ok graph ∧ Dense graph.equations := by
  constructor
  · intro parsed
    obtain ⟨rest, read, ended⟩ := parse_ok codec text graph parsed
    obtain ⟨fields, dense⟩ := (read_iff _ _ _).mp read
    exact ⟨parse_ended fieldsCodec text graph rest fields ended, dense⟩
  · rintro ⟨parsed, dense⟩
    obtain ⟨rest, read, ended⟩ := parse_ok fieldsCodec text graph parsed
    exact parse_ended codec text graph rest ((read_iff _ _ _).mpr ⟨read, dense⟩) ended

theorem parsed_size (text : String) (graph : Graph) (parsed : codec.parse text = .ok graph) :
    graph.size ≤ UInt64.size := by
  obtain ⟨fields, dense⟩ := (parse_iff text graph).mp parsed
  have fits := parse_yields fieldsCodec _ fields_yield text graph fields
  by_contra large
  have inside : UInt64.size < graph.equations.length := by
    rw [size] at large
    omega
  have found := List.getElem?_eq_getElem inside
  have below := fits _ (List.mem_of_getElem? found)
  rw [dense UInt64.size _ found] at below
  exact Nat.lt_irrefl _ below

theorem dense_round_trip (graph : Graph) (dense : Dense graph.equations) (fits : graph.size ≤ UInt64.size) (layout : Layout)
    (blank : layout.Blank) : codec.parse (codec.write layout graph) = .ok graph := by
  have places : ∀ equation ∈ graph.equations, equation.index < UInt64.size := by
    intro equation present
    have place : equation.index ∈ graph.equations.map Equation.index := List.mem_map_of_mem present
    rw [(dense_iff_range graph.equations).mp dense, List.mem_range] at place
    exact Nat.lt_of_lt_of_le place fits
  rw [parse_iff]
  exact ⟨parse_write fieldsCodec graph (fields_return graph places) layout blank, dense⟩

theorem graph_documents_round_trip (layout : Layout) (either : layout = compact ∨ layout = pretty) :
    (∀ text graph, codec.parse text = .ok graph → codec.parse (codec.write layout graph) = .ok graph) ∧
      (∀ graph : Graph, graph.Built →
        (codec.parse (codec.write layout graph) = .ok graph ↔ graph.size ≤ UInt64.size)) ∧
      (∀ text graph, codec.parse text = .ok graph ↔
        fieldsCodec.parse text = .ok graph ∧ graph.equations.map Equation.index = List.range graph.size) := by
  have blank : layout.Blank := by
    rcases either with rfl | rfl
    · exact compact_blank
    · exact pretty_blank
  refine ⟨?_, ?_, ?_⟩
  · intro text graph parsed
    exact dense_round_trip graph (parse_dense text graph parsed) (parsed_size text graph parsed) layout blank
  · intro graph built
    exact ⟨parsed_size _ graph, fun fits => dense_round_trip graph (built_dense graph built) fits layout blank⟩
  · intro text graph
    rw [parse_iff, dense_iff_range, size]

def awkward : Graph :=
  (((create "").after (.rename "\" \\ \x00\x1f 😀")).after (.describe "\t\n")).after (.push "\\x𝔸")

theorem awkward_built : awkward.Built := .edited _ _ (.edited _ _ (.edited _ _ (.create "")))

def escapedText : String := "[\"\\ud83d\\ude00\",\"\",true,[[0,\"\\\"\",false]]]"

def escaped : Graph := ⟨"😀", "", true, [⟨0, "\"", false⟩]⟩

def sparseText : String := "[\"g\",\"\",true,[[1,\"\",false]]]"

def sparse : Graph := ⟨"g", "", true, [⟨1, "", false⟩]⟩

theorem graph_documents_round_trip_awkward :
    codec.parse (codec.write pretty awkward) = .ok awkward ∧
      codec.parse escapedText = .ok escaped ∧ codec.parse (codec.write pretty escaped) = .ok escaped ∧
      fieldsCodec.parse sparseText = .ok sparse ∧ codec.parse sparseText ≠ .ok sparse := by
  obtain ⟨parsed, built, accepted⟩ := graph_documents_round_trip pretty (.inr rfl)
  have read : codec.parse escapedText = .ok escaped := by decide +kernel
  refine ⟨(built awkward awkward_built).mpr (by decide +kernel), read, parsed escapedText escaped read,
    by decide +kernel, ?_⟩
  rw [ne_eq, accepted]
  decide +kernel

end Plotter.Graph
