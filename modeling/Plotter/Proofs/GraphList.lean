import Mathlib.Data.List.InsertIdx
import Plotter.Proofs.GraphIndices
import Plotter.Proofs.History
import Plotter.Sync

set_option autoImplicit false

namespace Plotter.Graph

def Unrestricted (expression : String) : Prop := ∀ char ∈ expression.toList, char ∉ restrictedCharacters

instance (expression : String) : Decidable (Unrestricted expression) :=
  List.decidableBAll (fun char => char ∉ restrictedCharacters) expression.toList

def numbered (formulas : List Formula) : List Equation :=
  formulas.mapIdx fun index formula => ⟨index, formula.expression, formula.disabled⟩

def editList (formulas : List Formula) : Edit → Option (Answer × List Formula)
  | .push expression =>
    if Unrestricted expression then some (.index formulas.length, formulas ++ [⟨false, expression⟩]) else none
  | .insert index expression =>
    if index ≤ formulas.length ∧ Unrestricted expression then
      some (.done, formulas.insertIdx index ⟨false, expression⟩)
    else none
  | .remove index =>
    formulas[index]?.map fun formula =>
      (.removed ⟨index, formula.expression, formula.disabled⟩, formulas.eraseIdx index)
  | .setExpression index expression =>
    if Unrestricted expression then
      formulas[index]?.map fun formula => (.done, formulas.set index { formula with expression := expression })
    else none
  | .toggleDisabled index =>
    formulas[index]?.map fun formula =>
      (.flag !formula.disabled, formulas.set index { formula with disabled := !formula.disabled })
  | .toggleAnimate | .rename _ | .describe _ => some (.done, formulas)

def perform (graph : Graph) (change : Edit) : Except Defect Answer × Graph :=
  ((graph.edit change).map Prod.fst, graph.after change)

def performList (formulas : List Formula) (change : Edit) : Option Answer × List Formula :=
  ((editList formulas change).map Prod.fst, ((editList formulas change).map Prod.snd).getD formulas)

theorem validate_expression_ok (expression : String) (plain : Unrestricted expression) :
    validateExpression expression = .ok () := by
  have clear : expression.toList.find? restrictedCharacters.contains = none := by
    rw [List.find?_eq_none]
    intro char member
    simpa using plain char member
  rw [validateExpression, clear]

theorem validate_expression_error (expression : String) (restricted : ¬ Unrestricted expression) :
    ∃ defect, validateExpression expression = .error defect := by
  cases found : expression.toList.find? restrictedCharacters.contains with
  | some char => exact ⟨.restrictedCharacter char, by rw [validateExpression, found]⟩
  | none =>
      refine absurd ?_ restricted
      intro char member
      simpa using List.find?_eq_none.mp found char member

@[simp] theorem numbered_payload (formulas : List Formula) :
    (numbered formulas).map (fun equation => Formula.mk equation.disabled equation.expression) = formulas := by
  apply List.ext_getElem?
  intro index
  rw [List.getElem?_map, numbered, List.getElem?_mapIdx, Option.map_map]
  exact Option.map_id_apply

theorem numbered_dense (formulas : List Formula) : Dense (numbered formulas) := by
  intro position equation found
  rw [numbered, List.getElem?_mapIdx] at found
  obtain ⟨formula, _, same⟩ := Option.map_eq_some_iff.mp found
  subst equation
  rfl

theorem dense_numbered (graph : Graph) (dense : Dense graph.equations) : graph.equations = numbered graph.payload := by
  apply List.ext_getElem?
  intro index
  rw [numbered, List.getElem?_mapIdx, payload, List.getElem?_map]
  cases found : graph.equations[index]? with
  | none => rfl
  | some equation =>
      have place := dense index equation found
      subst index
      rfl

@[simp] theorem reindex_payload (start : Nat) (equations : List Equation) :
    (reindex start equations).map (fun equation => Formula.mk equation.disabled equation.expression) =
      equations.map fun equation => ⟨equation.disabled, equation.expression⟩ := by
  apply List.ext_getElem?
  intro index
  rw [List.getElem?_map, List.getElem?_map, reindex, List.getElem?_mapIdx, Option.map_map]
  congr 1
  funext equation
  by_cases early : index < start <;> simp [early]

def inList (result : Except Defect (Answer × Graph)) : Option (Answer × List Formula) :=
  result.toOption.map (Prod.map id payload)

theorem push_in_list (graph : Graph) (expression : String) :
    inList (graph.edit (.push expression)) = editList graph.payload (.push expression) := by
  by_cases plain : Unrestricted expression
  · simp [edit, push, validate_expression_ok expression plain, inList, Except.toOption, editList, plain, payload, size]
  · obtain ⟨defect, refused⟩ := validate_expression_error expression plain
    simp [edit, push, refused, inList, Except.toOption, editList, plain]

theorem insert_in_list (graph : Graph) (index : Nat) (expression : String) :
    inList (graph.edit (.insert index expression)) = editList graph.payload (.insert index expression) := by
  by_cases outside : graph.size < index
  · have far : ¬ index ≤ graph.payload.length := by simpa [payload, size] using outside
    simp [edit, insert, outside, inList, Except.toOption, editList, far]
  · have near : index ≤ graph.equations.length := Nat.le_of_not_lt outside
    by_cases plain : Unrestricted expression
    · simp [edit, insert, outside, validate_expression_ok expression plain, inList, Except.toOption, editList, near,
        plain, payload, List.map_insertIdx]
    · obtain ⟨defect, refused⟩ := validate_expression_error expression plain
      simp [edit, insert, outside, refused, inList, Except.toOption, editList, plain]

/-- The only answer that shows an index, so the only edit that needs the indices to be in order. -/
theorem remove_in_list (graph : Graph) (index : Nat) (dense : Dense graph.equations) :
    inList (graph.edit (.remove index)) = editList graph.payload (.remove index) := by
  cases found : graph.equations[index]? with
  | none => simp [edit, remove, found, inList, Except.toOption, editList, payload]
  | some equation =>
      have place := dense index equation found
      subst index
      simp [edit, remove, found, inList, Except.toOption, editList, payload, List.eraseIdx_map]

theorem set_expression_in_list (graph : Graph) (index : Nat) (expression : String) :
    inList (graph.edit (.setExpression index expression)) = editList graph.payload (.setExpression index expression) := by
  by_cases plain : Unrestricted expression
  · cases found : graph.equations[index]? <;>
      simp [edit, setExpression, validate_expression_ok expression plain, found, inList, Except.toOption, editList,
        plain, payload, List.map_set]
  · obtain ⟨defect, refused⟩ := validate_expression_error expression plain
    simp [edit, setExpression, refused, inList, Except.toOption, editList, plain]

theorem toggle_disabled_in_list (graph : Graph) (index : Nat) :
    inList (graph.edit (.toggleDisabled index)) = editList graph.payload (.toggleDisabled index) := by
  cases found : graph.equations[index]? <;>
    simp [edit, toggleDisabled, found, inList, Except.toOption, editList, payload, List.map_set]

theorem edit_in_list (graph : Graph) (change : Edit) (dense : Dense graph.equations) :
    inList (graph.edit change) = editList graph.payload change := by
  cases change with
  | push expression => exact push_in_list graph expression
  | insert index expression => exact insert_in_list graph index expression
  | remove index => exact remove_in_list graph index dense
  | setExpression index expression => exact set_expression_in_list graph index expression
  | toggleDisabled index => exact toggle_disabled_in_list graph index
  | toggleAnimate => rfl
  | rename name => rfl
  | describe description => rfl

theorem perform_in_list (graph : Graph) (formulas : List Formula) (change : Edit)
    (same : graph.equations = numbered formulas) :
    (graph.perform change).1.toOption = (performList formulas change).1 ∧
      (graph.perform change).2.equations = numbered (performList formulas change).2 := by
  have dense : Dense graph.equations := same ▸ numbered_dense formulas
  have list : graph.payload = formulas := by
    rw [payload, same]
    exact numbered_payload formulas
  -- The step gives the payload only; that the result is numbered again comes from its density.
  have step := edit_in_list graph change dense
  have kept := dense_numbered _ (after_dense graph change dense)
  rw [list] at step
  rw [perform, performList, ← step]
  cases result : graph.edit change with
  | error defect =>
      have unchanged : graph.after change = graph := by rw [after, result]
      exact ⟨rfl, by rw [unchanged]; exact same⟩
  | ok outcome =>
      have changed : graph.after change = outcome.2 := by rw [after, result]
      rw [changed] at kept ⊢
      exact ⟨rfl, kept⟩

def Edit.InRange (count : Nat) : Edit → Prop
  | .insert index _ => index ≤ count
  | .remove index | .setExpression index _ | .toggleDisabled index => index < count
  | .push _ | .toggleAnimate | .rename _ | .describe _ => True

def Edit.expression? : Edit → Option String
  | .push expression | .insert _ expression | .setExpression _ expression => some expression
  | .remove _ | .toggleDisabled _ | .toggleAnimate | .rename _ | .describe _ => none

theorem edit_list_refused (formulas : List Formula) (change : Edit) :
    editList formulas change = none ↔
      ¬ change.InRange formulas.length ∨ ∃ expression ∈ change.expression?, ¬ Unrestricted expression := by
  cases change with
  | push expression => by_cases plain : Unrestricted expression <;> simp [editList, Edit.InRange, Edit.expression?, plain]
  | insert index expression =>
      by_cases plain : Unrestricted expression <;> simp [editList, Edit.InRange, Edit.expression?, plain]
  | remove index => simp [editList, Edit.InRange, Edit.expression?]
  | setExpression index expression =>
      by_cases plain : Unrestricted expression <;> simp [editList, Edit.InRange, Edit.expression?, plain]
  | toggleDisabled index => simp [editList, Edit.InRange, Edit.expression?]
  | toggleAnimate => simp [editList, Edit.InRange, Edit.expression?]
  | rename name => simp [editList, Edit.InRange, Edit.expression?]
  | describe description => simp [editList, Edit.InRange, Edit.expression?]

theorem edit_refused (graph : Graph) (change : Edit) (dense : Dense graph.equations) :
    (∃ defect, graph.edit change = .error defect) ↔
      ¬ change.InRange graph.size ∨ ∃ expression ∈ change.expression?, ¬ Unrestricted expression := by
  have count : graph.payload.length = graph.size := List.length_map _
  rw [← count, ← edit_list_refused, ← edit_in_list graph change dense]
  cases graph.edit change <;> simp [inList, Except.toOption]

theorem graph_refines_list (graph : Graph) (edits : List Edit) (built : graph.Built) :
    let run := History.run perform graph edits
    let plain := History.run performList graph.payload edits
    run.1.map Except.toOption = plain.1 ∧ run.2.equations = numbered plain.2 ∧ run.2.payload = plain.2 ∧
    run.2.validateIndices = .ok () ∧
    ∀ change,
      ((∃ defect, run.2.edit change = .error defect) ↔
        ¬ change.InRange run.2.size ∨ ∃ expression ∈ change.expression?, ¬ Unrestricted expression) ∧
      ∀ defect, run.2.edit change = .error defect → run.2.perform change = (.error defect, run.2) := by
  intro run plain
  obtain ⟨answers, last⟩ := History.run_refines perform performList
    (fun graph formulas => graph.equations = numbered formulas) Except.toOption perform_in_list graph graph.payload
    (dense_numbered graph (built_dense graph built)) edits
  have dense : Dense run.2.equations := by
    rw [last]
    exact numbered_dense plain.2
  refine ⟨answers, last, ?_, (validate_indices_iff run.2).mpr dense, ?_⟩
  · rw [payload, last]
    exact numbered_payload plain.2
  · intro change
    refine ⟨edit_refused run.2 change dense, ?_⟩
    intro defect refused
    rw [perform, after, refused]
    rfl

def sampleDocument : String :=
  "\x7b\"name\":\"waves\",\"equations\":[\x7b\"zIndex\":0,\"equation\":\"f(x)=x\",\"disabled\":true\x7d," ++
    "\x7b\"zIndex\":1,\"equation\":\"f(x)=2x\",\"disabled\":false\x7d]\x7d"

def sampleEdits : List Edit :=
  [.insert 2 "f(x)=3x", .remove 0, .setExpression 2 "f(x)=4x", .push "a:b", .toggleDisabled 0, .push "f(x)=5x"]

def sampleGraph : Graph := ⟨"waves", "", false, [⟨0, "f(x)=x", true⟩, ⟨1, "f(x)=2x", false⟩]⟩

theorem graph_refines_list_parsed :
    codec.parse sampleDocument = .ok sampleGraph ∧
      (History.run perform sampleGraph sampleEdits).1.map Except.toOption =
        [some .done, some (.removed ⟨0, "f(x)=x", true⟩), none, none, some (.flag true), some (.index 2)] ∧
      (History.run perform sampleGraph sampleEdits).2.payload =
        [⟨true, "f(x)=2x"⟩, ⟨false, "f(x)=3x"⟩, ⟨false, "f(x)=5x"⟩] ∧
      (History.run perform sampleGraph sampleEdits).2.validateIndices = .ok () := by
  have parsed : codec.parse sampleDocument = .ok sampleGraph := by decide +kernel
  obtain ⟨answers, _, shown, valid, _⟩ :=
    graph_refines_list sampleGraph sampleEdits (.parsed sampleDocument sampleGraph parsed)
  refine ⟨parsed, answers.trans ?_, shown.trans ?_, valid⟩
  · decide +kernel
  · decide +kernel

end Plotter.Graph
