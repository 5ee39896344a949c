import Plotter.Proofs.GraphList
import Plotter.Proofs.PoolSteps

set_option autoImplicit false

namespace Plotter.Graph

def restricted (formulas : List Formula) : List String :=
  (formulas.map Formula.expression).filter fun expression => ¬ Unrestricted expression

theorem restricted_nil_iff (formulas : List Formula) :
    restricted formulas = [] ↔ ∀ formula ∈ formulas, Unrestricted formula.expression := by
  simp [restricted, List.filter_eq_nil_iff]

@[simp] theorem restricted_cons (first : Formula) (rest : List Formula) :
    restricted (first :: rest) =
      if Unrestricted first.expression then restricted rest else first.expression :: restricted rest := by
  by_cases plain : Unrestricted first.expression <;> simp [restricted, plain]

theorem insert_restricted (formulas : List Formula) (index : Nat) (disabled : Bool) (expression : String)
    (plain : Unrestricted expression) :
    restricted (formulas.insertIdx index ⟨disabled, expression⟩) = restricted formulas := by
  induction formulas generalizing index with
  | nil => cases index <;> simp [restricted, plain]
  | cons first rest ih =>
      cases index with
      | zero => simp [restricted, plain]
      | succ index =>
          simp [ih index]

theorem erase_restricted (formulas : List Formula) (index : Nat) :
    (restricted (formulas.eraseIdx index)).Sublist (restricted formulas) :=
  ((List.eraseIdx_sublist formulas index).map Formula.expression).filter _

theorem replace_restricted (formulas : List Formula) (index : Nat) (formula : Formula)
    (plain : Unrestricted formula.expression) :
    (restricted (formulas.set index formula)).Sublist (restricted formulas) := by
  by_cases inside : index < formulas.length
  · rw [← List.insertIdx_eraseIdx_self (Nat.ne_of_lt inside), insert_restricted _ index formula.disabled _ plain]
    exact erase_restricted formulas index
  · simp [List.set_eq_of_length_le (Nat.le_of_not_lt inside)]

theorem toggle_restricted (formulas : List Formula) (index : Nat) (formula : Formula) (disabled : Bool)
    (found : formulas[index]? = some formula) :
    restricted (formulas.set index { formula with disabled := disabled }) = restricted formulas := by
  obtain ⟨inside, rfl⟩ := List.getElem?_eq_some_iff.mp found
  have same : (formulas.map Formula.expression).set index formulas[index].expression =
      formulas.map Formula.expression := by
    rw [← List.map_set, List.set_getElem_self]
  rw [restricted, List.map_set, same, restricted]

theorem edit_list_restricted (formulas next : List Formula) (change : Edit) (answer : Answer)
    (done : editList formulas change = some (answer, next)) :
    (restricted next).Sublist (restricted formulas) := by
  cases change with
  | push expression =>
      by_cases plain : Unrestricted expression
      · simp only [editList, if_pos plain, Option.some.injEq, Prod.mk.injEq] at done
        obtain ⟨_, rfl⟩ := done
        simp [restricted, plain]
      · simp [editList, plain] at done
  | insert index expression =>
      by_cases fits : index ≤ formulas.length ∧ Unrestricted expression
      · simp only [editList, if_pos fits, Option.some.injEq, Prod.mk.injEq] at done
        obtain ⟨_, rfl⟩ := done
        simp [insert_restricted formulas index false expression fits.2]
      · simp [editList, fits] at done
  | remove index =>
      obtain ⟨formula, _, same⟩ := Option.map_eq_some_iff.mp done
      cases same
      exact erase_restricted formulas index
  | setExpression index expression =>
      by_cases plain : Unrestricted expression
      · rw [editList, if_pos plain] at done
        obtain ⟨formula, _, same⟩ := Option.map_eq_some_iff.mp done
        cases same
        exact replace_restricted formulas index { formula with expression := expression } plain
      · simp [editList, plain] at done
  | toggleDisabled index =>
      obtain ⟨formula, found, same⟩ := Option.map_eq_some_iff.mp done
      cases same
      simp [toggle_restricted formulas index formula _ found]
  | toggleAnimate =>
      cases done
      exact .refl _
  | rename name =>
      cases done
      exact .refl _
  | describe description =>
      cases done
      exact .refl _

theorem perform_list_restricted (formulas : List Formula) (change : Edit) :
    (restricted (performList formulas change).2).Sublist (restricted formulas) := by
  rw [performList]
  cases done : editList formulas change with
  | none => exact .refl _
  | some result => exact edit_list_restricted formulas result.2 change result.1 done

theorem history_restricted (formulas : List Formula) (edits : List Edit) :
    (restricted (History.final performList formulas edits)).Sublist (restricted formulas) :=
  History.final_keeps performList (fun later => (restricted later).Sublist (restricted formulas)) (fun _ => True)
    (fun later change _ kept => (perform_list_restricted later change).trans kept) formulas (.refl _) edits (by simp)

theorem history_payload (graph : Graph) (edits : List Edit) (built : graph.Built) :
    (History.final perform graph edits).payload = History.final performList graph.payload edits := by
  obtain ⟨_, last⟩ := History.run_refines perform performList
    (fun graph formulas => graph.equations = numbered formulas) Except.toOption perform_in_list graph graph.payload
    (dense_numbered graph (built_dense graph built)) edits
  rw [payload, History.final, last]
  exact numbered_payload _

theorem sync_calls (pool : Pool) (handle : Handle) (graph : Graph) :
    ∃ calls, (pool.sync handle graph).2.journal.toList = pool.journal.toList ++ calls ∧
      ∀ formulas, Call.setEquations formulas ∈ calls → formulas = graph.payload := by
  have quiet : ∃ calls, pool.journal.toList = pool.journal.toList ++ calls ∧
      ∀ formulas, Call.setEquations formulas ∈ calls → formulas = graph.payload := ⟨[], by simp, by simp⟩
  have loaded : ∀ rig : Rig, ∃ calls, (rig.load graph).2.journal.toList = rig.journal.toList ++ calls ∧
      ∀ formulas, Call.setEquations formulas ∈ calls → formulas = graph.payload := by
    intro rig
    cases failing : rig.engine.animationFault with
    | some fault => exact ⟨[.setAnimationEnabled graph.animate], by simp [load_failing rig graph fault failing], by simp⟩
    | none =>
        refine ⟨[.setAnimationEnabled graph.animate, .setEquations graph.payload], ?_, by simp⟩
        cases flawed : Rig.firstFlaw 1 graph.payload with
        | some found => simp [load_flawed rig graph found.1 found.2 failing flawed]
        | none => simp [load_sound rig graph failing flawed]
  refine sync_found (fun next => ∃ calls, next.journal.toList = pool.journal.toList ++ calls ∧
    ∀ formulas, Call.setEquations formulas ∈ calls → formulas = graph.payload) pool handle graph quiet ?_
  intro answer next done
  obtain ⟨engine, rig, _, work, rfl⟩ := with_engine_some pool next handle _ answer done
  have written := loaded ⟨engine, pool.journal⟩
  rwa [work] at written

theorem edits_bring_no_restricted_character (origin : Graph) (edits : List Edit) (pool : Pool) (handle : Handle)
    (built : origin.Built) :
    let graph := History.final perform origin edits
    let pushed := (pool.sync handle graph).2.journal.toList.drop pool.journal.size
    (restricted graph.payload).Sublist (restricted origin.payload) ∧
    ((∃ name, origin = .create name) ∨ origin = .standard ∨
        (∀ equation ∈ origin.equations, Unrestricted equation.expression) →
      (∀ equation ∈ graph.equations, Unrestricted equation.expression) ∧
      ∀ formulas, Call.setEquations formulas ∈ pushed → ∀ formula ∈ formulas, Unrestricted formula.expression) := by
  intro graph pushed
  have fewer : (restricted graph.payload).Sublist (restricted origin.payload) := by
    rw [history_payload origin edits built]
    exact history_restricted origin.payload edits
  refine ⟨fewer, ?_⟩
  intro source
  have clean : ∀ equation ∈ origin.equations, Unrestricted equation.expression := by
    rcases source with ⟨name, rfl⟩ | rfl | plain
    · simp [create]
    · decide
    · exact plain
  have none : restricted origin.payload = [] := by
    rw [restricted_nil_iff]
    simpa [payload] using clean
  rw [none] at fewer
  have plain := (restricted_nil_iff graph.payload).mp (List.sublist_nil.mp fewer)
  refine ⟨by simpa [payload] using plain, ?_⟩
  intro formulas member
  obtain ⟨calls, written, whole⟩ := sync_calls pool handle graph
  have same : pushed = calls := by
    rw [show pushed = (pool.sync handle graph).2.journal.toList.drop pool.journal.size from rfl, written]
    simp
  rw [whole formulas (same ▸ member)]
  exact plain

def colonDocument : String :=
  "\x7b\"name\":\"g\",\"equations\":[\x7b\"zIndex\":0,\"equation\":\"f(x)=x\",\"disabled\":false\x7d," ++
    "\x7b\"zIndex\":1,\"equation\":\"a:b\",\"disabled\":false\x7d]\x7d"

def colonGraph : Graph := ⟨"g", "", false, [⟨0, "f(x)=x", false⟩, ⟨1, "a:b", false⟩]⟩

theorem colon_document_parsed : codec.parse colonDocument = .ok colonGraph := by decide +kernel

def cleaningEdits : List Edit :=
  -- the colon of the document moves one place down, an edit with a quote is refused, and the last edit but one
  -- replaces what the document brought in.
  [.insert 1 "f(x)=2x", .push "it's", .toggleDisabled 2, .setExpression 2 "f(x)=3x", .remove 0]

theorem edits_bring_no_restricted_character_cleaned :
    codec.parse colonDocument = .ok colonGraph ∧ restricted colonGraph.payload = ["a:b"] ∧
      (restricted (History.final perform colonGraph (cleaningEdits.take 3)).payload).Sublist ["a:b"] ∧
      (∀ equation ∈ (History.final perform .standard cleaningEdits).equations, Unrestricted equation.expression) := by
  have document := edits_bring_no_restricted_character colonGraph (cleaningEdits.take 3) (.create []) ⟨⟨"#canvas"⟩, 0⟩
    (.parsed colonDocument colonGraph colon_document_parsed)
  have standard := edits_bring_no_restricted_character .standard cleaningEdits (.create []) ⟨⟨"#canvas"⟩, 0⟩ .standard
  exact ⟨colon_document_parsed, rfl, document.1, (standard.2 (.inr (.inl rfl))).1⟩

theorem document_brings_restricted_character :
    ∃ graph handle pool, codec.parse colonDocument = .ok graph ∧
      (∃ equation ∈ graph.equations, ¬ Unrestricted equation.expression) ∧
      Pool.acquire (.create []) ((Surface.create "#canvas" ⟨800, 600⟩).withCapability .webGl2) = (.ok handle, pool) ∧
      (pool.sync handle graph).1 = .ok () ∧
      Call.setEquations [⟨false, "f(x)=x"⟩, ⟨false, "a:b"⟩] ∈ (pool.sync handle graph).2.journal.toList :=
  ⟨colonGraph, _, _, colon_document_parsed, by decide, rfl, by decide +kernel, by decide +kernel⟩

end Plotter.Graph
