import Plotter.Graph.Document
import Plotter.Graph.Edit

set_option autoImplicit false

namespace Plotter.Graph

def Dense (equations : List Equation) : Prop :=
  ∀ (position : Nat) (equation : Equation), equations[position]? = some equation → equation.index = position

theorem misplaced_none_iff (start : Nat) (equations : List Equation) :
    misplaced start equations = none ↔
      ∀ position equation, equations[position]? = some equation → equation.index = start + position := by
  -- On the equations, with the start free: the rest is numbered from one further on.
  induction equations generalizing start with
  | nil => simp [misplaced]
  | cons first rest ih =>
      rw [misplaced]
      by_cases placed : first.index = start
      · rw [if_pos placed, ih]
        constructor
        · intro later position equation found
          cases position with
          | zero =>
              cases found
              exact placed
          | succ position =>
              rw [later position equation found]
              omega
        · intro all position equation found
          rw [all (position + 1) equation found]
          omega
      · rw [if_neg placed]
        constructor
        · intro impossible
          cases impossible
        · intro all
          exact absurd (all 0 first rfl) placed

theorem validate_indices_iff (graph : Graph) : graph.validateIndices = .ok () ↔ Dense graph.equations := by
  have checked := misplaced_none_iff 0 graph.equations
  simp only [Nat.zero_add] at checked
  rw [Dense, ← checked, validateIndices]
  cases misplaced 0 graph.equations <;> simp

theorem reindex_dense (start : Nat) (equations : List Equation)
    (front : ∀ position equation, position < start → equations[position]? = some equation → equation.index = position) :
    Dense (reindex start equations) := by
  intro position equation found
  rw [reindex, List.getElem?_mapIdx] at found
  obtain ⟨before, there, changed⟩ := Option.map_eq_some_iff.mp found
  by_cases early : position < start
  · rw [if_pos early] at changed
    subst equation
    exact front position before early there
  · rw [if_neg early] at changed
    subst equation
    rfl

theorem set_dense (equations : List Equation) (index : Nat) (before changed : Equation) (dense : Dense equations)
    (found : equations[index]? = some before) (same : changed.index = before.index) :
    Dense (equations.set index changed) := by
  intro position equation read
  by_cases here : index = position
  · subst position
    have bound := (List.getElem?_eq_some_iff.mp found).1
    rw [List.getElem?_set_self bound] at read
    cases read
    rw [same]
    exact dense index before found
  · rw [List.getElem?_set_ne here] at read
    exact dense position equation read

theorem push_dense (graph next : Graph) (expression : String) (index : Nat) (dense : Dense graph.equations)
    (done : graph.push expression = .ok (index, next)) : Dense next.equations := by
  rw [push] at done
  cases checked : validateExpression expression with
  | error defect => simp [checked] at done
  | ok _ =>
      simp only [checked, Except.ok.injEq, Prod.mk.injEq] at done
      obtain ⟨_, rfl⟩ := done
      intro position equation found
      rw [List.getElem?_append] at found
      by_cases early : position < graph.equations.length
      · rw [if_pos early] at found
        exact dense position equation found
      · rw [if_neg early, List.getElem?_singleton] at found
        by_cases last : position - graph.equations.length = 0
        · rw [if_pos last] at found
          cases found
          change graph.equations.length = position
          omega
        · rw [if_neg last] at found
          cases found

theorem insert_dense (graph next : Graph) (index : Nat) (expression : String) (dense : Dense graph.equations)
    (done : graph.insert index expression = .ok next) : Dense next.equations := by
  rw [insert] at done
  by_cases outside : graph.size < index
  · simp [outside] at done
  · cases checked : validateExpression expression with
    | error defect => simp [outside, checked] at done
    | ok _ =>
        simp only [outside, checked, if_false, Except.ok.injEq] at done
        subst next
        apply reindex_dense
        intro position equation early found
        rw [List.getElem?_insertIdx_of_lt early] at found
        exact dense position equation found

theorem remove_dense (graph next : Graph) (index : Nat) (removed : Equation) (dense : Dense graph.equations)
    (done : graph.remove index = .ok (removed, next)) : Dense next.equations := by
  rw [remove] at done
  cases found : graph.equations[index]? with
  | none => simp [found] at done
  | some equation =>
      simp only [found, Except.ok.injEq, Prod.mk.injEq] at done
      obtain ⟨_, rfl⟩ := done
      apply reindex_dense
      intro position equation early there
      rw [List.getElem?_eraseIdx_of_lt early] at there
      exact dense position equation there

theorem toggle_disabled_dense (graph next : Graph) (index : Nat) (flag : Bool) (dense : Dense graph.equations)
    (done : graph.toggleDisabled index = .ok (flag, next)) : Dense next.equations := by
  rw [toggleDisabled] at done
  cases found : graph.equations[index]? with
  | none => simp [found] at done
  | some equation =>
      simp only [found, Except.ok.injEq, Prod.mk.injEq] at done
      obtain ⟨_, rfl⟩ := done
      exact set_dense graph.equations index equation _ dense found rfl

theorem set_expression_dense (graph next : Graph) (index : Nat) (expression : String) (dense : Dense graph.equations)
    (done : graph.setExpression index expression = .ok next) : Dense next.equations := by
  rw [setExpression] at done
  cases checked : validateExpression expression with
  | error defect => simp [checked] at done
  | ok _ =>
      cases found : graph.equations[index]? with
      | none => simp [checked, found] at done
      | some equation =>
          simp only [checked, found, Except.ok.injEq] at done
          subst next
          exact set_dense graph.equations index equation _ dense found rfl

theorem after_dense (graph : Graph) (change : Edit) (dense : Dense graph.equations) :
    Dense (graph.after change).equations := by
  cases change with
  | push expression =>
      cases done : graph.push expression with
      | error defect => simpa only [after, edit, done] using dense
      | ok result => simpa only [after, edit, done] using push_dense graph result.2 expression result.1 dense done
  | insert index expression =>
      cases done : graph.insert index expression with
      | error defect => simpa only [after, edit, done] using dense
      | ok next => simpa only [after, edit, done] using insert_dense graph next index expression dense done
  | remove index =>
      cases done : graph.remove index with
      | error defect => simpa only [after, edit, done] using dense
      | ok result => simpa only [after, edit, done] using remove_dense graph result.2 index result.1 dense done
  | setExpression index expression =>
      cases done : graph.setExpression index expression with
      | error defect => simpa only [after, edit, done] using dense
      | ok next => simpa only [after, edit, done] using set_expression_dense graph next index expression dense done
  | toggleDisabled index =>
      cases done : graph.toggleDisabled index with
      | error defect => simpa only [after, edit, done] using dense
      | ok result => simpa only [after, edit, done] using toggle_disabled_dense graph result.2 index result.1 dense done
  | toggleAnimate => exact dense
  | rename name => exact dense
  | describe description => exact dense

theorem parse_dense (text : String) (graph : Graph) (done : codec.parse text = .ok graph) : Dense graph.equations := by
  rw [← validate_indices_iff]
  rw [Json.Codec.parse, codec] at done
  dsimp only at done
  cases fields : fieldsCodec.read text.toList with
  | error fault => simp [fields] at done
  | ok result =>
      cases indices : result.1.validateIndices with
      | error defect => simp [fields, indices] at done
      | ok _ =>
          simp only [fields, indices] at done
          split at done
          · cases done
            exact indices
          · cases done

inductive Built : Graph → Prop where
  | create (name : String) : Built (.create name)
  | standard : Built .standard
  | parsed (text : String) (graph : Graph) (done : codec.parse text = .ok graph) : Built graph
  | edited (graph : Graph) (change : Edit) (before : Built graph) : Built (graph.after change)

theorem built_dense (graph : Graph) (built : graph.Built) : Dense graph.equations := by
  induction built with
  | create name => exact (validate_indices_iff _).mp rfl
  | standard => exact (validate_indices_iff _).mp rfl
  | parsed text graph done => exact parse_dense text graph done
  | edited graph change _ ih => exact after_dense graph change ih

theorem built_valid (graph : Graph) (built : graph.Built) : graph.validateIndices = .ok () :=
  (validate_indices_iff graph).mpr (built_dense graph built)

end Plotter.Graph
