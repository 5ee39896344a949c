import Mathlib.Data.List.Forall2
import Plotter.Proofs.PoolSteps

/-!
One pool inside another. The slots of the smaller pool stand at certain places of the larger one; through handles
that correspond, the same work gives the same answers, the same engines and the same calls, because the numbers of
slots are only names and the journal is only written to.
-/

set_option autoImplicit false

namespace Plotter

def Picks {α : Type} (places : List Nat) (full part : List α) : Prop := part.map some = places.map (full[·]?)

section Picks

variable {α : Type} {places : List Nat} {full part : List α}

theorem picks_length (picks : Picks places full part) : part.length = places.length := by
  simpa using congrArg List.length picks

theorem picks_get (picks : Picks places full part) (index place : Nat) (found : places[index]? = some place) :
    part[index]? = full[place]? ∧ index < part.length := by
  have inside : index < part.length := by
    rw [picks_length picks]
    exact (List.getElem?_eq_some_iff.mp found).1
  have same := congrArg (·[index]?) picks
  simp only [List.getElem?_map, found, Option.map_some] at same
  rw [List.getElem?_eq_getElem inside, Option.map_some, Option.some.injEq] at same
  exact ⟨(List.getElem?_eq_getElem inside).trans same, inside⟩

theorem picks_bound (picks : Picks places full part) (place : Nat) (member : place ∈ places) : place < full.length := by
  obtain ⟨index, found⟩ := List.mem_iff_getElem?.mp member
  obtain ⟨same, inside⟩ := picks_get picks index place found
  apply Nat.lt_of_not_le
  intro outside
  rw [List.getElem?_eq_getElem inside, List.getElem?_eq_none outside] at same
  cases same

theorem picks_set (distinct : places.Nodup) (picks : Picks places full part) (index place : Nat) (item : α)
    (found : places[index]? = some place) : Picks places (full.set place item) (part.set index item) := by
  have bound := picks_bound picks place (List.mem_of_getElem? found)
  apply List.ext_getElem?
  intro other
  have before := congrArg (·[other]?) picks
  simp only [List.getElem?_map] at before ⊢
  by_cases same : other = index
  · subst other
    rw [found, List.getElem?_set_self (picks_get picks index place found).2]
    simp [bound]
  · rw [List.getElem?_set_ne (Ne.symm same), before]
    cases there : places[other]? with
    | none => rfl
    | some elsewhere =>
        -- Distinct places: what is written at one of them is not read at another.
        have apart : place ≠ elsewhere := by
          intro equal
          subst elsewhere
          obtain ⟨inside, _⟩ := List.getElem?_eq_some_iff.mp there
          exact same ((List.getElem?_inj inside distinct).mp (there.trans found.symm))
        simp [apart]

theorem picks_set_elsewhere (picks : Picks places full part) (place : Nat) (item : α) (apart : place ∉ places) :
    Picks places (full.set place item) part := by
  rw [Picks, picks]
  apply List.map_congr_left
  intro other member
  rw [List.getElem?_set_ne]
  intro same
  exact apart (same ▸ member)

theorem picks_push (picks : Picks places full part) (item : α) :
    Picks (places ++ [full.length]) (full ++ [item]) (part ++ [item]) := by
  have old : places.map ((full ++ [item])[·]?) = places.map (full[·]?) := by
    apply List.map_congr_left
    intro place member
    rw [List.getElem?_append_left (picks_bound picks place member)]
  rw [Picks, List.map_append, List.map_append, picks, old]
  simp

theorem picks_push_elsewhere (picks : Picks places full part) (item : α) : Picks places (full ++ [item]) part := by
  rw [Picks, picks]
  apply List.map_congr_left
  intro place member
  rw [List.getElem?_append_left (picks_bound picks place member)]

end Picks

theorem rel_cases {α : Type} (related : α → α → Prop) (left right : Option α) (both : Option.Rel related left right) :
    (left = none ∧ right = none) ∨ ∃ first second, left = some first ∧ right = some second ∧ related first second := by
  cases both with
  | none => exact .inl ⟨rfl, rfl⟩
  | some relation => exact .inr ⟨_, _, rfl, rfl, relation⟩

theorem forall_cases {α : Type} (related : α → α → Prop) (left right : List α) (both : List.Forall₂ related left right)
    (index : Nat) :
    (left[index]? = none ∧ right[index]? = none) ∨
      ∃ first second, left[index]? = some first ∧ right[index]? = some second ∧ related first second := by
  induction both generalizing index with
  | nil => exact .inl ⟨rfl, rfl⟩
  | cons relation _ ih =>
      cases index with
      | zero => exact .inr ⟨_, _, rfl, rfl, relation⟩
      | succ index => exact ih index

def Appending {α : Type} (action : Rig → α × Rig) : Prop :=
  ∀ engine past journal, action ⟨engine, past ++ journal⟩ =
    ((action ⟨engine, journal⟩).1,
      ⟨(action ⟨engine, journal⟩).2.engine, past ++ (action ⟨engine, journal⟩).2.journal⟩)

theorem appending_empty {α : Type} (action : Rig → α × Rig) (appending : Appending action) (engine : Engine)
    (journal : Journal) :
    action ⟨engine, journal⟩ =
      ((action ⟨engine, #[]⟩).1,
        ⟨(action ⟨engine, #[]⟩).2.engine, journal ++ (action ⟨engine, #[]⟩).2.journal⟩) := by
  simpa using appending engine journal #[]

theorem appending_viewport (viewport : Viewport) : Appending fun rig => ((), rig.setViewport viewport) := by
  intro engine past journal
  simp [Rig.setViewport, Rig.record]

theorem appending_step (target : Camera) (factor : Float32) : Appending fun rig => rig.step target factor := by
  intro engine past journal
  cases pending : engine.renderFault with
  | some fault =>
      have result := fun journal => step_pending ⟨engine, journal⟩ target factor fault pending
      simp [result]
  | none =>
      have result := fun journal => step_clear ⟨engine, journal⟩ target factor pending
      simp [result]

theorem appending_load (graph : Graph) : Appending fun rig => rig.load graph := by
  intro engine past journal
  cases failing : engine.animationFault with
  | some fault =>
      have result := fun journal => load_failing ⟨engine, journal⟩ graph fault failing
      simp [result]
  | none =>
      cases flawed : Rig.firstFlaw 1 graph.payload with
      | some found =>
          have result := fun journal => load_flawed ⟨engine, journal⟩ graph found.1 found.2 failing flawed
          simp [result]
      | none =>
          have result := fun journal => load_sound ⟨engine, journal⟩ graph failing flawed
          simp [result]

theorem appending_render : Appending Rig.renderFrame := by
  intro engine past journal
  cases pending : engine.renderFault <;> simp [Rig.renderFrame, Rig.record, pending]

theorem appending_equations (formulas : List Formula) : Appending fun rig => rig.setEquations formulas := by
  intro engine past journal
  cases flawed : Rig.firstFlaw 1 formulas <;> simp [Rig.setEquations, Rig.record, flawed]

theorem appending_command (command : Rig.Command) : Appending fun rig => rig.perform command := by
  intro engine past journal
  cases command with
  | start => simp [Rig.perform, Rig.start, Rig.record]
  | renderFrame => exact appending_render engine past journal
  | failNextRender message => simp [Rig.perform, Rig.failNextRender]
  | setCameraRotation x y => simp [Rig.perform, Rig.setCameraRotation, Rig.record]
  | setCameraZoom zoom => simp [Rig.perform, Rig.setCameraZoom, Rig.record]
  | setCamera camera =>
      simp [Rig.perform, Rig.setCamera, Rig.setCameraRotation, Rig.setCameraZoom, Rig.record]
  | setViewport viewport => simp [Rig.perform, Rig.setViewport, Rig.record]
  | setAnimationEnabled enabled => simp [Rig.perform, Rig.setAnimationEnabled, Rig.record]
  | setEquations formulas => exact appending_equations formulas engine past journal

structure Handle.Echoes (places : List Nat) (full part : Handle) : Prop where
  surface : full.surface = part.surface
  slot : places[part.slot]? = some full.slot

theorem echoes_more (places more : List Nat) (full part : Handle) (echoes : full.Echoes places part) :
    full.Echoes (places ++ more) part :=
  ⟨echoes.surface, by
    rw [List.getElem?_append_left (List.getElem?_eq_some_iff.mp echoes.slot).1]
    exact echoes.slot⟩

structure Pool.Mirrors (places : List Nat) (full part : Pool) : Prop where
  distinct : places.Nodup
  picks : Picks places full.slots part.slots

theorem mirrors_engine (places : List Nat) (full part : Pool) (larger smaller : Handle)
    (mirrors : full.Mirrors places part) (echoes : larger.Echoes places smaller) :
    full.engine? larger = part.engine? smaller := by
  rw [Pool.engine?, Pool.engine?, (picks_get mirrors.picks smaller.slot larger.slot echoes.slot).1]

theorem mirrors_live (places : List Nat) (full part : Pool) (larger smaller : Handle)
    (mirrors : full.Mirrors places part) (echoes : larger.Echoes places smaller) :
    full.isLive larger = part.isLive smaller := by
  rw [Pool.isLive, Pool.isLive, mirrors_engine places full part larger smaller mirrors echoes]

structure Pool.Abreast (places : List Nat) (full part fullNext partNext : Pool) : Prop where
  mirrors : fullNext.Mirrors places partNext
  written : ∃ calls, fullNext.journal = full.journal ++ calls ∧ partNext.journal = part.journal ++ calls
  plans : fullNext.plan = full.plan ∧ partNext.plan = part.plan
  registered : fullNext.registered = full.registered ∧ partNext.registered = part.registered

theorem abreast_refl (places : List Nat) (full part : Pool) (mirrors : full.Mirrors places part) :
    Pool.Abreast places full part full part :=
  ⟨mirrors, ⟨#[], by simp⟩, ⟨rfl, rfl⟩, ⟨rfl, rfl⟩⟩

inductive Pool.Worked {α : Type} (places : List Nat) (full part : Pool) :
    Option (α × Pool) → Option (α × Pool) → Prop where
  | missed : Worked places full part none none
  | done (answer : α) (fullNext partNext : Pool) (abreast : Pool.Abreast places full part fullNext partNext) :
      Worked places full part (some (answer, fullNext)) (some (answer, partNext))

theorem with_engine_worked {α : Type} (places : List Nat) (full part : Pool) (larger smaller : Handle)
    (action : Rig → α × Rig) (appending : Appending action) (mirrors : full.Mirrors places part)
    (echoes : larger.Echoes places smaller) :
    Pool.Worked places full part (full.withEngine larger action) (part.withEngine smaller action) := by
  rw [Pool.withEngine, Pool.withEngine, mirrors_engine places full part larger smaller mirrors echoes]
  cases part.engine? smaller with
  | none => exact .missed
  | some engine =>
      dsimp only
      rw [appending_empty action appending engine full.journal, appending_empty action appending engine part.journal]
      refine .done _ _ _ ⟨⟨mirrors.distinct, ?_⟩, ⟨_, rfl, rfl⟩, ⟨rfl, rfl⟩, ⟨rfl, rfl⟩⟩
      exact picks_set mirrors.distinct mirrors.picks smaller.slot larger.slot _ echoes.slot

theorem release_abreast (places : List Nat) (full part : Pool) (larger smaller : Handle)
    (mirrors : full.Mirrors places part) (echoes : larger.Echoes places smaller) :
    (full.release larger).1 = (part.release smaller).1 ∧
      Pool.Abreast places full part (full.release larger).2 (part.release smaller).2 := by
  rw [Pool.release, Pool.release, mirrors_engine places full part larger smaller mirrors echoes]
  cases part.engine? smaller with
  | none => exact ⟨rfl, abreast_refl places full part mirrors⟩
  | some engine =>
      refine ⟨rfl, ⟨mirrors.distinct, ?_⟩, ⟨#[.release], ?_⟩, ⟨rfl, rfl⟩, ⟨rfl, rfl⟩⟩
      · exact picks_set mirrors.distinct mirrors.picks smaller.slot larger.slot _ echoes.slot
      · simp [Rig.release, Rig.record]

theorem sync_abreast (places : List Nat) (full part : Pool) (larger smaller : Handle) (graph : Graph)
    (mirrors : full.Mirrors places part) (echoes : larger.Echoes places smaller) :
    (full.sync larger graph).1 = (part.sync smaller graph).1 ∧
      Pool.Abreast places full part (full.sync larger graph).2 (part.sync smaller graph).2 := by
  unfold Pool.sync
  cases graph.validateIndices with
  | error defect => exact ⟨rfl, abreast_refl places full part mirrors⟩
  | ok _ =>
      have worked := with_engine_worked places full part larger smaller _ (appending_load graph) mirrors echoes
      dsimp only
      generalize full.withEngine larger _ = ahead at worked ⊢
      generalize part.withEngine smaller _ = behind at worked ⊢
      cases worked with
      | missed =>
          refine ⟨?_, abreast_refl places full part mirrors⟩
          rw [Handle.stale, echoes.surface, Handle.stale]
      | done answer fullNext partNext abreast => cases answer <;> exact ⟨rfl, abreast⟩

theorem resize_abreast (places : List Nat) (full part : Pool) (recorded viewport : Viewport) (larger smaller : Handle)
    (mirrors : full.Mirrors places part) (echoes : larger.Echoes places smaller) :
    (recorded.resize full larger viewport).1 = (recorded.resize part smaller viewport).1 ∧
      (recorded.resize full larger viewport).2.1 = (recorded.resize part smaller viewport).2.1 ∧
      Pool.Abreast places full part (recorded.resize full larger viewport).2.2
        (recorded.resize part smaller viewport).2.2 := by
  unfold Viewport.resize
  split
  · exact ⟨rfl, rfl, abreast_refl places full part mirrors⟩
  · have worked := with_engine_worked places full part larger smaller _ (appending_viewport viewport) mirrors echoes
    generalize full.withEngine larger _ = ahead at worked ⊢
    generalize part.withEngine smaller _ = behind at worked ⊢
    cases worked with
    | missed =>
        refine ⟨?_, rfl, abreast_refl places full part mirrors⟩
        rw [Handle.stale, echoes.surface, Handle.stale]
    | done answer fullNext partNext abreast => exact ⟨rfl, rfl, abreast⟩

theorem mirrors_brought (places : List Nat) (full part : Pool) (surface : Surface) (fault : Option EngineFault)
    (mirrors : full.Mirrors places part) :
    (full.brought surface fault).Mirrors (places ++ [full.slots.length]) (part.brought surface fault) ∧
      (full.newHandle surface.id).Echoes (places ++ [full.slots.length]) (part.newHandle surface.id) := by
  refine ⟨⟨?_, picks_push mirrors.picks _⟩, ⟨rfl, ?_⟩⟩
  · refine List.nodup_append.mpr ⟨mirrors.distinct, by simp, ?_⟩
    intro place member other last
    rw [List.mem_singleton.mp last]
    exact Nat.ne_of_lt (picks_bound mirrors.picks place member)
  · change (places ++ [full.slots.length])[part.slots.length]? = some full.slots.length
    rw [picks_length mirrors.picks, List.getElem?_concat_length]

end Plotter
