import Mathlib.Data.List.Forall2
import Plotter.Proofs.Coherence
import Plotter.Proofs.GraphIndices

set_option autoImplicit false

namespace Plotter

namespace Session

structure Dormant (session : Session) : Prop where
  coherent : session.Coherent
  quiet : session.pool.Quiet

theorem dormant_of_dead (session : Session) (coherent : session.Coherent) (dead : session.engineIsLive = false) :
    session.Dormant := by
  refine ⟨coherent, ?_⟩
  rw [quiet_iff, ← engine_live_iff session coherent, dead]
  simp

theorem dormant_dead (session : Session) (dormant : session.Dormant) : session.engineIsLive = false := by
  apply Bool.eq_false_iff.mpr
  rw [Ne, engine_live_iff session dormant.coherent]
  exact (quiet_iff session.pool).mp dormant.quiet

theorem dormant_unready (session : Session) (dormant : session.Dormant) : session.isReady = false := by
  simp [isReady, dormant_dead session dormant]

theorem dormant_status (session : Session) (dormant : session.Dormant) :
    session.status = if session.stored = .ready then .released else session.stored := by
  simp [status, dormant_dead session dormant]

theorem dormant_let_go (session : Session) (dormant : session.Dormant) : session.letGo = session.pool := by
  cases held : session.lease with
  | none => exact let_go_none session held
  | some handle =>
      have dead := quiet_dead session.pool dormant.quiet handle
      rw [let_go_some session handle held, release_dead session.pool handle dead]

theorem dormant_with_engine {α : Type} (session : Session) (dormant : session.Dormant) (handle : Handle)
    (action : Rig → α × Rig) (answer : α) (next : Pool) :
    session.pool.withEngine handle action ≠ some (answer, next) := by
  rw [with_engine_dead session.pool handle action (quiet_dead session.pool dormant.quiet handle)]
  simp

theorem dormant_live_camera (session : Session) (dormant : session.Dormant) (camera : Camera) :
    session.liveCamera ≠ some camera := by
  intro shown
  have live := (live_camera_iff session).mp (by simp [shown])
  rw [dormant_dead session dormant] at live
  cases live

structure Still (before after : Session) : Prop where
  dormant : after.Dormant
  journal : after.pool.journal = before.pool.journal
  target : after.controller.target = before.controller.target
  rendered : after.frames.ticksRendered = before.frames.ticksRendered
  faults : after.frames.tickFaults = before.frames.tickFaults
  status : after.status = before.status
  notices : after.notices = before.notices

theorem still_refl (session : Session) (dormant : session.Dormant) : session.Still session :=
  ⟨dormant, rfl, rfl, rfl, rfl, rfl, rfl⟩

theorem still_forget (before session : Session) (still : before.Still session) :
    before.Still session.forgetReleasedEngine := by
  have coherent := forget_coherent session still.dormant.coherent
  have known := dormant_status session still.dormant
  rw [forget_next, dormant_let_go session still.dormant] at coherent ⊢
  have dormant := Dormant.mk coherent still.dormant.quiet
  refine ⟨dormant, still.journal, still.target, ?_, ?_, ?_, still.notices⟩
  · simpa using still.rendered
  · simpa using still.faults
  · rw [dormant_status _ dormant, ← still.status, known]
    by_cases ready : session.stored = .ready <;> simp [ready]

theorem still_sized (before session : Session) (viewport : Viewport) (still : before.Still session) :
    before.Still { session with viewport := viewport }.settleSize := by
  refine ⟨⟨?_, still.dormant.quiet⟩, still.journal, still.target, still.rendered, still.faults, still.status,
    still.notices⟩
  exact keeps_coherent _ session ⟨rfl, rfl, rfl, rfl, rfl, fades_refl session.pool⟩ still.dormant.coherent

theorem still_controller (before session : Session) (controller : Controller)
    (same : controller.target = session.controller.target) (still : before.Still session) :
    before.Still { session with controller := controller } := by
  refine ⟨⟨?_, still.dormant.quiet⟩, still.journal, same.trans still.target, still.rendered, still.faults, still.status,
    still.notices⟩
  exact controller_coherent session controller still.dormant.coherent

theorem still_tick (before session : Session) (still : before.Still session) : before.Still session.tick.2 := by
  have outcome := tick_cases session
  generalize session.tick = result at outcome ⊢
  cases outcome with
  | skipped halted => exact still
  | terminated running lost => exact still_forget before session still
  | rendered running handle holding next done =>
      exact absurd done (dormant_with_engine session still.dormant handle _ _ next)
  | faulted running handle holding fault next done =>
      exact absurd done (dormant_with_engine session still.dormant handle _ _ next)

theorem still_resize (before session : Session) (viewport : Viewport) (still : before.Still session) :
    before.Still (session.resize viewport).2 := by
  have outcome := resize_cases session viewport
  generalize session.resize viewport = result at outcome ⊢
  cases outcome with
  | invalid zero => exact still
  | recorded valid unheld => exact still_sized before session viewport still
  | forwarded valid handle held next done => exact absurd done (dormant_with_engine session still.dormant handle _ _ next)
  | lost valid handle held dead =>
      have later := still_sized before session.forgetReleasedEngine viewport (still_forget before session still)
      rw [forget_next] at later ⊢
      exact later

theorem still_reload (before session : Session) (graph : Graph) (still : before.Still session) :
    before.Still (session.reload graph).2 := by
  have outcome := reload_cases session graph
  generalize session.reload graph = result at outcome ⊢
  cases outcome with
  | absent unheld => exact still
  | misplaced handle held defect flawed => exact still
  | lost handle held dense dead => exact still_forget before session still
  | loaded handle held dense next done => exact absurd done (dormant_with_engine session still.dormant handle _ _ next)
  | refused handle held dense fault next done =>
      exact absurd done (dormant_with_engine session still.dormant handle _ _ next)

theorem still_preserved (before : Session) : Preserved before.Still where
  forget := fun session _ _ _ => still_forget before session
  tick := still_tick before
  resize := still_resize before
  reload := still_reload before
  press := fun session => still_controller before session _ rfl
  lift := fun session => still_controller before session _ rfl
  drag := fun session camera _ _ shown still => absurd shown (dormant_live_camera session still.dormant camera)
  zoom := fun session camera _ shown still => absurd shown (dormant_live_camera session still.dormant camera)

theorem tick_idle (session : Session) (dormant : session.Dormant) :
    session.tick.1 = .skipped ∨ session.tick.1 = .terminated := by
  have outcome := tick_cases session
  generalize session.tick = result at outcome ⊢
  cases outcome with
  | skipped halted => exact .inl rfl
  | terminated running lost => exact .inr rfl
  | rendered running handle holding next done => exact absurd done (dormant_with_engine session dormant handle _ _ next)
  | faulted running handle holding fault next done =>
      exact absurd done (dormant_with_engine session dormant handle _ _ next)

theorem advance_idle {σ : Type} [FrameSource σ] (fuel : Nat) (run : Run σ) (dormant : run.session.Dormant) :
    (Run.advance fuel run).rendered = run.rendered := by
  induction fuel generalizing run with
  | zero => rfl
  | succ fuel ih =>
      rw [Run.advance]
      split
      · rfl
      · cases FrameSource.next? run.source with
        | none => rfl
        | some source =>
            have still := still_tick run.session run.session (still_refl run.session dormant)
            -- Whatever is dormant stays so after a tick, and draws nothing in it.
            have undrawn : run.session.tick.1 ≠ .rendered := by
              rcases tick_idle run.session dormant with skipped | terminated
              · simp [skipped]
              · simp [terminated]
            dsimp only
            rw [ih _ still.dormant, if_neg undrawn]

theorem reload_idle (session : Session) (graph : Graph) (dormant : session.Dormant) (built : graph.Built) :
    (session.reload graph).1 = .ok false := by
  have outcome := reload_cases session graph
  generalize session.reload graph = result at outcome ⊢
  cases outcome with
  | absent unheld => rfl
  | misplaced handle held defect flawed =>
      rw [Graph.built_valid graph built] at flawed
      cases flawed
  | lost handle held dense dead => rfl
  | loaded handle held dense next done => exact absurd done (dormant_with_engine session dormant handle _ _ next)
  | refused handle held dense fault next done => exact absurd done (dormant_with_engine session dormant handle _ _ next)

def sizeAnswer (viewport : Viewport) : Answer :=
  if viewport.width = 0 ∨ viewport.height = 0 then .failed (.invalidViewport viewport) else .done

theorem resize_idle (session : Session) (viewport : Viewport) :
    Answer.ofResult (session.resize viewport).1 = sizeAnswer viewport := by
  have outcome := resize_cases session viewport
  generalize session.resize viewport = result at outcome ⊢
  rw [sizeAnswer]
  cases outcome with
  | invalid zero =>
      have refused : viewport.width = 0 ∨ viewport.height = 0 := by
        apply Decidable.of_not_not
        intro positive
        rw [(viewport_valid_iff viewport).mpr positive] at zero
        cases zero
      rw [if_pos refused]
      rfl
  | recorded valid unheld =>
      rw [if_neg ((viewport_valid_iff viewport).mp valid)]
      rfl
  | forwarded valid handle held next done =>
      rw [if_neg ((viewport_valid_iff viewport).mp valid)]
      rfl
  | lost valid handle held dead =>
      rw [if_neg ((viewport_valid_iff viewport).mp valid)]
      rfl

def IdleAnswer : Operation → Answer → Prop
  | .acquire, _ => False
  | .tick, answer => answer = .outcome .skipped ∨ answer = .outcome .terminated
  | .runFrames _, answer => answer = .rendered 0
  | .runPaced _, answer => answer = .rendered 0
  | .reload graph, answer => graph.Built → answer = .loaded false
  | .resize viewport, answer => answer = sizeAnswer viewport
  | .dispatch (.resize width height), answer => answer = sizeAnswer ⟨width, height⟩
  | .drain, answer => ∃ items, answer = .notices items
  | _, answer => answer = .done

theorem dispatch_idle (session : Session) (event : HostEvent) :
    IdleAnswer (.dispatch event) (session.perform (.dispatch event)).1 := by
  cases event with
  | resize width height => exact resize_idle session ⟨width, height⟩
  | pointerDown => rfl
  | pointerUp => rfl
  | pointerMove deltaX deltaY => rfl
  | wheel deltaZ => rfl
  | frame => rfl

theorem perform_idle (session : Session) (operation : Operation) (dormant : session.Dormant)
    (kept : operation ≠ .acquire) : IdleAnswer operation (session.perform operation).1 := by
  cases operation with
  | acquire => exact absurd rfl kept
  | tick =>
      rcases tick_idle session dormant with skipped | terminated
      · exact .inl (congrArg Answer.outcome skipped)
      · exact .inr (congrArg Answer.outcome terminated)
  | runFrames frames => exact congrArg Answer.rendered (advance_idle _ _ dormant)
  | runPaced frames => exact congrArg Answer.rendered (advance_idle _ _ dormant)
  | reload graph =>
      intro built
      rw [perform_reload, reload_idle session graph dormant built]
  | resize viewport => exact resize_idle session viewport
  | dispatch event => exact dispatch_idle session event
  | drain => exact ⟨_, rfl⟩
  | teardown => rfl
  | pointerDown => rfl
  | pointerUp => rfl
  | pointerMove deltaX deltaY => rfl
  | wheel deltaZ => rfl

def Answer.drained : Answer → List Notice
  | .notices items => items
  | _ => []

@[simp] theorem of_result_undrained (result : Except Error Unit) : (Answer.ofResult result).drained = [] := by
  cases result <;> rfl

theorem perform_undrained (session : Session) (operation : Operation) (kept : operation ≠ .drain) :
    (session.perform operation).1.drained = [] := by
  cases operation with
  | drain => exact absurd rfl kept
  | acquire => exact of_result_undrained session.acquire.1
  | resize viewport => exact of_result_undrained (session.resize viewport).1
  | dispatch event => exact of_result_undrained (session.dispatch event).1
  | reload graph =>
      rw [perform_reload]
      cases (session.reload graph).1 <;> rfl
  | teardown => rfl
  | pointerDown => rfl
  | pointerUp => rfl
  | pointerMove deltaX deltaY => rfl
  | wheel deltaZ => rfl
  | tick => rfl
  | runFrames frames => rfl
  | runPaced frames => rfl

/-- A run of operations from one state to another in which nothing happens. The notices that come out,
with those that still wait, are the notices of before. -/
structure Silent (before : Session) (operations : List Operation) (answers : List Answer) (after : Session) : Prop where
  journal : after.pool.journal = before.pool.journal
  notices : answers.flatMap Answer.drained ++ after.notices.items = before.notices.items
  target : after.controller.target = before.controller.target
  rendered : after.frames.ticksRendered = before.frames.ticksRendered
  faults : after.frames.tickFaults = before.frames.tickFaults
  unready : after.isReady = false
  status : after.status =
    if before.status = .loading ∧ Operation.teardown ∈ operations then .released else before.status
  idle : List.Forall₂ IdleAnswer operations answers

theorem silent_still (before after : Session) (operation : Operation) (answer : Answer) (still : before.Still after)
    (lasting : operation ≠ .teardown) (undrained : answer.drained = []) (idle : IdleAnswer operation answer) :
    before.Silent [operation] [answer] after where
  journal := still.journal
  notices := by simp [undrained, still.notices]
  target := still.target
  rendered := still.rendered
  faults := still.faults
  unready := dormant_unready after still.dormant
  status := by simp [lasting.symm, still.status]
  idle := .cons idle .nil

theorem silent_trans (first second third : Session) (earlier later : List Operation) (said answered : List Answer)
    (start : first.Silent earlier said second) (rest : second.Silent later answered third) :
    first.Silent (earlier ++ later) (said ++ answered) third where
  journal := rest.journal.trans start.journal
  notices := by rw [List.flatMap_append, List.append_assoc, rest.notices, start.notices]
  target := rest.target.trans start.target
  rendered := rest.rendered.trans start.rendered
  faults := rest.faults.trans start.faults
  unready := rest.unready
  status := by
    rw [rest.status, start.status]
    by_cases loading : first.status = .loading
    · by_cases torn : Operation.teardown ∈ earlier <;> simp [loading, torn]
    · simp [loading]
  idle := List.rel_append start.idle rest.idle

theorem teardown_silent (session : Session) (dormant : session.Dormant) :
    session.teardown.Dormant ∧ session.Silent [.teardown] [.done] session.teardown := by
  have torn : session.teardown.Dormant :=
    ⟨teardown_coherent session dormant.coherent, teardown_quiet session dormant.coherent⟩
  have unready := dormant_unready _ torn
  have known := dormant_status _ torn
  rw [teardown_next, dormant_let_go session dormant,
    release_surface_next_quiet session.pool _ dormant.quiet] at torn unready known ⊢
  refine ⟨torn, rfl, rfl, rfl, stop_rendered _, stop_faults _, unready, ?_, ?_⟩
  · rw [known, dormant_status session dormant]
    cases session.stored <;> simp
  · exact .cons rfl .nil

theorem drain_silent (session : Session) (dormant : session.Dormant) :
    session.drain.2.Dormant ∧ session.Silent [.drain] [.notices session.drain.1] session.drain.2 := by
  have drained : session.drain.2.Dormant := ⟨drain_coherent session dormant.coherent, dormant.quiet⟩
  refine ⟨drained, rfl, ?_, rfl, rfl, rfl, dormant_unready _ drained, ?_, ?_⟩
  · simp [drain, NoticeQueue.drain, Answer.drained]
  · simp only [List.mem_singleton, reduceCtorEq, and_false, if_false]
    rfl
  · exact .cons ⟨_, rfl⟩ .nil

theorem perform_silent (session : Session) (operation : Operation) (dormant : session.Dormant)
    (kept : operation ≠ .acquire) :
    (session.perform operation).2.Dormant ∧
      session.Silent [operation] [(session.perform operation).1] (session.perform operation).2 := by
  by_cases torn : operation = .teardown
  · subst operation
    exact teardown_silent session dormant
  by_cases drained : operation = .drain
  · subst operation
    exact drain_silent session dormant
  have still : session.Still (session.perform operation).2 :=
    perform_keeps session.Still (still_preserved session) session operation (fun acquired => absurd acquired kept)
      (fun same => absurd same torn) (fun same => absurd same drained) (still_refl session dormant)
  have idle := perform_idle session operation dormant kept
  exact ⟨still.dormant,
    silent_still session _ operation _ still torn (perform_undrained session operation drained) idle⟩

theorem history_silent (session : Session) (operations : List Operation) (dormant : session.Dormant)
    (unacquired : Operation.acquire ∉ operations) :
    session.Silent operations (History.run perform session operations).1 (History.run perform session operations).2 := by
  induction operations generalizing session with
  | nil => exact ⟨rfl, rfl, rfl, rfl, rfl, dormant_unready session dormant, by simp, .nil⟩
  | cons operation rest ih =>
      have kept : operation ≠ .acquire := by
        intro same
        exact unacquired (by simp [same])
      obtain ⟨later, step⟩ := perform_silent session operation dormant kept
      have tail := ih _ later fun member => unacquired (by simp [member])
      exact silent_trans session _ _ [operation] rest [_] _ step tail

end Session

theorem post_release_silence (plan : List Provision) (surface : Surface) (config : Config) (session current : Session)
    (stage : Stage) (operations : List Session.Operation) (created : Session.create plan surface config = .ok session)
    (reached : Stage.Reachable (.create session) stage) (playing : stage.play = .ok current)
    (dead : current.engineIsLive = false) (unacquired : Session.Operation.acquire ∉ operations) :
    let run := History.run Session.perform current operations
    current.Silent operations run.1 run.2 := by
  have coherent := Stage.playing_coherent plan surface config session current stage created reached playing
  exact Session.history_silent current operations (Session.dormant_of_dead current coherent dead) unacquired

def sampleOperations : List Session.Operation :=
  [.pointerDown, .resize ⟨0, 480⟩, .pointerMove 3 4, .reload .standard, .wheel 1, .dispatch (.resize 640 480), .tick,
    .runFrames 5, .teardown, .drain]

theorem post_release_silence_unnoticed :
    ∃ current, (sampleStage rejectedPlan unnoticedRelease).play = .ok current ∧
      current.lease.isSome = true ∧ current.notices.items ≠ [] ∧
      current.Silent sampleOperations (History.run Session.perform current sampleOperations).1
        (History.run Session.perform current sampleOperations).2 := by
  obtain ⟨current, playing, held, pending, dead⟩ :
      ∃ current, (sampleStage rejectedPlan unnoticedRelease).play = .ok current ∧
        current.lease.isSome = true ∧ current.notices.items.length = 1 ∧ current.engineIsLive = false :=
    ⟨_, rfl, rfl, rfl, rfl⟩
  refine ⟨current, playing, held, by simp [← List.length_pos_iff, pending], ?_⟩
  exact post_release_silence rejectedPlan sampleSurface sampleConfig
    (Session.fresh rejectedPlan sampleSurface sampleConfig) current _ sampleOperations rfl (sample_reachable _ _)
    playing dead (by simp [sampleOperations])

end Plotter
