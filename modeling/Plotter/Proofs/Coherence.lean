import Plotter.Proofs.History
import Plotter.Proofs.SessionSteps

set_option autoImplicit false

namespace Plotter

namespace Session

/-- The last field is what carries the induction: of all engines that ever came up, only the leased one
can still be live. It may be dead too, as long as nobody has looked. -/
structure Coherent (session : Session) : Prop where
  ready : session.stored = .ready ↔ session.lease.isSome = true
  running : session.frames.state = .running ↔ session.lease.isSome = true
  bound : ∀ handle, session.lease = some handle →
    session.frames.handle = some handle ∧ session.pool.entry session.surface.id = some handle
  sole : ∀ slot, session.pool.liveAt slot = true → ∃ handle, session.lease = some handle ∧ handle.slot = slot

theorem coherent_unheld (session : Session) (unheld : session.lease = none) (unready : session.stored ≠ .ready)
    (halted : session.frames.state ≠ .running) (quiet : session.pool.Quiet) : session.Coherent where
  ready := by simp [unheld, unready]
  running := by simp [unheld, halted]
  bound := by simp [unheld]
  sole := fun slot live => absurd ⟨slot, live⟩ ((quiet_iff session.pool).mp quiet)

theorem fresh_coherent (plan : List Provision) (surface : Surface) (config : Config) :
    (fresh plan surface config).Coherent := by
  apply coherent_unheld
  · rfl
  · simp [fresh]
  · simp [fresh, FrameLoop.create]
  · intro slot
    rfl

structure Keeps (next session : Session) : Prop where
  lease : next.lease = session.lease
  state : next.frames.state = session.frames.state
  handle : next.frames.handle = session.frames.handle
  stored : next.stored = session.stored
  surface : next.surface.id = session.surface.id
  fades : next.pool.Fades session.pool

theorem keeps_coherent (next session : Session) (keeps : next.Keeps session) (coherent : session.Coherent) :
    next.Coherent where
  ready := by
    rw [keeps.stored, keeps.lease]
    exact coherent.ready
  running := by
    rw [keeps.state, keeps.lease]
    exact coherent.running
  bound := by
    intro handle held
    rw [keeps.lease] at held
    rw [keeps.handle, keeps.surface, Pool.entry, keeps.fades.registered]
    exact coherent.bound handle held
  sole := by
    intro slot live
    rw [keeps.lease]
    exact coherent.sole slot (keeps.fades.dying slot live)

theorem settle_size_coherent (session : Session) (coherent : session.Coherent) : session.settleSize.Coherent :=
  keeps_coherent session.settleSize session ⟨rfl, rfl, rfl, rfl, rfl, fades_refl session.pool⟩ coherent

theorem let_go_quiet (session : Session)
    (sole : ∀ slot, session.pool.liveAt slot = true → ∃ handle, session.lease = some handle ∧ handle.slot = slot) :
    session.letGo.Quiet := by
  rw [quiet_iff]
  intro ⟨slot, live⟩
  obtain ⟨handle, held, same⟩ := sole slot ((let_go_fades session).dying slot live)
  exact let_go_live_at session slot live handle held same.symm

theorem cleared_quiet (session : Session) (coherent : session.Coherent) : session.clearedPool.Quiet := by
  have quiet := let_go_quiet session coherent.sole
  rw [clearedPool, release_surface_next_quiet session.letGo session.surface.id quiet]
  exact quiet

theorem forget_coherent (session : Session) (coherent : session.Coherent) : session.forgetReleasedEngine.Coherent := by
  rw [forget_next]
  apply coherent_unheld
  · rfl
  · by_cases ready : session.stored = .ready <;> simp [ready]
  · simp
  · exact let_go_quiet session coherent.sole

theorem teardown_quiet (session : Session) (coherent : session.Coherent) : session.teardown.pool.Quiet := by
  rw [teardown_next]
  exact cleared_quiet session coherent

theorem teardown_coherent (session : Session) (coherent : session.Coherent) : session.teardown.Coherent := by
  rw [teardown_next]
  apply coherent_unheld
  · rfl
  · by_cases ended : session.stored = .ready ∨ session.stored = .loading
    · simp [ended]
    · simpa [ended] using fun ready => ended (.inl ready)
  · simp
  · exact cleared_quiet session coherent

theorem acquisition_error_quiet (pool next : Pool) (surface : Surface) (error : InitError) (quiet : pool.Quiet)
    (outcome : Acquisition pool surface (.error error, next)) : next.Quiet := by
  cases outcome with
  | unsupported lacking => exact quiet
  | rejected fault supported provision => exact quiet
  | stillborn fault supported provision => exact quiet

theorem acquire_coherent (session : Session) (coherent : session.Coherent) : session.acquire.2.Coherent := by
  have quiet := cleared_quiet session coherent
  have outcome := acquire_cases session
  generalize session.acquire = result at outcome ⊢
  cases outcome with
  | refused error pool outcome =>
      apply coherent_unheld
      · rfl
      · cases error <;> simp [statusOfError]
      · exact halted_loop_state session
      · exact acquisition_error_quiet session.clearedPool pool session.surface error quiet outcome
  | opened handle pool outcome =>
      cases outcome with
      | started fault supported next =>
          refine ⟨by simp, by simp, ?_, ?_⟩
          · intro handle held
            cases held
            exact ⟨rfl, brought_entry _ session.surface fault (release_surface_entry session.letGo session.surface.id)⟩
          -- Acquisition began with an empty surface, so the engine it brought up is the only one.
          · intro slot live
            rcases (brought_live_at _ session.surface fault slot).mp live with before | last
            · rw [quiet slot] at before
              cases before
            · exact ⟨_, rfl, last.symm⟩

theorem tick_coherent (session : Session) (coherent : session.Coherent) : session.tick.2.Coherent := by
  have outcome := tick_cases session
  generalize session.tick = result at outcome ⊢
  cases outcome with
  | skipped halted => exact coherent
  | terminated running lost => exact forget_coherent session coherent
  | rendered running handle holding next done =>
      exact keeps_coherent _ session ⟨rfl, rfl, rfl, rfl, rfl, fades_with_engine _ next handle _ _ done⟩ coherent
  | faulted running handle holding fault next done =>
      exact keeps_coherent _ session ⟨rfl, rfl, rfl, rfl, rfl, fades_with_engine _ next handle _ _ done⟩ coherent

theorem resize_coherent (session : Session) (viewport : Viewport) (coherent : session.Coherent) :
    (session.resize viewport).2.Coherent := by
  have outcome := resize_cases session viewport
  have recorded : ({ session with viewport := viewport } : Session).Coherent :=
    keeps_coherent _ session ⟨rfl, rfl, rfl, rfl, rfl, fades_refl session.pool⟩ coherent
  generalize session.resize viewport = result at outcome ⊢
  cases outcome with
  | invalid zero => exact coherent
  | recorded valid unheld => exact settle_size_coherent _ recorded
  | forwarded valid handle held next done =>
      exact keeps_coherent _ session ⟨rfl, rfl, rfl, rfl, rfl, fades_with_engine _ next handle _ _ done⟩ coherent
  | lost valid handle held dead => exact settle_size_coherent _ (forget_coherent _ recorded)

theorem reload_coherent (session : Session) (graph : Graph) (coherent : session.Coherent) :
    (session.reload graph).2.Coherent := by
  have outcome := reload_cases session graph
  generalize session.reload graph = result at outcome ⊢
  cases outcome with
  | absent unheld => exact coherent
  | misplaced handle held defect flawed => exact coherent
  | lost handle held dense dead => exact forget_coherent session coherent
  | loaded handle held dense next done =>
      exact keeps_coherent _ session ⟨rfl, rfl, rfl, rfl, rfl, fades_with_engine _ next handle _ _ done⟩ coherent
  | refused handle held dense fault next done =>
      exact keeps_coherent _ session ⟨rfl, rfl, rfl, rfl, rfl, fades_with_engine _ next handle _ _ done⟩ coherent

theorem controller_coherent (session : Session) (controller : Controller) (coherent : session.Coherent) :
    ({ session with controller := controller } : Session).Coherent :=
  keeps_coherent _ session ⟨rfl, rfl, rfl, rfl, rfl, fades_refl session.pool⟩ coherent

theorem drain_coherent (session : Session) (coherent : session.Coherent) : session.drain.2.Coherent :=
  keeps_coherent _ session ⟨rfl, rfl, rfl, rfl, rfl, fades_refl session.pool⟩ coherent

theorem coherent_preserved : Preserved Coherent where
  forget := fun session _ _ _ => forget_coherent session
  tick := tick_coherent
  resize := resize_coherent
  reload := reload_coherent
  press := fun session => controller_coherent session _
  lift := fun session => controller_coherent session _
  drag := fun session _ _ _ _ => controller_coherent session _
  zoom := fun session _ _ _ => controller_coherent session _

theorem perform_coherent (session : Session) (operation : Operation) (coherent : session.Coherent) :
    (session.perform operation).2.Coherent :=
  perform_keeps Coherent coherent_preserved session operation (fun _ => acquire_coherent session coherent)
    (fun _ => teardown_coherent session coherent) (fun _ => drain_coherent session coherent) coherent

theorem coherent_unheld_quiet (session : Session) (coherent : session.Coherent) (unheld : session.lease = none) :
    session.pool.Quiet := by
  rw [quiet_iff]
  intro ⟨slot, live⟩
  obtain ⟨handle, held, _⟩ := coherent.sole slot live
  rw [unheld] at held
  cases held

theorem close_quiet (session : Session) (coherent : session.Coherent) : session.close.Quiet := by
  have quiet := teardown_quiet session coherent
  rw [close, release_all_quiet _ quiet]
  exact quiet

theorem engine_is_live_iff (session : Session) :
    session.engineIsLive = true ↔ ∃ handle, session.lease = some handle ∧ session.pool.isLive handle = true := by
  rw [engineIsLive]
  cases session.lease <;> simp

theorem engine_live_iff (session : Session) (coherent : session.Coherent) :
    session.engineIsLive = true ↔ ∃ slot, session.pool.liveAt slot = true := by
  rw [engine_is_live_iff]
  constructor
  · intro ⟨handle, _, live⟩
    exact ⟨handle.slot, by rw [← is_live_at, live]⟩
  · intro ⟨slot, live⟩
    obtain ⟨handle, held, rfl⟩ := coherent.sole slot live
    exact ⟨handle, held, by rw [is_live_at, live]⟩

theorem engine_live_ready (session : Session) (coherent : session.Coherent) (live : session.engineIsLive = true) :
    session.stored = .ready := by
  obtain ⟨handle, held, _⟩ := (engine_is_live_iff session).mp live
  exact coherent.ready.mpr (by simp [held])

theorem is_ready_iff (session : Session) (coherent : session.Coherent) :
    session.isReady = true ↔ session.engineIsLive = true := by
  rw [isReady]
  constructor
  · intro ready
    exact ((Bool.and_eq_true _ _).mp ready).2
  · intro live
    simp [engine_live_ready session coherent live, live]

theorem status_ready_iff (session : Session) (coherent : session.Coherent) :
    session.status = .ready ↔ session.engineIsLive = true := by
  rw [status]
  cases live : session.engineIsLive with
  | true => simp [engine_live_ready session coherent live]
  | false => by_cases ready : session.stored = .ready <;> simp [ready]

theorem live_camera_iff (session : Session) : session.liveCamera.isSome = true ↔ session.engineIsLive = true := by
  simp [liveCamera]

theorem surface_live_iff (session : Session) (coherent : session.Coherent) :
    session.pool.isSurfaceLive session.surface.id = true ↔ session.engineIsLive = true := by
  rw [Pool.isSurfaceLive]
  cases held : session.lease with
  | some handle => simp [engineIsLive, held, (coherent.bound handle held).2]
  | none =>
      -- The map may still hold an entry, but a stale one.
      have quiet := coherent_unheld_quiet session coherent held
      cases session.pool.entry session.surface.id with
      | none => simp [engineIsLive, held]
      | some stale => simp [engineIsLive, held, is_live_at, quiet stale.slot]

end Session

namespace Stage

def useEngine (stage : Stage) (index : Nat) (action : Rig → Rig) : Stage :=
  match stage.handles[index]? with
  | none => stage
  | some handle =>
    match stage.pool.withEngine handle fun rig => ((), action rig) with
    | none => stage
    | some (_, pool) => stage.withPool pool

inductive Reachable (start : Stage) : Stage → Prop where
  | start : Reachable start start
  | performed (stage : Stage) (action : Action) (before : Reachable start stage) :
      Reachable start (stage.perform action).2
  | used (stage : Stage) (index : Nat) (action : Rig → Rig) (before : Reachable start stage) :
      Reachable start (stage.useEngine index action)

def Coherent (stage : Stage) : Prop :=
  match stage.play with
  | .ok session => session.Coherent
  | .error pool => pool.Quiet

theorem with_pool_coherent (stage : Stage) (pool : Pool) (coherent : stage.Coherent) (fades : pool.Fades stage.pool) :
    (stage.withPool pool).Coherent := by
  obtain ⟨play, handles⟩ := stage
  cases play with
  | ok session => exact Session.keeps_coherent _ session ⟨rfl, rfl, rfl, rfl, rfl, fades⟩ coherent
  | error ended => exact fades_quiet pool ended fades coherent

theorem use_engine_coherent (stage : Stage) (index : Nat) (action : Rig → Rig) (coherent : stage.Coherent) :
    (stage.useEngine index action).Coherent := by
  rw [useEngine]
  cases stage.handles[index]? with
  | none => exact coherent
  | some handle =>
      dsimp only
      split
      · exact coherent
      · rename_i answer pool done
        exact with_pool_coherent stage pool coherent (fades_with_engine stage.pool pool handle _ answer done)

theorem coherent_session (stage : Stage) (session : Session) (playing : stage.play = .ok session)
    (coherent : stage.Coherent) : session.Coherent := by
  rwa [Coherent, playing] at coherent

theorem perform_coherent (stage : Stage) (action : Action) (coherent : stage.Coherent) :
    (stage.perform action).2.Coherent := by
  have outcome := perform_cases stage action
  generalize (stage.perform action).2 = next at outcome ⊢
  cases outcome with
  | unchanged => exact coherent
  | operated session operation playing =>
      exact Session.perform_coherent session operation (coherent_session stage session playing coherent)
  | shared session handle playing held => exact coherent
  | released index handle held => exact with_pool_coherent stage _ coherent (fades_release stage.pool handle)
  | commanded index command handle held answer pool done =>
      exact with_pool_coherent stage pool coherent (fades_with_engine stage.pool pool handle _ answer done)
  | closed session playing => exact Session.close_quiet session (coherent_session stage session playing coherent)

theorem reachable_coherent (start stage : Stage) (reached : Reachable start stage) (coherent : start.Coherent) :
    stage.Coherent := by
  induction reached with
  | start => exact coherent
  | performed stage action _ ih => exact perform_coherent stage action ih
  | used stage index action _ ih => exact use_engine_coherent stage index action ih

theorem playing_coherent (plan : List Provision) (surface : Surface) (config : Config) (session current : Session)
    (stage : Stage) (created : Session.create plan surface config = .ok session)
    (reached : Reachable (create session) stage) (playing : stage.play = .ok current) : current.Coherent := by
  have start : (create session).Coherent := by
    rw [Session.create_fresh plan surface config session created]
    exact Session.fresh_coherent plan surface config
  exact coherent_session stage current playing (reachable_coherent (create session) stage reached start)

theorem with_pool_detached (kept : Session → Prop) (detached : Session.Detached kept) (stage : Stage) (pool : Pool)
    (playing : stage.Playing kept) : (stage.withPool pool).Playing kept :=
  with_pool_playing kept stage pool fun session before => detached.apart session _ (playing session before) rfl rfl rfl

theorem reachable_detached (kept : Session → Prop) (detached : Session.Detached kept) (start stage : Stage)
    (reached : Reachable start stage) (initial : start.Playing kept) : stage.Playing kept := by
  -- Commands to an engine from outside change the pool only, and what is detached does not read it.
  induction reached with
  | start => exact initial
  | performed stage action _ ih =>
      apply perform_playing kept stage action _ _ _ ih
      · intro session operation _ _
        exact Session.perform_detached kept detached session operation
      · intro session handle before
        exact detached.apart session _ before rfl rfl rfl
      · intro session index command handle answer pool _ _ before
        exact detached.apart session _ before rfl rfl rfl
  | used stage index action _ ih =>
      rw [useEngine]
      cases stage.handles[index]? with
      | none => exact ih
      | some handle =>
          dsimp only
          split
          · exact ih
          · exact with_pool_detached kept detached stage _ ih

theorem reachable_history (start stage : Stage) (actions : List Action) (reached : Reachable start stage) :
    Reachable start (History.final perform stage actions) := by
  induction actions generalizing stage with
  | nil => exact reached
  | cons action rest ih => exact ih _ (.performed stage action reached)

end Stage

theorem session_coherence (plan : List Provision) (surface : Surface) (config : Config) (session current : Session)
    (stage : Stage) (created : Session.create plan surface config = .ok session)
    (reached : Stage.Reachable (.create session) stage) (playing : stage.play = .ok current) :
    ((current.stored = .ready ↔ current.lease.isSome = true) ∧
      (current.lease.isSome = true ↔ current.frames.state = .running)) ∧
    (∀ handle, current.lease = some handle →
      current.frames.handle = some handle ∧ current.pool.entry current.surface.id = some handle) ∧
    (current.lease = none → ∀ slot ∈ current.pool.slots, slot.live = false) ∧
    ((current.isReady = true ↔ current.status = .ready) ∧
      (current.status = .ready ↔ current.liveCamera.isSome = true) ∧
      (current.liveCamera.isSome = true ↔ current.pool.isSurfaceLive current.surface.id = true)) ∧
    (current.snapshot.status = .ready →
      current.snapshot.loopState = .running ∧ current.snapshot.liveCamera.isSome = true) := by
  have coherent := Stage.playing_coherent plan surface config session current stage created reached playing
  have ready := Session.is_ready_iff current coherent
  have status := Session.status_ready_iff current coherent
  have camera := Session.live_camera_iff current
  have managed := Session.surface_live_iff current coherent
  refine ⟨⟨coherent.ready, coherent.running.symm⟩, coherent.bound, ?_, ?_, ?_⟩
  · intro unheld
    exact (quiet_slots current.pool).mp (Session.coherent_unheld_quiet current coherent unheld)
  · exact ⟨ready.trans status.symm, status.trans camera.symm, camera.trans managed.symm⟩
  · intro shown
    have live := status.mp shown
    exact ⟨coherent.running.mpr (coherent.ready.mp (Session.engine_live_ready current coherent live)), camera.mpr live⟩

def sampleSurface : Surface := (Surface.create "#canvas" ⟨800, 600⟩).withCapability .webGl2

def sampleConfig : Config := .create ⟨800, 600⟩

def sampleStage (plan : List Provision) (actions : List Stage.Action) : Stage :=
  History.final Stage.perform (.create (Session.fresh plan sampleSurface sampleConfig)) actions

theorem sample_reachable (plan : List Provision) (actions : List Stage.Action) :
    Stage.Reachable (.create (Session.fresh plan sampleSurface sampleConfig)) (sampleStage plan actions) :=
  Stage.reachable_history _ _ actions .start

def rejectedPlan : List Provision := [.rejected ⟨"no context"⟩]

def unnoticedRelease : List Stage.Action :=
  [.operate .acquire, .operate .acquire, .share, .operate .tick, .release 0]

theorem session_coherence_unnoticed :
    ∃ current, (sampleStage rejectedPlan unnoticedRelease).play = .ok current ∧
      current.lease.isSome = true ∧ current.frames.state = .running ∧ current.status ≠ .ready ∧
      current.liveCamera = none ∧ current.pool.isSurfaceLive current.surface.id = false := by
  -- Once the state is evaluated this far, the rest follows from coherence alone.
  obtain ⟨current, playing, kept, unready⟩ :
      ∃ current, (sampleStage rejectedPlan unnoticedRelease).play = .ok current ∧
        current.stored = .ready ∧ current.isReady = false := ⟨_, rfl, rfl, rfl⟩
  obtain ⟨⟨stored, running⟩, _, _, ⟨ready, camera, managed⟩, _⟩ :=
    session_coherence rejectedPlan sampleSurface sampleConfig (Session.fresh rejectedPlan sampleSurface sampleConfig)
      current _ rfl (sample_reachable _ _) playing
  rw [unready] at ready
  have held := stored.mp kept
  have unshown : current.status ≠ .ready := fun shown => Bool.noConfusion (ready.mpr shown)
  refine ⟨current, playing, held, running.mp held, unshown, ?_, ?_⟩
  · exact Option.not_isSome_iff_eq_none.mp fun shown => unshown (camera.mpr shown)
  · exact Bool.eq_false_iff.mpr fun live => unshown (camera.mpr (managed.mpr live))

end Plotter
