import Plotter.Proofs.FrameRuns
import Plotter.Proofs.LiveEngines
import Plotter.Proofs.Protocol

/-!
The live camera replays the log of ticks: since the engine came up it has made one step toward the target of
each rendered tick and no other move, and the counters of the loop and of the engine count these ticks.
-/

set_option autoImplicit false

namespace Plotter

def Camera.replay (factor : Float32) (camera : Camera) (targets : List Camera) : Camera :=
  targets.foldl (fun camera target => camera.smoothedToward target factor) camera

structure Engine.Replays (factor : Float32) (targets : List Camera) (engine : Engine) : Prop where
  camera : engine.camera = Engine.initialCamera.replay factor targets
  frames : engine.frames = UInt64.ofNat targets.length

theorem create_replays (factor : Float32) (viewport : Viewport) (fault : Option EngineFault) :
    ({ Engine.create viewport with animationFault := fault } : Engine).Replays factor [] := ⟨rfl, rfl⟩

theorem load_replays (factor : Float32) (targets : List Camera) (rig : Rig) (graph : Graph)
    (replays : rig.engine.Replays factor targets) : (rig.load graph).2.engine.Replays factor targets := by
  obtain ⟨equations, same⟩ := load_engine rig graph
  rw [same]
  exact ⟨replays.camera, replays.frames⟩

theorem step_replays (factor : Float32) (targets : List Camera) (rig : Rig) (target : Camera)
    (answer : Except EngineFault Unit) (next : Rig) (stepped : rig.step target factor = (answer, next))
    (replays : rig.engine.Replays factor targets) :
    next.engine.Replays factor (targets ++ if answer.isOk then [target] else []) := by
  cases pending : rig.engine.renderFault with
  | some fault =>
      rw [step_pending rig target factor fault pending] at stepped
      cases stepped
      change Engine.Replays factor (targets ++ []) _
      rw [List.append_nil]
      exact ⟨replays.camera, replays.frames⟩
  | none =>
      rw [step_clear rig target factor pending] at stepped
      cases stepped
      constructor
      · simp [Except.isOk, Except.toBool, Camera.replay, replays.camera]
      · simp [Except.isOk, Except.toBool, replays.frames]

namespace Session

def targets (log : List Tick) : List Camera :=
  log.filterMap fun tick => if tick.outcome = .rendered then some tick.target else none

def faults (log : List Tick) : Nat := log.countP fun tick => tick.outcome.isFaulted

@[simp] theorem targets_append (log more : List Tick) : targets (log ++ more) = targets log ++ targets more :=
  List.filterMap_append

@[simp] theorem faults_append (log more : List Tick) : faults (log ++ more) = faults log + faults more :=
  List.countP_append

structure Counts (factor : Float32) (log : List Tick) (frames : FrameLoop) : Prop where
  smoothing : frames.smoothingFactor = factor
  rendered : frames.ticksRendered = UInt64.ofNat (targets log).length
  faulted : frames.tickFaults = UInt64.ofNat (faults log)

theorem stop_counts (factor : Float32) (log : List Tick) (frames : FrameLoop) (counts : Counts factor log frames) :
    Counts factor log frames.stop where
  smoothing := by simpa using counts.smoothing
  rendered := by simpa using counts.rendered
  faulted := by simpa using counts.faulted

/-- All live engines are bound to the one log, since a coherent session has no live engine but its own. -/
structure Replayed (config : Config) (log : List Tick) (session : Session) : Prop where
  coherent : session.Coherent
  configured : session.config = config
  counts : Counts config.tuning.smoothingFactor log session.frames
  shown : session.pool.Every (Engine.Replays config.tuning.smoothingFactor (targets log))

theorem fresh_replayed (plan : List Provision) (surface : Surface) (config : Config) :
    (fresh plan surface config).Replayed config [] where
  coherent := fresh_coherent plan surface config
  configured := rfl
  counts := ⟨rfl, rfl, rfl⟩
  shown := by
    intro slot member
    cases member

theorem forget_replayed (config : Config) (log : List Tick) (session : Session)
    (replayed : session.Replayed config log) : session.forgetReleasedEngine.Replayed config log := by
  have coherent := forget_coherent session replayed.coherent
  have shown := every_forget session _ replayed.shown
  rw [forget_next] at coherent shown ⊢
  exact ⟨coherent, replayed.configured, stop_counts _ log session.frames replayed.counts, shown⟩

theorem stepped_every (config : Config) (log : List Tick) (session next : Session) (handle : Handle)
    (answer : Except EngineFault Unit) (replayed : session.Replayed config log) (coherent : next.Coherent)
    (holding : session.frames.handle = some handle) (same : next.frames.handle = session.frames.handle)
    (done : session.pool.withEngine handle (fun rig =>
      rig.step session.controller.target session.frames.smoothingFactor) = some (answer, next.pool)) :
    next.pool.Every (Engine.Replays config.tuning.smoothingFactor
      (targets log ++ if answer.isOk then [session.controller.target] else [])) := by
  refine every_leased next _ coherent ?_
  intro leased engine held found
  cases (coherent.bound leased held).1.symm.trans (same.trans holding)
  obtain ⟨earlier, rig, stored, stepped, pool⟩ := with_engine_some session.pool next.pool _ _ answer done
  obtain ⟨_, again, after⟩ := with_engine_found session.pool next.pool _ _ answer done
  cases stored.symm.trans again
  rw [stepped] at after
  cases found.symm.trans after
  rw [replayed.counts.smoothing] at stepped
  exact step_replays _ _ _ _ answer rig stepped (every_engine session.pool _ _ earlier stored replayed.shown)

theorem idle_replayed (config : Config) (log more : List Tick) (session : Session) (still : targets more = [])
    (sound : faults more = 0) (replayed : session.Replayed config log) : session.Replayed config (log ++ more) := by
  have same : targets (log ++ more) = targets log := by simp [still]
  have failed : faults (log ++ more) = faults log := by simp [sound]
  have counts := replayed.counts
  have shown := replayed.shown
  rw [← same] at shown
  refine ⟨replayed.coherent, replayed.configured, ⟨counts.smoothing, ?_, ?_⟩, shown⟩
  · rw [same, counts.rendered]
  · rw [failed, counts.faulted]

theorem tick_replayed (config : Config) (log : List Tick) (session : Session)
    (replayed : session.Replayed config log) : session.tick.2.Replayed config (log ++ [session.nextTick]) := by
  have counts := replayed.counts
  have coherent := tick_coherent session replayed.coherent
  have outcome := tick_cases session
  rw [nextTick]
  generalize session.tick = result at outcome coherent ⊢
  cases outcome with
  | skipped halted => exact idle_replayed config log _ session rfl rfl replayed
  | terminated running lost => exact idle_replayed config log _ _ rfl rfl (forget_replayed config log session replayed)
  | rendered running handle holding next done =>
      have shown := stepped_every config log session _ handle _ replayed coherent holding rfl done
      refine ⟨coherent, replayed.configured, ⟨counts.smoothing, ?_, ?_⟩, ?_⟩
      · simp [targets, counts.rendered]
      · simp [faults, counts.faulted, TickOutcome.isFaulted]
      · rw [targets_append]
        exact shown
  | faulted running handle holding fault next done =>
      have shown := stepped_every config log session _ handle _ replayed coherent holding rfl done
      refine ⟨coherent, replayed.configured, ⟨counts.smoothing, ?_, ?_⟩, ?_⟩
      · simp [targets, counts.rendered]
      · simp [faults, counts.faulted, TickOutcome.isFaulted]
      · rw [targets_append]
        exact shown

theorem reload_replayed (config : Config) (log : List Tick) (session : Session) (graph : Graph)
    (replayed : session.Replayed config log) : (session.reload graph).2.Replayed config log := by
  have coherent := reload_coherent session graph replayed.coherent
  have shown := every_reload session _ graph (load_replays _ (targets log) · graph) replayed.shown
  have outcome := reload_cases session graph
  generalize session.reload graph = result at outcome coherent shown ⊢
  cases outcome with
  | absent unheld => exact replayed
  | misplaced handle held defect flawed => exact replayed
  | lost handle held dense dead => exact forget_replayed config log session replayed
  | loaded handle held dense next done => exact ⟨coherent, replayed.configured, replayed.counts, shown⟩
  | refused handle held dense fault next done => exact ⟨coherent, replayed.configured, replayed.counts, shown⟩

theorem resize_replayed (config : Config) (log : List Tick) (session : Session) (viewport : Viewport)
    (replayed : session.Replayed config log) : (session.resize viewport).2.Replayed config log := by
  have coherent := resize_coherent session viewport replayed.coherent
  have outcome := resize_cases session viewport
  generalize session.resize viewport = result at outcome coherent ⊢
  cases outcome with
  | invalid zero => exact replayed
  | recorded valid unheld => exact ⟨coherent, replayed.configured, replayed.counts, replayed.shown⟩
  | forwarded valid handle held next done =>
      exact ⟨coherent, replayed.configured, replayed.counts,
        every_with_engine session.pool next _ handle _ _ done (fun _ same => ⟨same.camera, same.frames⟩) replayed.shown⟩
  | lost valid handle held dead =>
      have forgotten := forget_replayed config log session replayed
      rw [forget_next] at coherent forgotten ⊢
      exact ⟨coherent, forgotten.configured, forgotten.counts, forgotten.shown⟩

theorem controller_replayed (config : Config) (log : List Tick) (session : Session) (controller : Controller)
    (replayed : session.Replayed config log) :
    ({ session with controller := controller } : Session).Replayed config log :=
  ⟨controller_coherent session controller replayed.coherent, replayed.configured, replayed.counts, replayed.shown⟩

theorem teardown_replayed (config : Config) (log : List Tick) (session : Session)
    (replayed : session.Replayed config log) : session.teardown.Replayed config log := by
  have coherent := teardown_coherent session replayed.coherent
  have shown := every_teardown session _ replayed.shown
  rw [teardown_next] at coherent shown ⊢
  exact ⟨coherent, replayed.configured, stop_counts _ log session.frames replayed.counts, shown⟩

theorem halted_counts (factor : Float32) (log : List Tick) (session : Session)
    (counts : Counts factor log session.frames) : Counts factor log session.haltedLoop := by
  rw [haltedLoop]
  split
  · exact stop_counts factor log session.frames counts
  · exact counts

theorem acquire_replayed (config : Config) (log : List Tick) (session : Session)
    (replayed : session.Replayed config log) :
    session.acquire.2.Replayed config (if session.acquire.1 = .ok () then [] else log) := by
  have coherent := acquire_coherent session replayed.coherent
  have quiet := cleared_quiet session replayed.coherent
  have outcome := acquire_cases session
  generalize session.acquire = result at outcome coherent ⊢
  cases outcome with
  | refused error pool outcome =>
      -- No engine is left that the log could be wrong about, so it goes on until the next success.
      rw [if_neg (by simp)]
      exact ⟨coherent, replayed.configured, halted_counts _ log session replayed.counts,
        every_quiet pool _ (acquisition_error_quiet session.clearedPool pool session.surface error quiet outcome)⟩
  | opened handle pool outcome =>
      rw [if_pos rfl]
      refine ⟨coherent, replayed.configured, ⟨?_, rfl, rfl⟩, ?_⟩
      · rw [replayed.configured]
      · exact every_acquisition _ pool _ session.surface _ outcome (create_replays _ session.surface.viewport)
          (every_quiet session.clearedPool _ quiet)

theorem replayed_logged (config : Config) : Logged (Replayed config) where
  forget := fun log session _ _ _ => forget_replayed config log session
  tick := tick_replayed config
  reload := reload_replayed config
  press := fun log session => controller_replayed config log session _
  lift := fun log session => controller_replayed config log session _

def logAfter (log : List Tick) (session : Session) : Operation → List Tick
  | .acquire => if session.acquire.1 = .ok () then [] else log
  | operation => log ++ session.ticksOf operation

theorem log_after_other (log : List Tick) (session : Session) (operation : Operation) (other : operation ≠ .acquire) :
    session.logAfter log operation = log ++ session.ticksOf operation := by
  unfold logAfter
  split
  · exact absurd rfl other
  · rfl

theorem perform_replayed (config : Config) (log : List Tick) (session : Session) (operation : Operation)
    (replayed : session.Replayed config log) :
    (session.perform operation).2.Replayed config (session.logAfter log operation) := by
  -- An acquisition is the one operation that can start the log anew.
  by_cases acquiring : operation = .acquire
  · subst operation
    exact acquire_replayed config log session replayed
  · rw [log_after_other log session operation acquiring]
    apply perform_logs (Replayed config) (replayed_logged config) log session operation _ _ _ _ _ _ replayed
    · intro _ _ _ _ _
      exact controller_replayed config log session _ replayed
    · intro _ _ _ _
      exact controller_replayed config log session _ replayed
    · intro viewport _
      exact resize_replayed config log session viewport replayed
    · intro same
      exact absurd same acquiring
    · intro _
      exact teardown_replayed config log session replayed
    · intro _
      exact ⟨drain_coherent session replayed.coherent, replayed.configured, replayed.counts, replayed.shown⟩

def Alive (session : Session) : Prop := session.Coherent ∧ session.engineIsLive = true

theorem alive_lease (session : Session) (handle : Handle) (held : session.lease = some handle)
    (alive : session.engineIsLive = true) : session.pool.isLive handle = true := by
  simpa [engineIsLive, held] using alive

theorem resize_alive (session : Session) (viewport : Viewport) (alive : session.Alive) :
    (session.resize viewport).2.Alive := by
  refine ⟨resize_coherent session viewport alive.1, ?_⟩
  have outcome := resize_cases session viewport
  generalize session.resize viewport = result at outcome ⊢
  cases outcome with
  | invalid zero => exact alive.2
  | recorded valid unheld => exact alive.2
  | forwarded valid handle held next done => exact work_keeps_live session _ handle _ _ done rfl alive.2
  | lost valid handle held dead => exact absurd (alive_lease session handle held alive.2) (by simp [dead])

theorem reload_alive (session : Session) (graph : Graph) (alive : session.Alive) : (session.reload graph).2.Alive := by
  refine ⟨reload_coherent session graph alive.1, ?_⟩
  have outcome := reload_cases session graph
  generalize session.reload graph = result at outcome ⊢
  cases outcome with
  | absent unheld => exact alive.2
  | misplaced handle held defect flawed => exact alive.2
  | lost handle held dense dead => exact absurd (alive_lease session handle held alive.2) (by simp [dead])
  | loaded handle held dense next done => exact work_keeps_live session _ handle _ _ done rfl alive.2
  | refused handle held dense fault next done => exact work_keeps_live session _ handle _ _ done rfl alive.2

theorem alive_preserved : Preserved Alive where
  forget := by
    intro session handle held dead alive
    exact absurd (alive_lease session handle held alive.2) (by simp [dead])
  tick := fun session alive => ⟨tick_coherent session alive.1, (tick_live session alive.1 alive.2).1⟩
  resize := resize_alive
  reload := reload_alive
  press := fun session alive => ⟨controller_coherent session _ alive.1, alive.2⟩
  lift := fun session alive => ⟨controller_coherent session _ alive.1, alive.2⟩
  drag := fun session _ _ _ _ alive => ⟨controller_coherent session _ alive.1, alive.2⟩
  zoom := fun session _ _ _ alive => ⟨controller_coherent session _ alive.1, alive.2⟩

theorem perform_alive (session : Session) (operation : Operation) (kept : operation ≠ .acquire)
    (held : operation ≠ .teardown) (alive : session.Alive) : (session.perform operation).2.Alive :=
  perform_keeps Alive alive_preserved session operation (fun same => absurd same kept) (fun same => absurd same held)
    (fun _ => ⟨drain_coherent session alive.1, alive.2⟩) alive

theorem replayed_engine (config : Config) (log : List Tick) (session : Session) (replayed : session.Replayed config log)
    (alive : session.engineIsLive = true) :
    ∃ handle engine, session.lease = some handle ∧ session.pool.engine? handle = some engine ∧
      session.liveCamera = some engine.camera ∧ engine.Replays config.tuning.smoothingFactor (targets log) := by
  obtain ⟨handle, held, live⟩ := (engine_is_live_iff session).mp alive
  obtain ⟨engine, found, _⟩ := engine_of_live session.pool handle live
  exact ⟨handle, engine, held, found, by simp [liveCamera, engine_held session handle held, found],
    every_engine session.pool _ handle engine found replayed.shown⟩

theorem perform_still (config : Config) (log : List Tick) (session : Session) (operation : Operation)
    (replayed : session.Replayed config log) (alive : session.engineIsLive = true) (kept : operation ≠ .acquire)
    (held : operation ≠ .teardown) (undrawn : ∀ tick ∈ session.ticksOf operation, tick.outcome ≠ .rendered) :
    (session.perform operation).2.liveCamera = session.liveCamera := by
  have lasts := perform_alive session operation kept held ⟨replayed.coherent, alive⟩
  have after := perform_replayed config log session operation replayed
  rw [log_after_other log session operation kept] at after
  have still : targets (session.ticksOf operation) = [] := by
    rw [targets, List.filterMap_eq_nil_iff]
    intro tick member
    rw [if_neg (undrawn tick member)]
  obtain ⟨_, engine, _, _, shown, replays⟩ := replayed_engine config log session replayed alive
  obtain ⟨_, later, _, _, shownAfter, replaysAfter⟩ := replayed_engine config _ _ after lasts.2
  rw [targets_append, still, List.append_nil] at replaysAfter
  rw [shown, shownAfter, replays.camera, replaysAfter.camera]

end Session

namespace Stage

def logAfter (log : List Session.Tick) (stage : Stage) : Action → List Session.Tick
  | .operate operation =>
    match stage.play with
    | .ok session => session.logAfter log operation
    | .error _ => log
  | _ => log

theorem log_after_host (log : List Session.Tick) (stage : Stage) (action : Action)
    (host : ∀ operation, action ≠ .operate operation) : stage.logAfter log action = log := by
  cases action with
  | operate operation => exact absurd rfl (host operation)
  | _ => rfl

def sinceAcquired (log : List Session.Tick) (stage : Stage) : List Action → List Session.Tick
  | [] => log
  | action :: rest => sinceAcquired (stage.logAfter log action) (stage.perform action).2 rest

theorem discreet_replays (factor : Float32) (targets : List Camera) (index : Nat) (command : Rig.Command)
    (discreet : (Action.command index command).isDiscreet = true) (rig : Rig)
    (replays : rig.engine.Replays factor targets) : (rig.perform command).2.engine.Replays factor targets := by
  cases command with
  | failNextRender message => exact ⟨replays.camera, replays.frames⟩
  | _ => cases discreet

theorem perform_replayed (config : Config) (log : List Session.Tick) (stage : Stage) (action : Action)
    (discreet : action.isDiscreet = true) (replayed : stage.Playing (Session.Replayed config log)) :
    (stage.perform action).2.Playing (Session.Replayed config (stage.logAfter log action)) := by
  by_cases host : ∀ operation, action ≠ .operate operation
  · rw [log_after_host log stage action host]
    apply perform_playing (Session.Replayed config log) stage action _ _ _ replayed
    · intro session operation same _ _
      exact absurd same (host operation)
    · intro session handle before
      -- A release from outside ends the engine, and the ticks drawn with it stay counted.
      have fades := fades_release session.pool handle
      exact ⟨Session.keeps_coherent _ session ⟨rfl, rfl, rfl, rfl, rfl, fades⟩ before.coherent, before.configured,
        before.counts, every_release session.pool _ handle before.shown⟩
    · intro session index command handle answer pool same done before
      subst action
      have fades := fades_with_engine session.pool pool handle _ answer done
      have shown := every_with_engine session.pool pool _ handle _ answer done
        (discreet_replays _ _ index command discreet) before.shown
      exact ⟨Session.keeps_coherent _ session ⟨rfl, rfl, rfl, rfl, rfl, fades⟩ before.coherent, before.configured,
        before.counts, shown⟩
  · obtain ⟨operation, rfl⟩ : ∃ operation, action = .operate operation := by simpa using host
    refine operate_playing (Session.Replayed config log) _ stage operation ?_ replayed
    intro session playing before
    rw [logAfter, playing]
    exact Session.perform_replayed config log session operation before

theorem history_replayed (config : Config) (log : List Session.Tick) (stage : Stage) (actions : List Action)
    (discreet : ∀ action ∈ actions, action.isDiscreet = true) (replayed : stage.Playing (Session.Replayed config log)) :
    (History.final perform stage actions).Playing (Session.Replayed config (stage.sinceAcquired log actions)) := by
  induction actions generalizing log stage with
  | nil => exact replayed
  | cons action rest ih =>
      apply ih _ _ (fun later member => discreet later (.tail action member))
      exact perform_replayed config log stage action (discreet action (.head rest)) replayed

end Stage

theorem live_camera_replays_ticks (plan : List Provision) (surface : Surface) (config : Config)
    (session current : Session) (actions : List Stage.Action)
    (created : Session.create plan surface config = .ok session)
    (discreet : ∀ action ∈ actions, action.isDiscreet = true)
    (playing : (History.final Stage.perform (.create session) actions).play = .ok current)
    (alive : current.engineIsLive = true) :
    let log := Stage.sinceAcquired [] (.create session) actions
    let targets := Session.targets log
    (∃ handle engine, current.lease = some handle ∧ current.pool.engine? handle = some engine ∧
      current.liveCamera = some (Engine.initialCamera.replay config.tuning.smoothingFactor targets) ∧
      current.snapshot.ticksRendered = engine.frames ∧
      (targets.length < UInt64.size → current.snapshot.ticksRendered.toNat = targets.length) ∧
      (Session.faults log < UInt64.size → current.snapshot.tickFaults.toNat = Session.faults log)) ∧
    ∀ operation : Session.Operation, operation ≠ .acquire → operation ≠ .teardown →
      (∀ tick ∈ current.ticksOf operation, tick.outcome ≠ .rendered) →
      (current.perform operation).2.liveCamera = current.liveCamera := by
  intro log targets
  have start : (Stage.create session).Playing (Session.Replayed config []) := by
    rw [Session.create_fresh plan surface config session created]
    intro begun same
    cases same
    exact Session.fresh_replayed plan surface config
  have replayed := Stage.history_replayed config [] (.create session) actions discreet start current playing
  obtain ⟨handle, engine, held, found, shown, replays⟩ := Session.replayed_engine config log current replayed alive
  refine ⟨⟨handle, engine, held, found, ?_, ?_, ?_, ?_⟩, ?_⟩
  · rw [shown, replays.camera]
  · exact replayed.counts.rendered.trans replays.frames.symm
  · intro few
    rw [show current.snapshot.ticksRendered = _ from replayed.counts.rendered]
    exact UInt64.toNat_ofNat_of_lt few
  · intro few
    rw [show current.snapshot.tickFaults = _ from replayed.counts.faulted]
    exact UInt64.toNat_ofNat_of_lt few
  · intro operation kept standing undrawn
    exact Session.perform_still config log current operation replayed alive kept standing undrawn

def steeredActions : List Stage.Action :=
  -- the third engine draws three frames on the way to two targets, and the host spoils one in between.
  [.operate .acquire, .operate .acquire, .operate .tick, .operate .acquire, .share, .operate .pointerDown,
    .operate (.pointerMove 10 5), .operate .tick, .command 0 (.failNextRender "lost"), .operate .tick,
    .operate (.wheel 2), .operate (.runFrames 2)]

def steeredLog : List Session.Tick :=
  Stage.sinceAcquired [] (.create (Session.fresh rejectedPlan sampleSurface sampleConfig)) steeredActions

def steeredTargets : List Camera :=
  [⟨-0.049999997, -0.099999994, 1⟩, ⟨-0.049999997, -0.099999994, 7.32⟩, ⟨-0.049999997, -0.099999994, 7.32⟩]

theorem live_camera_replays_ticks_steered :
    ∃ current, (sampleStage rejectedPlan steeredActions).play = .ok current ∧
      current.liveCamera =
        some (Engine.initialCamera.replay sampleConfig.tuning.smoothingFactor steeredTargets) ∧
      current.snapshot.ticksRendered.toNat = 3 ∧ current.snapshot.tickFaults.toNat = 1 ∧
      (current.perform (.pointerMove 1 1)).2.liveCamera = current.liveCamera := by
  have live : (sampleStage rejectedPlan steeredActions).engineIsLive = true := by decide +kernel
  have log : Session.targets steeredLog = steeredTargets := by decide +kernel
  have failed : Session.faults steeredLog = 1 := by decide +kernel
  cases playing : (sampleStage rejectedPlan steeredActions).play with
  | error ended => simp [Stage.engineIsLive, playing] at live
  | ok current =>
      have alive : current.engineIsLive = true := by simpa only [Stage.engineIsLive, playing] using live
      obtain ⟨⟨_, _, _, _, shown, _, rendered, faulted⟩, still⟩ :=
        live_camera_replays_ticks rejectedPlan sampleSurface sampleConfig
          (Session.fresh rejectedPlan sampleSurface sampleConfig) current steeredActions rfl (by decide) playing alive
      rw [← steeredLog, log] at shown rendered
      rw [← steeredLog, failed] at faulted
      exact ⟨current, rfl, shown, rendered (by decide), faulted (by decide),
        still _ (by simp) (by simp) (by simp [Session.ticksOf])⟩

end Plotter
