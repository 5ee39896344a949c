import Plotter.Proofs.PoolSteps
import Plotter.Session.Operation

set_option autoImplicit false

namespace Plotter

theorem viewport_valid_iff (viewport : Viewport) :
    viewport.isValid = true ↔ ¬ (viewport.width = 0 ∨ viewport.height = 0) := by
  simp [Viewport.isValid, UInt32.pos_iff_ne_zero]

namespace Session

theorem create_fresh (plan : List Provision) (surface : Surface) (config : Config) (session : Session)
    (created : Session.create plan surface config = .ok session) : session = fresh plan surface config := by
  rw [Session.create] at created
  cases checked : config.validate with
  | error error => simp [checked] at created
  | ok _ =>
      simp only [checked, Except.ok.injEq] at created
      exact created.symm

theorem engine_unheld (session : Session) (unheld : session.lease = none) : session.engine? = none := by
  rw [engine?, unheld]
  rfl

theorem engine_held (session : Session) (handle : Handle) (held : session.lease = some handle) :
    session.engine? = session.pool.engine? handle := by
  rw [engine?, held]
  rfl

@[simp] theorem engine_shown (session : Session) : session.engine?.isSome = session.engineIsLive := by
  unfold engine? engineIsLive Pool.isLive
  cases session.lease <;> rfl

theorem let_go_none (session : Session) (unheld : session.lease = none) : session.letGo = session.pool := by
  simp only [letGo, unheld]

theorem let_go_some (session : Session) (handle : Handle) (held : session.lease = some handle) :
    session.letGo = (session.pool.release handle).2 := by
  simp only [letGo, held]

theorem let_go_fades (session : Session) : session.letGo.Fades session.pool := by
  cases held : session.lease with
  | none =>
      rw [let_go_none session held]
      exact fades_refl session.pool
  | some handle =>
      rw [let_go_some session handle held]
      exact fades_release session.pool handle

theorem let_go_live_at (session : Session) (slot : Nat) (live : session.letGo.liveAt slot = true)
    (handle : Handle) (held : session.lease = some handle) : slot ≠ handle.slot := by
  simp only [let_go_some session handle held, release_live_at, Bool.and_eq_true] at live
  simpa using live.2

theorem forget_next (session : Session) :
    session.forgetReleasedEngine =
      { session with
        frames := session.frames.stop
        lease := none
        pool := session.letGo
        stored := if session.stored = .ready then .released else session.stored } := rfl

theorem teardown_next (session : Session) :
    session.teardown =
      { session with
        frames := session.frames.stop
        controller := session.controller.pointerUp
        lease := none
        pool := (session.letGo.releaseSurface session.surface.id).2
        stored := if session.stored = .ready ∨ session.stored = .loading then .released else session.stored } := rfl

theorem forget_stopped (session : Session) :
    ({ session with frames := session.frames.stop } : Session).forgetReleasedEngine = session.forgetReleasedEngine := by
  simp [forget_next, letGo]

theorem halted_loop_state (session : Session) : session.haltedLoop.state ≠ .running := by
  rw [haltedLoop]
  by_cases running : session.frames.state = .running
  · simp [running]
  · rw [if_neg running]
    exact running

def clearedPool (session : Session) : Pool := (session.letGo.releaseSurface session.surface.id).2

inductive Acquired (session : Session) : Except Error Unit × Session → Prop where
  | refused (error : InitError) (pool : Pool)
      (outcome : Acquisition session.clearedPool session.surface (.error error, pool)) :
      Acquired session
        (.error (.initialization error),
          { session with
            frames := session.haltedLoop
            lease := none
            pool := pool
            stored := statusOfError error
            notices := session.notices.push ⟨.error, error.userMessage⟩ })
  | opened (handle : Handle) (pool : Pool)
      (outcome : Acquisition session.clearedPool session.surface (.ok handle, pool)) :
      Acquired session
        (.ok (),
          { session with
            frames := ⟨.running, some handle, session.config.tuning.smoothingFactor, 0, 0⟩
            controller := .create session.config.tuning session.config.initialTarget
            lease := some handle
            pool := pool
            stored := .ready })

theorem adopt_live (session : Session) (handle : Handle) (live : session.pool.isLive handle = true) :
    session.adopt handle =
      (.ok (),
        { session with
          frames := ⟨.running, some handle, session.config.tuning.smoothingFactor, 0, 0⟩
          controller := .create session.config.tuning session.config.initialTarget
          lease := some handle
          stored := .ready }) := by
  simp [adopt, FrameLoop.start, FrameLoop.create, live]

theorem acquire_next (session : Session) :
    session.acquire =
      ({ session with frames := session.haltedLoop, lease := none, pool := session.letGo } : Session).takeOver
        (session.clearedPool.bringUp session.surface) := rfl

theorem acquire_refused (session : Session) (error : InitError) (pool : Pool)
    (outcome : session.clearedPool.bringUp session.surface = (.error error, pool)) :
    session.acquire =
      (.error (.initialization error),
        { session with
          frames := session.haltedLoop
          lease := none
          pool := pool
          stored := statusOfError error
          notices := session.notices.push ⟨.error, error.userMessage⟩ }) := by
  rw [acquire_next, outcome]
  rfl

theorem acquire_opened (session : Session) (handle : Handle) (pool : Pool)
    (outcome : session.clearedPool.bringUp session.surface = (.ok handle, pool)) :
    session.acquire =
      (.ok (),
        { session with
          frames := ⟨.running, some handle, session.config.tuning.smoothingFactor, 0, 0⟩
          controller := .create session.config.tuning session.config.initialTarget
          lease := some handle
          pool := pool
          stored := .ready }) := by
  have live : pool.isLive handle = true := by
    have brought := bring_up_cases session.clearedPool session.surface
    rw [outcome] at brought
    cases brought with
    | started fault supported next =>
        simp [is_live_at]
  rw [acquire_next, outcome, takeOver, adopt_live _ handle live]

theorem acquire_cases (session : Session) : session.Acquired session.acquire := by
  have brought := bring_up_cases session.clearedPool session.surface
  cases outcome : session.clearedPool.bringUp session.surface with
  | mk answer pool =>
      rw [outcome] at brought
      cases answer with
      | error error =>
          rw [acquire_refused session error pool outcome]
          exact .refused error pool brought
      | ok handle =>
          rw [acquire_opened session handle pool outcome]
          exact .opened handle pool brought

inductive Ticked (session : Session) : TickOutcome × Session → Prop where
  | skipped (halted : session.frames.state ≠ .running) : Ticked session (.skipped, session)
  | terminated (running : session.frames.state = .running)
      (lost : ∀ handle, session.frames.handle = some handle → session.pool.isLive handle = false) :
      Ticked session (.terminated, session.forgetReleasedEngine)
  | rendered (running : session.frames.state = .running) (handle : Handle)
      (holding : session.frames.handle = some handle) (next : Pool)
      (done : session.pool.withEngine handle
        (fun rig => rig.step session.controller.target session.frames.smoothingFactor) = some (.ok (), next)) :
      Ticked session
        (.rendered,
          { session with
            frames := { session.frames with ticksRendered := session.frames.ticksRendered + 1 }
            pool := next })
  | faulted (running : session.frames.state = .running) (handle : Handle)
      (holding : session.frames.handle = some handle) (fault : EngineFault) (next : Pool)
      (done : session.pool.withEngine handle
        (fun rig => rig.step session.controller.target session.frames.smoothingFactor) = some (.error fault, next)) :
      Ticked session
        (.faulted fault,
          { session with
            frames := { session.frames with tickFaults := session.frames.tickFaults + 1 }
            pool := next
            notices := session.notices.push ⟨.warning, fault.message⟩ })

theorem tick_cases (session : Session) : session.Ticked session.tick := by
  have outcome := Plotter.tick_cases session.frames session.pool session.controller.target
  rw [tick]
  generalize session.frames.tick session.pool session.controller.target = result at outcome ⊢
  cases outcome with
  | skipped halted => exact .skipped halted
  | terminated running lost =>
      dsimp only
      rw [forget_stopped]
      exact .terminated running lost
  | settled running handle holding answer next done =>
      cases answer with
      | ok _ => exact .rendered running handle holding next done
      | error fault => exact .faulted running handle holding fault next done

inductive Resized (session : Session) (viewport : Viewport) : Except Error Unit × Session → Prop where
  | invalid (zero : viewport.isValid = false) :
      Resized session viewport (.error (.invalidViewport viewport), session)
  | recorded (valid : viewport.isValid = true) (unheld : session.lease = none) :
      Resized session viewport (.ok (), { session with viewport := viewport }.settleSize)
  | forwarded (valid : viewport.isValid = true) (handle : Handle) (held : session.lease = some handle) (next : Pool)
      (done : session.pool.withEngine handle (fun rig => ((), rig.setViewport viewport)) = some ((), next)) :
      Resized session viewport (.ok (), { session with viewport := viewport, pool := next }.settleSize)
  | lost (valid : viewport.isValid = true) (handle : Handle) (held : session.lease = some handle)
      (dead : session.pool.isLive handle = false) :
      Resized session viewport (.ok (), { session with viewport := viewport }.forgetReleasedEngine.settleSize)

theorem resize_cases (session : Session) (viewport : Viewport) : session.Resized viewport (session.resize viewport) := by
  cases held : session.lease with
  | none =>
      cases valid : viewport.isValid with
      | false =>
          have result : session.resize viewport = (.error (.invalidViewport viewport), session) := by
            simp [resize, held, valid]
          rw [result]
          exact .invalid valid
      | true =>
          have result : session.resize viewport = (.ok (), { session with viewport := viewport }.settleSize) := by
            simp [resize, held, valid]
          rw [result]
          exact .recorded valid held
  | some handle =>
      -- A size that is refused before the engine is asked leaves the lease as well.
      cases valid : viewport.isValid with
      | false =>
          have result : session.resize viewport = (.error (.invalidViewport viewport), session) := by
            simp only [resize, held, Viewport.resize, valid, Bool.not_false, if_true, Error.isStaleHandle,
              Bool.false_eq_true, if_false]
            rw [← held]
          rw [result]
          exact .invalid valid
      | true =>
          cases live : session.pool.isLive handle with
          | false =>
              have missed := with_engine_dead session.pool handle (fun rig => ((), rig.setViewport viewport)) live
              have result : session.resize viewport =
                  (.ok (), { session with viewport := viewport }.forgetReleasedEngine.settleSize) := by
                simp [resize, held, valid, Viewport.resize, missed, Handle.stale, Error.isStaleHandle]
              rw [result]
              exact .lost valid handle held live
          | true =>
              obtain ⟨_, next, done⟩ := with_engine_live session.pool handle (fun rig => ((), rig.setViewport viewport)) live
              have result : session.resize viewport =
                  (.ok (), { session with viewport := viewport, pool := next }.settleSize) := by
                simp [resize, held, valid, Viewport.resize, done]
              rw [result]
              exact .forwarded valid handle held next done

inductive Reloaded (session : Session) (graph : Graph) : Except Error Bool × Session → Prop where
  | absent (unheld : session.lease = none) : Reloaded session graph (.ok false, session)
  | misplaced (handle : Handle) (held : session.lease = some handle) (defect : Defect)
      (flawed : graph.validateIndices = .error defect) :
      Reloaded session graph (.error (.invalidData defect), session)
  | lost (handle : Handle) (held : session.lease = some handle) (dense : graph.validateIndices = .ok ())
      (dead : session.pool.isLive handle = false) :
      Reloaded session graph (.ok false, session.forgetReleasedEngine)
  | loaded (handle : Handle) (held : session.lease = some handle) (dense : graph.validateIndices = .ok ())
      (next : Pool) (done : session.pool.withEngine handle (fun rig => rig.load graph) = some (.ok (), next)) :
      Reloaded session graph (.ok true, { session with pool := next })
  | refused (handle : Handle) (held : session.lease = some handle) (dense : graph.validateIndices = .ok ())
      (fault : EngineFault) (next : Pool)
      (done : session.pool.withEngine handle (fun rig => rig.load graph) = some (.error fault, next)) :
      Reloaded session graph
        (.error (.sync fault),
          { session with pool := next, notices := session.notices.push ⟨.error, fault.message⟩ })

theorem reload_cases (session : Session) (graph : Graph) : session.Reloaded graph (session.reload graph) := by
  cases held : session.lease with
  | none =>
      have result : session.reload graph = (.ok false, session) := by simp [reload, held]
      rw [result]
      exact .absent held
  | some handle =>
      cases indices : graph.validateIndices with
      | error defect =>
          have result : session.reload graph = (.error (.invalidData defect), session) := by
            simp only [reload, held, Pool.sync, indices]
            rw [← held]
          rw [result]
          exact .misplaced handle held defect indices
      | ok _ =>
          cases live : session.pool.isLive handle with
          | false =>
              have missed := with_engine_dead session.pool handle (fun rig => rig.load graph) live
              have result : session.reload graph = (.ok false, session.forgetReleasedEngine) := by
                simp only [reload, held, Pool.sync, indices, missed, Handle.stale]
                rw [← held]
              rw [result]
              exact .lost handle held indices live
          | true =>
              obtain ⟨answer, next, done⟩ := with_engine_live session.pool handle (fun rig => rig.load graph) live
              cases answer with
              | ok _ =>
                  have result : session.reload graph = (.ok true, { session with pool := next }) := by
                    simp [reload, held, Pool.sync, indices, done]
                  rw [result]
                  exact .loaded handle held indices next done
              | error fault =>
                  have result : session.reload graph =
                      (.error (.sync fault),
                        { session with pool := next, notices := session.notices.push ⟨.error, fault.message⟩ }) := by
                    simp [reload, held, Pool.sync, indices, done, notify]
                  rw [result]
                  exact .refused handle held indices fault next done

inductive Sought (session : Session) : Option Camera × Session → Prop where
  | absent (unheld : session.lease = none) : Sought session (none, session)
  | found (camera : Camera) (shown : session.liveCamera = some camera) : Sought session (some camera, session)
  | lost (handle : Handle) (held : session.lease = some handle) (dead : session.pool.isLive handle = false) :
      Sought session (none, session.forgetReleasedEngine)

theorem camera_for_input_cases (session : Session) : session.Sought session.cameraForInput := by
  rw [cameraForInput]
  cases held : session.lease with
  | none => exact .absent held
  | some handle =>
      cases live : session.pool.isLive handle with
      | false =>
          have hidden : session.liveCamera = none := by
            simp [liveCamera, engine_held session handle held, engine_of_dead session.pool handle live]
          simp only [Option.isNone_some, Bool.false_eq_true, if_false, hidden]
          exact .lost handle held live
      | true =>
          obtain ⟨engine, found, _⟩ := engine_of_live session.pool handle live
          have shown : session.liveCamera = some engine.camera := by
            simp [liveCamera, engine_held session handle held, found]
          simp only [Option.isNone_some, Bool.false_eq_true, if_false, shown]
          exact .found engine.camera shown

theorem perform_reload (session : Session) (graph : Graph) :
    session.perform (.reload graph) =
      (match (session.reload graph).1 with
        | .ok pushed => .loaded pushed
        | .error error => .failed error,
      (session.reload graph).2) := by
  rw [perform]
  generalize session.reload graph = result
  obtain ⟨answer, next⟩ := result
  cases answer <;> rfl

@[simp] theorem perform_reload_next (session : Session) (graph : Graph) :
    (session.perform (.reload graph)).2 = (session.reload graph).2 := by
  rw [perform_reload]

structure Steady (kept : Session → Prop) : Prop where
  forget : ∀ session handle, session.lease = some handle → session.pool.isLive handle = false →
    kept session → kept session.forgetReleasedEngine
  tick : ∀ session, kept session → kept session.tick.2
  reload : ∀ session graph, kept session → kept (session.reload graph).2
  press : ∀ session, kept session → kept session.pointerDown
  lift : ∀ session, kept session → kept session.pointerUp

structure Carried (kept : Session → Prop) : Prop extends Steady kept where
  drag : ∀ session camera deltaX deltaY, session.liveCamera = some camera → kept session →
    kept { session with controller := (session.controller.pointerMove camera deltaX deltaY).2 }
  zoom : ∀ session camera deltaZ, session.liveCamera = some camera → kept session →
    kept { session with controller := (session.controller.wheel camera deltaZ).2 }

structure Preserved (kept : Session → Prop) : Prop extends Carried kept where
  resize : ∀ session viewport, kept session → kept (session.resize viewport).2

theorem pointer_move_keeps (kept : Session → Prop) (session : Session) (deltaX deltaY : Float32)
    (forget : ∀ handle, session.lease = some handle → session.pool.isLive handle = false →
      kept session.forgetReleasedEngine)
    (drag : ∀ camera, session.liveCamera = some camera →
      kept { session with controller := (session.controller.pointerMove camera deltaX deltaY).2 })
    (before : kept session) : kept (session.pointerMove deltaX deltaY) := by
  have sought := camera_for_input_cases session
  rw [pointerMove]
  split
  · exact before
  · generalize session.cameraForInput = result at sought ⊢
    cases sought with
    | absent unheld => exact before
    | found camera shown => exact drag camera shown
    | lost handle held dead => exact forget handle held dead

theorem wheel_keeps (kept : Session → Prop) (session : Session) (deltaZ : Float32)
    (forget : ∀ handle, session.lease = some handle → session.pool.isLive handle = false →
      kept session.forgetReleasedEngine)
    (zoom : ∀ camera, session.liveCamera = some camera →
      kept { session with controller := (session.controller.wheel camera deltaZ).2 })
    (before : kept session) : kept (session.wheel deltaZ) := by
  have sought := camera_for_input_cases session
  rw [wheel]
  generalize session.cameraForInput = result at sought ⊢
  cases sought with
  | absent unheld => exact before
  | found camera shown => exact zoom camera shown
  | lost handle held dead => exact forget handle held dead

structure Tick where
  outcome : TickOutcome
  target : Camera
deriving DecidableEq

def nextTick (session : Session) : Tick := ⟨session.tick.1, session.controller.target⟩

def runTicks {σ : Type} [FrameSource σ] : Nat → Session → σ → List Tick
  | 0, _, _ => []
  | fuel + 1, session, source =>
    if session.frames.state ≠ .running then []
    else
      match FrameSource.next? source with
      | none => []
      | some rest => session.nextTick :: runTicks fuel session.tick.2 rest

def ticksOf (session : Session) : Operation → List Tick
  | .tick | .dispatch .frame => [session.nextTick]
  | .runFrames frames => session.runTicks frames.toNat (FrameBudget.mk frames)
  | .runPaced frames => session.runTicks frames.toNat (session.pace.limit frames)
  | _ => []

theorem advance_logs {σ : Type} [FrameSource σ] (kept : List Tick → Session → Prop)
    (tick : ∀ log session, kept log session → kept (log ++ [session.nextTick]) session.tick.2) (fuel : Nat)
    (log : List Tick) (run : Run σ) (before : kept log run.session) :
    kept (log ++ run.session.runTicks fuel run.source) (Run.advance fuel run).session := by
  -- On the fuel, with the log free: what a tick adds stands at its end for the ticks that follow.
  induction fuel generalizing log run with
  | zero =>
      rw [runTicks, List.append_nil]
      exact before
  | succ fuel ih =>
      rw [Run.advance, runTicks]
      split
      · rwa [List.append_nil]
      · cases FrameSource.next? run.source with
        | none => simpa only [List.append_nil] using before
        | some rest =>
            dsimp only
            rw [List.append_cons]
            exact ih _ ⟨run.session.tick.2, rest, _⟩ (tick log run.session before)

def Operation.size? : Operation → Option Viewport
  | .resize viewport => some viewport
  | .dispatch (.resize width height) => some ⟨width, height⟩
  | _ => none

def Operation.drag? : Operation → Option (Float32 × Float32)
  | .pointerMove deltaX deltaY => some (deltaX, deltaY)
  | .dispatch (.pointerMove deltaX deltaY) => some (deltaX, deltaY)
  | _ => none

def Operation.wheel? : Operation → Option Float32
  | .wheel deltaZ => some deltaZ
  | .dispatch (.wheel deltaZ) => some deltaZ
  | _ => none

structure Logged (kept : List Tick → Session → Prop) : Prop where
  forget : ∀ log session handle, session.lease = some handle → session.pool.isLive handle = false →
    kept log session → kept log session.forgetReleasedEngine
  tick : ∀ log session, kept log session → kept (log ++ [session.nextTick]) session.tick.2
  reload : ∀ log session graph, kept log session → kept log (session.reload graph).2
  press : ∀ log session, kept log session → kept log session.pointerDown
  lift : ∀ log session, kept log session → kept log session.pointerUp

theorem perform_logs (kept : List Tick → Session → Prop) (logged : Logged kept) (log : List Tick) (session : Session)
    (operation : Operation)
    (drag : ∀ deltaX deltaY camera, operation.drag? = some (deltaX, deltaY) → session.liveCamera = some camera →
      kept log { session with controller := (session.controller.pointerMove camera deltaX deltaY).2 })
    (zoom : ∀ deltaZ camera, operation.wheel? = some deltaZ → session.liveCamera = some camera →
      kept log { session with controller := (session.controller.wheel camera deltaZ).2 })
    (resize : ∀ viewport, operation.size? = some viewport → kept log (session.resize viewport).2)
    (acquire : operation = .acquire → kept log session.acquire.2)
    (teardown : operation = .teardown → kept log session.teardown) (drain : operation = .drain → kept log session.drain.2)
    (before : kept log session) : kept (log ++ session.ticksOf operation) (session.perform operation).2 := by
  -- Only ticks and runs of frames add to the log.
  have silent : ∀ next, kept log next → kept (log ++ []) next := by
    intro next after
    rwa [List.append_nil]
  have forget := fun handle held dead => logged.forget log session handle held dead before
  cases operation with
  | acquire => exact silent _ (acquire rfl)
  | teardown => exact silent _ (teardown rfl)
  | pointerDown => exact silent _ (logged.press log session before)
  | pointerUp => exact silent _ (logged.lift log session before)
  | pointerMove deltaX deltaY =>
      exact silent _ (pointer_move_keeps (kept log) session deltaX deltaY forget
        (fun camera => drag deltaX deltaY camera rfl) before)
  | wheel deltaZ =>
      exact silent _ (wheel_keeps (kept log) session deltaZ forget (fun camera => zoom deltaZ camera rfl) before)
  | resize viewport => exact silent _ (resize viewport rfl)
  | reload graph =>
      rw [perform_reload_next]
      exact silent _ (logged.reload log session graph before)
  | tick => exact logged.tick log session before
  | runFrames frames => exact advance_logs kept logged.tick _ log (Run.mk session (FrameBudget.mk frames) 0) before
  | runPaced frames => exact advance_logs kept logged.tick _ log (Run.mk session (session.pace.limit frames) 0) before
  | dispatch event =>
      cases event with
      | pointerDown => exact silent _ (logged.press log session before)
      | pointerUp => exact silent _ (logged.lift log session before)
      | pointerMove deltaX deltaY =>
          exact silent _ (pointer_move_keeps (kept log) session deltaX deltaY forget
            (fun camera => drag deltaX deltaY camera rfl) before)
      | wheel deltaZ =>
          exact silent _ (wheel_keeps (kept log) session deltaZ forget (fun camera => zoom deltaZ camera rfl) before)
      | resize width height => exact silent _ (resize ⟨width, height⟩ rfl)
      | frame => exact logged.tick log session before
  | drain => exact silent _ (drain rfl)

theorem perform_steady (kept : Session → Prop) (steady : Steady kept) (session : Session) (operation : Operation)
    (drag : ∀ deltaX deltaY camera, operation.drag? = some (deltaX, deltaY) → session.liveCamera = some camera →
      kept { session with controller := (session.controller.pointerMove camera deltaX deltaY).2 })
    (zoom : ∀ deltaZ camera, operation.wheel? = some deltaZ → session.liveCamera = some camera →
      kept { session with controller := (session.controller.wheel camera deltaZ).2 })
    (resize : ∀ viewport, operation.size? = some viewport → kept (session.resize viewport).2)
    (acquire : operation = .acquire → kept session.acquire.2) (teardown : operation = .teardown → kept session.teardown)
    (drain : operation = .drain → kept session.drain.2) (before : kept session) : kept (session.perform operation).2 := by
  have logged : Logged fun _ => kept :=
    ⟨fun _ => steady.forget, fun _ => steady.tick, fun _ => steady.reload, fun _ => steady.press, fun _ => steady.lift⟩
  exact perform_logs (fun _ => kept) logged [] session operation drag zoom resize acquire teardown drain before

theorem perform_carries (kept : Session → Prop) (carried : Carried kept) (session : Session) (operation : Operation)
    (resize : ∀ viewport, operation.size? = some viewport → kept (session.resize viewport).2)
    (acquire : operation = .acquire → kept session.acquire.2) (teardown : operation = .teardown → kept session.teardown)
    (drain : operation = .drain → kept session.drain.2) (before : kept session) : kept (session.perform operation).2 :=
  perform_steady kept carried.toSteady session operation
    (fun deltaX deltaY camera _ shown => carried.drag session camera deltaX deltaY shown before)
    (fun deltaZ camera _ shown => carried.zoom session camera deltaZ shown before) resize acquire teardown drain before

theorem perform_keeps (kept : Session → Prop) (preserved : Preserved kept) (session : Session) (operation : Operation)
    (acquire : operation = .acquire → kept session.acquire.2) (teardown : operation = .teardown → kept session.teardown)
    (drain : operation = .drain → kept session.drain.2) (before : kept session) : kept (session.perform operation).2 :=
  perform_carries kept preserved.toCarried session operation (fun viewport _ => preserved.resize session viewport before)
    acquire teardown drain before

/-- A property of the configuration, the input and the notices. Whatever becomes of engines, loop, lease and sizes, it
cannot tell. -/
structure Detached (kept : Session → Prop) : Prop where
  apart : ∀ session next, kept session → next.config = session.config → next.controller = session.controller →
    next.notices = session.notices → kept next
  tell : ∀ session notice, kept session → kept { session with notices := session.notices.push notice }
  empty : ∀ session, kept session → kept session.drain.2
  renew : ∀ session, kept session →
    kept { session with controller := .create session.config.tuning session.config.initialTarget }
  press : ∀ session, kept session → kept session.pointerDown
  lift : ∀ session, kept session → kept session.pointerUp
  drag : ∀ session camera deltaX deltaY, kept session →
    kept { session with controller := (session.controller.pointerMove camera deltaX deltaY).2 }
  zoom : ∀ session camera deltaZ, kept session →
    kept { session with controller := (session.controller.wheel camera deltaZ).2 }

theorem detached_forget (kept : Session → Prop) (detached : Detached kept) (session : Session) (before : kept session) :
    kept session.forgetReleasedEngine := by
  rw [forget_next]
  exact detached.apart session _ before rfl rfl rfl

theorem detached_tick (kept : Session → Prop) (detached : Detached kept) (session : Session) (before : kept session) :
    kept session.tick.2 := by
  have outcome := tick_cases session
  generalize session.tick = result at outcome ⊢
  cases outcome with
  | skipped halted => exact before
  | terminated running lost => exact detached_forget kept detached session before
  | rendered running handle holding next done => exact detached.apart session _ before rfl rfl rfl
  | faulted running handle holding fault next done =>
      exact detached.apart _ _ (detached.tell session ⟨.warning, fault.message⟩ before) rfl rfl rfl

theorem detached_resize (kept : Session → Prop) (detached : Detached kept) (session : Session) (viewport : Viewport)
    (before : kept session) : kept (session.resize viewport).2 := by
  have outcome := resize_cases session viewport
  generalize session.resize viewport = result at outcome ⊢
  cases outcome with
  | invalid zero => exact before
  | recorded valid unheld => exact detached.apart session _ before rfl rfl rfl
  | forwarded valid handle held next done => exact detached.apart session _ before rfl rfl rfl
  | lost valid handle held dead =>
      have forgotten := detached_forget kept detached { session with viewport := viewport }
        (detached.apart session _ before rfl rfl rfl)
      exact detached.apart _ _ forgotten rfl rfl rfl

theorem detached_reload (kept : Session → Prop) (detached : Detached kept) (session : Session) (graph : Graph)
    (before : kept session) : kept (session.reload graph).2 := by
  have outcome := reload_cases session graph
  generalize session.reload graph = result at outcome ⊢
  cases outcome with
  | absent unheld => exact before
  | misplaced handle held defect flawed => exact before
  | lost handle held dense dead => exact detached_forget kept detached session before
  | loaded handle held dense next done => exact detached.apart session _ before rfl rfl rfl
  | refused handle held dense fault next done =>
      exact detached.apart _ _ (detached.tell session ⟨.error, fault.message⟩ before) rfl rfl rfl

theorem detached_acquire (kept : Session → Prop) (detached : Detached kept) (session : Session) (before : kept session) :
    kept session.acquire.2 := by
  have outcome := acquire_cases session
  generalize session.acquire = result at outcome ⊢
  cases outcome with
  | refused error pool outcome =>
      exact detached.apart _ _ (detached.tell session ⟨.error, error.userMessage⟩ before) rfl rfl rfl
  | opened handle pool outcome => exact detached.apart _ _ (detached.renew session before) rfl rfl rfl

theorem detached_preserved (kept : Session → Prop) (detached : Detached kept) : Preserved kept where
  forget := fun session _ _ _ => detached_forget kept detached session
  tick := detached_tick kept detached
  reload := detached_reload kept detached
  press := detached.press
  lift := detached.lift
  drag := fun session camera deltaX deltaY _ => detached.drag session camera deltaX deltaY
  zoom := fun session camera deltaZ _ => detached.zoom session camera deltaZ
  resize := detached_resize kept detached

theorem perform_detached (kept : Session → Prop) (detached : Detached kept) (session : Session) (operation : Operation)
    (before : kept session) : kept (session.perform operation).2 := by
  refine perform_keeps kept (detached_preserved kept detached) session operation ?_ ?_ ?_ before
  · intro _
    exact detached_acquire kept detached session before
  · intro _
    rw [teardown_next]
    exact detached.apart _ _ (detached.lift session before) rfl rfl rfl
  · intro _
    exact detached.empty session before

end Session

namespace Stage

inductive Performed (stage : Stage) : Action → Stage → Prop where
  | unchanged (action : Action) : Performed stage action stage
  | operated (session : Session) (operation : Session.Operation) (playing : stage.play = .ok session) :
      Performed stage (.operate operation) { stage with play := .ok (session.perform operation).2 }
  | shared (session : Session) (handle : Handle) (playing : stage.play = .ok session)
      (held : session.lease = some handle) :
      Performed stage .share { stage with handles := stage.handles ++ [handle] }
  | released (index : Nat) (handle : Handle) (held : stage.handles[index]? = some handle) :
      Performed stage (.release index) (stage.withPool (stage.pool.release handle).2)
  | commanded (index : Nat) (command : Rig.Command) (handle : Handle) (held : stage.handles[index]? = some handle)
      (answer : Except EngineFault Unit) (pool : Pool)
      (done : stage.pool.withEngine handle (fun rig => rig.perform command) = some (answer, pool)) :
      Performed stage (.command index command) (stage.withPool pool)
  | closed (session : Session) (playing : stage.play = .ok session) :
      Performed stage .close { stage with play := .error session.close }

theorem perform_cases (stage : Stage) (action : Action) : stage.Performed action (stage.perform action).2 := by
  cases action with
  | operate operation =>
      cases playing : stage.play with
      | error ended => simpa only [perform, playing] using Performed.unchanged _
      | ok session => simpa only [perform, playing] using Performed.operated session operation playing
  | share =>
      cases playing : stage.play with
      | error ended => simpa only [perform, playing] using Performed.unchanged _
      | ok session =>
          cases held : session.lease with
          | none => simpa only [perform, playing, held] using Performed.unchanged _
          | some handle => simpa only [perform, playing, held] using Performed.shared session handle playing held
  | release index =>
      cases held : stage.handles[index]? with
      | none => simpa only [perform, held] using Performed.unchanged _
      | some handle => simpa only [perform, held] using Performed.released index handle held
  | command index command =>
      cases held : stage.handles[index]? with
      | none => simpa only [perform, held] using Performed.unchanged _
      | some handle =>
          cases done : stage.pool.withEngine handle fun rig => rig.perform command with
          | none => simpa only [perform, held, done] using Performed.unchanged _
          | some result =>
              simpa only [perform, held, done] using
                Performed.commanded index command handle held result.1 result.2 done
  | close =>
      cases playing : stage.play with
      | error ended => simpa only [perform, playing] using Performed.unchanged _
      | ok session => simpa only [perform, playing] using Performed.closed session playing

def Playing (kept : Session → Prop) (stage : Stage) : Prop := ∀ session, stage.play = .ok session → kept session

@[simp] theorem with_pool_pool (stage : Stage) (pool : Pool) : (stage.withPool pool).pool = pool := by
  obtain ⟨play, handles⟩ := stage
  cases play <;> rfl

theorem with_pool_playing (kept : Session → Prop) (stage : Stage) (pool : Pool)
    (changed : ∀ session, stage.play = .ok session → kept { session with pool := pool }) :
    (stage.withPool pool).Playing kept := by
  obtain ⟨play, handles⟩ := stage
  intro session playing
  cases play with
  | error ended => cases playing
  | ok before =>
      cases playing
      exact changed before rfl

theorem playing_pool (stage : Stage) (session : Session) (playing : stage.play = .ok session) :
    stage.pool = session.pool := by
  rw [pool, playing]

theorem operate_playing (kept after : Session → Prop) (stage : Stage) (operation : Session.Operation)
    (operate : ∀ session, stage.play = .ok session → kept session → after (session.perform operation).2)
    (playing : stage.Playing kept) : (stage.perform (.operate operation)).2.Playing after := by
  intro session next
  cases before : stage.play with
  | error ended =>
      rw [show (stage.perform (.operate operation)).2 = stage by simp only [perform, before], before] at next
      cases next
  | ok earlier =>
      rw [show (stage.perform (.operate operation)).2.play = .ok (earlier.perform operation).2 by
        simp only [perform, before]] at next
      cases next
      exact operate earlier before (playing earlier before)

theorem perform_playing (kept : Session → Prop) (stage : Stage) (action : Action)
    (operate : ∀ session operation, action = .operate operation → stage.play = .ok session → kept session →
      kept (session.perform operation).2)
    (release : ∀ session handle, kept session → kept { session with pool := (session.pool.release handle).2 })
    (command : ∀ session index command handle answer pool, action = .command index command →
      session.pool.withEngine handle (fun rig => rig.perform command) = some (answer, pool) → kept session →
      kept { session with pool := pool })
    (playing : stage.Playing kept) : (stage.perform action).2.Playing kept := by
  have outcome := perform_cases stage action
  generalize (stage.perform action).2 = next at outcome ⊢
  cases outcome with
  | unchanged => exact playing
  | operated session operation before =>
      intro after same
      cases same
      exact operate session operation rfl before (playing session before)
  | shared session handle before held => exact playing
  -- The pool of the stage is that of its session for as long as one plays.
  | released index handle held =>
      apply with_pool_playing
      intro session before
      rw [playing_pool stage session before]
      exact release session handle (playing session before)
  | commanded index order handle held answer pool done =>
      apply with_pool_playing
      intro session before
      rw [playing_pool stage session before] at done
      exact command session index order handle answer pool rfl done (playing session before)
  | closed session before =>
      intro after ended
      cases ended

end Stage

end Plotter
