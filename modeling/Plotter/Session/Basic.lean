import Plotter.Camera.Controller
import Plotter.FrameLoop.Basic
import Plotter.Notice
import Plotter.Session.Config
import Plotter.Session.Event
import Plotter.Session.Snapshot
import Plotter.Sync

set_option autoImplicit false

namespace Plotter

structure Session where
  config : Config
  surface : Surface
  pool : Pool
  /-- The engine that the session answers for: letting go of the lease releases it. -/
  lease : Option Handle
  frames : FrameLoop
  controller : Controller
  viewport : Viewport
  notices : NoticeQueue
  stored : EngineStatus
deriving DecidableEq

namespace Session

def fresh (plan : List Provision) (surface : Surface) (config : Config) : Session where
  config := config
  surface := surface
  pool := .create plan
  lease := none
  frames := .create config.tuning.smoothingFactor
  controller := .create config.tuning config.initialTarget
  viewport := config.viewport
  notices := .create config.notificationCapacity.toNat
  stored := .loading

def create (plan : List Provision) (surface : Surface) (config : Config) : Except Error Session :=
  match config.validate with
  | .error error => .error error
  | .ok _ => .ok (fresh plan surface config)

def engine? (session : Session) : Option Engine := session.lease.bind session.pool.engine?

def engineIsLive (session : Session) : Bool := session.lease.any session.pool.isLive

def status (session : Session) : EngineStatus :=
  if session.stored = .ready && !session.engineIsLive then .released else session.stored

def isReady (session : Session) : Bool := session.stored = .ready && session.engineIsLive

def liveCamera (session : Session) : Option Camera := session.engine?.map Engine.camera

def notify (session : Session) (level : NoticeLevel) (message : String) : Session :=
  { session with notices := session.notices.push ⟨level, message⟩ }

def letGo (session : Session) : Pool :=
  match session.lease with
  | none => session.pool
  | some handle => (session.pool.release handle).2

def dropLease (session : Session) : Session := { session with lease := none, pool := session.letGo }

def forgetReleasedEngine (session : Session) : Session :=
  let session := { session with frames := session.frames.stop }.dropLease
  { session with stored := if session.stored = .ready then .released else session.stored }

def statusOfError (error : InitError) : EngineStatus :=
  match error with
  | .unsupported _ _ => .unsupported error.userMessage
  | .rejected _ _ => .failed error.userMessage

def adopt (session : Session) (handle : Handle) : Except Error Unit × Session :=
  match (FrameLoop.create session.config.tuning.smoothingFactor).start session.pool handle with
  | (.error error, frames) =>
    let (_, pool) := session.pool.release handle
    (.error error, { session with frames := frames, pool := pool })
  | (.ok _, frames) =>
    (.ok (), { session with
      frames := frames
      controller := .create session.config.tuning session.config.initialTarget
      lease := some handle
      stored := .ready })

def takeOver (session : Session) : Except InitError Handle × Pool → Except Error Unit × Session
  | (.error error, pool) =>
    let session := { session with pool := pool, stored := statusOfError error }
    (.error (.initialization error), session.notify .error error.userMessage)
  | (.ok handle, pool) => { session with pool := pool }.adopt handle

def haltedLoop (session : Session) : FrameLoop :=
  if session.frames.state = .running then session.frames.stop else session.frames

def acquire (session : Session) : Except Error Unit × Session :=
  let session := { session with frames := session.haltedLoop }.dropLease
  session.takeOver (session.pool.acquire session.surface)

def teardown (session : Session) : Session :=
  let stopped := { session with
    frames := session.frames.stop
    controller := session.controller.pointerUp }
  let session := stopped.dropLease
  let (_, pool) := session.pool.releaseSurface session.surface.id
  let ended := session.stored = .ready ∨ session.stored = .loading
  { session with pool := pool, stored := if ended then .released else session.stored }

def cameraForInput (session : Session) : Option Camera × Session :=
  if session.lease.isNone then (none, session)
  else
    match session.liveCamera with
    | some camera => (some camera, session)
    | none => (none, session.forgetReleasedEngine)

def pointerDown (session : Session) : Session :=
  { session with controller := session.controller.pointerDown }

def pointerUp (session : Session) : Session :=
  { session with controller := session.controller.pointerUp }

def pointerMove (session : Session) (deltaX deltaY : Float32) : Session :=
  if !session.controller.isPointerDown then session
  else
    match session.cameraForInput with
    | (none, session) => session
    | (some live, session) =>
      { session with controller := (session.controller.pointerMove live deltaX deltaY).2 }

def wheel (session : Session) (deltaZ : Float32) : Session :=
  match session.cameraForInput with
  | (none, session) => session
  | (some live, session) =>
    { session with controller := (session.controller.wheel live deltaZ).2 }

def settleSize (session : Session) : Session :=
  { session with surface := { session.surface with viewport := session.viewport } }

def resize (session : Session) (viewport : Viewport) : Except Error Unit × Session :=
  match session.lease with
  | none =>
    if !viewport.isValid then (.error (.invalidViewport viewport), session)
    -- without an engine the size is still recorded, for the next one
    else (.ok (), { session with viewport := viewport }.settleSize)
  | some handle =>
    let (answer, recorded, pool) := session.viewport.resize session.pool handle viewport
    let session := { session with viewport := recorded, pool := pool }
    match answer with
    | .ok _ => (.ok (), session.settleSize)
    | .error error =>
      if error.isStaleHandle then (.ok (), session.forgetReleasedEngine.settleSize)
      else (.error error, session)

def reload (session : Session) (graph : Graph) : Except Error Bool × Session :=
  match session.lease with
  | none => (.ok false, session)
  | some handle =>
    let (answer, pool) := session.pool.sync handle graph
    let session := { session with pool := pool }
    match answer with
    | .ok _ => (.ok true, session)
    | .error (.staleHandle _) => (.ok false, session.forgetReleasedEngine)
    | .error (.sync fault) => (.error (.sync fault), session.notify .error fault.message)
    | .error error => (.error error, session)

def tick (session : Session) : TickOutcome × Session :=
  let (outcome, frames, pool) := session.frames.tick session.pool session.controller.target
  let session := { session with frames := frames, pool := pool }
  match outcome with
  | .faulted fault => (outcome, session.notify .warning fault.message)
  | .terminated => (outcome, session.forgetReleasedEngine)
  | _ => (outcome, session)

structure Run (σ : Type) where
  session : Session
  source : σ
  rendered : UInt64

def Run.advance {σ : Type} [FrameSource σ] : Nat → Run σ → Run σ
  | 0, run => run
  | fuel + 1, run =>
    if run.session.frames.state ≠ .running then run
    else
      match FrameSource.next? run.source with
      | none => run
      | some source =>
        let (outcome, session) := run.session.tick
        let rendered := if outcome = .rendered then run.rendered + 1 else run.rendered
        Run.advance fuel ⟨session, source, rendered⟩

def runFrames {σ : Type} [FrameSource σ] (session : Session) (source : σ) : Run σ :=
  Run.advance (FrameSource.left source) ⟨session, source, 0⟩

def pace (session : Session) : Pace := .ofRate session.config.targetFrameRate

def dispatch (session : Session) : HostEvent → Except Error Unit × Session
  | .pointerDown => (.ok (), session.pointerDown)
  | .pointerUp => (.ok (), session.pointerUp)
  | .pointerMove deltaX deltaY => (.ok (), session.pointerMove deltaX deltaY)
  | .wheel deltaZ => (.ok (), session.wheel deltaZ)
  | .resize width height => session.resize ⟨width, height⟩
  | .frame => (.ok (), session.tick.2)

def pendingNotices (session : Session) : Nat := session.notices.size

def drain (session : Session) : List Notice × Session :=
  let (notices, queue) := session.notices.drain
  (notices, { session with notices := queue })

def snapshot (session : Session) : Snapshot where
  surface := session.surface.id.name
  status := session.status
  loopState := session.frames.state
  viewport := session.viewport
  targetCamera := session.controller.target
  liveCamera := session.liveCamera
  interactionMode := session.controller.mode
  ticksRendered := session.frames.ticksRendered
  tickFaults := session.frames.tickFaults
  pendingNotifications := UInt64.ofNat session.pendingNotices

def close (session : Session) : Pool :=
  session.teardown.pool.releaseAll.2

end Session

end Plotter
