import Plotter.Session.Basic

set_option autoImplicit false

namespace Plotter

namespace Session

inductive Operation where
  | acquire
  | teardown
  | pointerDown
  | pointerUp
  | pointerMove (deltaX deltaY : Float32)
  | wheel (deltaZ : Float32)
  | resize (viewport : Viewport)
  | reload (graph : Graph)
  | tick
  | runFrames (frames : UInt64)
  | runPaced (frames : UInt64)
  | dispatch (event : HostEvent)
  | drain
deriving DecidableEq

inductive Answer where
  | done
  | failed (error : Error)
  | loaded (pushed : Bool)
  | outcome (value : TickOutcome)
  | rendered (frames : UInt64)
  | notices (items : List Notice)
deriving DecidableEq

def Answer.ofResult : Except Error Unit → Answer
  | .ok _ => .done
  | .error error => .failed error

def perform (session : Session) : Operation → Answer × Session
  | .acquire =>
    let (answer, session) := session.acquire
    (.ofResult answer, session)
  | .teardown => (.done, session.teardown)
  | .pointerDown => (.done, session.pointerDown)
  | .pointerUp => (.done, session.pointerUp)
  | .pointerMove deltaX deltaY => (.done, session.pointerMove deltaX deltaY)
  | .wheel deltaZ => (.done, session.wheel deltaZ)
  | .resize viewport =>
    let (answer, session) := session.resize viewport
    (.ofResult answer, session)
  | .reload graph =>
    match session.reload graph with
    | (.ok pushed, session) => (.loaded pushed, session)
    | (.error error, session) => (.failed error, session)
  | .tick =>
    let (outcome, session) := session.tick
    (.outcome outcome, session)
  | .runFrames frames =>
    let run := session.runFrames (⟨frames⟩ : FrameBudget)
    (.rendered run.rendered, run.session)
  | .runPaced frames =>
    let run := session.runFrames (session.pace.limit frames)
    (.rendered run.rendered, run.session)
  | .dispatch event =>
    let (answer, session) := session.dispatch event
    (.ofResult answer, session)
  | .drain =>
    let (notices, session) := session.drain
    (.notices notices, session)

end Session

/-- A session that goes on, or the engines of one that has ended, with the handles of the host. -/
structure Stage where
  play : Except Pool Session
  handles : List Handle

namespace Stage

def create (session : Session) : Stage := ⟨.ok session, []⟩

def pool (stage : Stage) : Pool :=
  match stage.play with
  | .ok session => session.pool
  | .error pool => pool

def withPool (stage : Stage) (pool : Pool) : Stage :=
  match stage.play with
  | .ok session => { stage with play := .ok { session with pool := pool } }
  | .error _ => { stage with play := .error pool }

inductive Action where
  | operate (operation : Session.Operation)
  | share
  | release (handle : Nat)
  | command (handle : Nat) (command : Rig.Command)
  | close
deriving DecidableEq

inductive Answer where
  | session (answer : Session.Answer)
  | noSession
  | shared (handle : Option Nat)
  | noHandle
  | released (value : Bool)
  | stale (handle : Handle)
  | engine (answer : Except EngineFault Unit)
  | closed

def perform (stage : Stage) : Action → Answer × Stage
  | .operate operation =>
    match stage.play with
    | .error _ => (.noSession, stage)
    | .ok session =>
      let (answer, session) := session.perform operation
      (.session answer, { stage with play := .ok session })
  | .share =>
    match stage.play with
    | .error _ => (.noSession, stage)
    | .ok session =>
      match session.lease with
      | none => (.shared none, stage)
      | some handle =>
        (.shared (some stage.handles.length), { stage with handles := stage.handles ++ [handle] })
  | .release index =>
    match stage.handles[index]? with
    | none => (.noHandle, stage)
    | some handle =>
      let (released, pool) := stage.pool.release handle
      (.released released, stage.withPool pool)
  | .command index command =>
    match stage.handles[index]? with
    | none => (.noHandle, stage)
    | some handle =>
      match stage.pool.withEngine handle fun rig => rig.perform command with
      | none => (.stale handle, stage)
      | some (answer, pool) => (.engine answer, stage.withPool pool)
  | .close =>
    match stage.play with
    | .error _ => (.closed, stage)
    | .ok session => (.closed, { stage with play := .error session.close })

end Stage

end Plotter
