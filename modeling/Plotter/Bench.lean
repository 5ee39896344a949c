import Plotter.FrameLoop.Basic
import Plotter.Sync

set_option autoImplicit false

namespace Plotter

structure Bench where
  pool : Pool
  managed : Bool
  leases : List (Option Handle)
  handles : List Handle
  loops : List FrameLoop
  viewports : List Viewport
deriving DecidableEq

namespace Bench

def create (plan : List Provision) : Bench := ⟨.create plan, true, [], [], [], []⟩

inductive Action where
  | acquire (surface : Surface)
  | releaseSurface (surface : SurfaceId)
  | askLive (surface : SurfaceId)
  | releaseAll
  | retire
  | releaseLease (lease : Nat)
  | dropLease (lease : Nat)
  /-- Gives a lease up without a release. -/
  | forgetLease (lease : Nat)
  | share (lease : Nat)
  | copyHandle (handle : Nat)
  | releaseHandle (handle : Nat)
  | command (handle : Nat) (command : Rig.Command)
  | sync (handle : Nat) (graph : Graph)
  | createLoop (smoothingFactor : Float32)
  | startLoop (frames handle : Nat)
  | stopLoop (frames : Nat)
  | tickLoop (frames : Nat) (target : Camera)
  | runLoop (frames : Nat) (budget : UInt64) (targets : List Camera)
  | createViewport (viewport : Viewport)
  | resizeViewport (viewport handle : Nat) (size : Viewport)
deriving DecidableEq

inductive Answer where
  | done
  | added (index : Nat)
  | flag (value : Bool)
  | count (value : Nat)
  | refused (error : InitError)
  | failed (error : Error)
  | engine (answer : Except EngineFault Unit)
  | outcome (value : TickOutcome)
  | ran (rendered : UInt64) (asked : Nat) (left : Bool)
  | noManager
  | noLease
  | missing

def Answer.ofResult : Except Error Unit → Answer
  | .ok _ => .done
  | .error error => .failed error

def cycle (targets : List Camera) (request : Nat) : Camera :=
  targets[request % targets.length]?.getD Engine.initialCamera

def withLease (bench : Bench) (index : Nat) (use : Handle → Answer × Bench) : Answer × Bench :=
  match bench.leases[index]? with
  | some (some lease) => use lease
  | _ => (.noLease, bench)

def withHandle (bench : Bench) (index : Nat) (use : Handle → Answer × Bench) : Answer × Bench :=
  match bench.handles[index]? with
  | some handle => use handle
  | none => (.missing, bench)

def withLoop (bench : Bench) (index : Nat) (use : FrameLoop → Answer × Bench) : Answer × Bench :=
  match bench.loops[index]? with
  | some frames => use frames
  | none => (.missing, bench)

def managing (bench : Bench) (use : Answer × Bench) : Answer × Bench :=
  if bench.managed then use else (.noManager, bench)

def addHandle (bench : Bench) (handle : Handle) : Answer × Bench :=
  (.added bench.handles.length, { bench with handles := bench.handles ++ [handle] })

def acquire (bench : Bench) (surface : Surface) : Answer × Bench :=
  match bench.pool.acquire surface with
  | (.error error, pool) => (.refused error, { bench with pool := pool })
  | (.ok handle, pool) =>
    (.added bench.leases.length,
      { bench with pool := pool, leases := bench.leases ++ [some handle] })

def releaseHandle (bench : Bench) (handle : Handle) : Answer × Bench :=
  let (released, pool) := bench.pool.release handle
  (.flag released, { bench with pool := pool })

def retire (bench : Bench) : Bench :=
  { bench with pool := bench.pool.releaseAll.2, managed := false }

def resizeViewport (bench : Bench) (index : Nat) (handle : Handle) (size : Viewport) :
    Answer × Bench :=
  match bench.viewports[index]? with
  | none => (.missing, bench)
  | some recorded =>
    let (answer, viewport, pool) := recorded.resize bench.pool handle size
    (.ofResult answer,
      { bench with pool := pool, viewports := bench.viewports.set index viewport })

def runLoop (bench : Bench) (index : Nat) (frames : FrameLoop) (budget : UInt64)
    (targets : List Camera) : Answer × Bench :=
  let run := frames.run bench.pool (⟨budget⟩ : FrameBudget) (cycle targets)
  (.ran run.rendered run.asked run.source.next?.isSome,
    { bench with pool := run.pool, loops := bench.loops.set index run.frames })

def perform (bench : Bench) : Action → Answer × Bench
  | .acquire surface => bench.managing (bench.acquire surface)
  | .releaseSurface surface =>
    let (released, pool) := bench.pool.releaseSurface surface
    bench.managing (.flag released, { bench with pool := pool })
  | .askLive surface => bench.managing (.flag (bench.pool.isSurfaceLive surface), bench)
  | .releaseAll =>
    let (count, pool) := bench.pool.releaseAll
    bench.managing (.count count, { bench with pool := pool })
  | .retire => bench.managing (.done, bench.retire)
  | .releaseLease index => bench.withLease index bench.releaseHandle
  | .dropLease index =>
    bench.withLease index fun lease =>
      let (_, bench) := bench.releaseHandle lease
      (.done, { bench with leases := bench.leases.set index none })
  | .forgetLease index =>
    bench.withLease index fun _ => (.done, { bench with leases := bench.leases.set index none })
  | .share index => bench.withLease index bench.addHandle
  | .copyHandle index => bench.withHandle index bench.addHandle
  | .releaseHandle index => bench.withHandle index bench.releaseHandle
  | .command index command =>
    bench.withHandle index fun handle =>
      match bench.pool.withEngine handle fun rig => rig.perform command with
      | none => (.failed handle.stale, bench)
      | some (answer, pool) => (.engine answer, { bench with pool := pool })
  | .sync index graph =>
    bench.withHandle index fun handle =>
      let (answer, pool) := bench.pool.sync handle graph
      (.ofResult answer, { bench with pool := pool })
  | .createLoop smoothingFactor =>
    (.added bench.loops.length, { bench with loops := bench.loops ++ [.create smoothingFactor] })
  | .startLoop index handle =>
    bench.withLoop index fun frames => bench.withHandle handle fun handle =>
      let (answer, frames) := frames.start bench.pool handle
      (.ofResult answer, { bench with loops := bench.loops.set index frames })
  | .stopLoop index =>
    bench.withLoop index fun frames =>
      (.done, { bench with loops := bench.loops.set index frames.stop })
  | .tickLoop index target =>
    bench.withLoop index fun frames =>
      let (outcome, frames, pool) := frames.tick bench.pool target
      (.outcome outcome, { bench with pool := pool, loops := bench.loops.set index frames })
  | .runLoop index budget targets =>
    bench.withLoop index fun frames => bench.runLoop index frames budget targets
  | .createViewport viewport =>
    (.added bench.viewports.length, { bench with viewports := bench.viewports ++ [viewport] })
  | .resizeViewport index handle size =>
    bench.withHandle handle fun handle => bench.resizeViewport index handle size

def close (bench : Bench) : Pool :=
  let bench := if bench.managed then bench.retire else bench
  (bench.pool.releaseEach (bench.leases.filterMap id)).2

end Bench

end Plotter
