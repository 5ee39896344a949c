import Plotter.Engine.Pool
import Plotter.FrameLoop.Source

set_option autoImplicit false

namespace Plotter

inductive TickOutcome where
  | rendered
  | faulted (fault : EngineFault)
  | skipped
  | terminated
deriving DecidableEq, Repr

structure FrameLoop where
  state : LoopState
  handle : Option Handle
  smoothingFactor : Float32
  ticksRendered : UInt64
  tickFaults : UInt64
deriving DecidableEq

namespace FrameLoop

def create (smoothingFactor : Float32) : FrameLoop := ⟨.idle, none, smoothingFactor, 0, 0⟩

def start (frames : FrameLoop) (pool : Pool) (handle : Handle) : Except Error Unit × FrameLoop :=
  if frames.state ≠ .idle then (.error (.invalidData (.loopNotIdle frames.state)), frames)
  else if pool.isLive handle then
    (.ok (), { frames with handle := some handle, state := .running })
  else (.error handle.stale, { frames with state := .stopped })

def stop (frames : FrameLoop) : FrameLoop :=
  if frames.state = .stopped then frames else { frames with handle := none, state := .stopped }

def settle (frames : FrameLoop) : Except EngineFault Unit → TickOutcome × FrameLoop
  | .ok _ => (.rendered, { frames with ticksRendered := frames.ticksRendered + 1 })
  | .error fault => (.faulted fault, { frames with tickFaults := frames.tickFaults + 1 })

def tick (frames : FrameLoop) (pool : Pool) (target : Camera) : TickOutcome × FrameLoop × Pool :=
  if frames.state ≠ .running then (.skipped, frames, pool)
  else
    match frames.handle with
    | none => (.terminated, frames.stop, pool)
    | some handle =>
      match pool.withEngine handle fun rig => rig.step target frames.smoothingFactor with
      | none => (.terminated, frames.stop, pool)
      | some (answer, pool) =>
        let (outcome, frames) := frames.settle answer
        (outcome, frames, pool)

structure Run (σ : Type) where
  frames : FrameLoop
  pool : Pool
  source : σ
  asked : Nat
  rendered : UInt64

def Run.advance {σ : Type} [FrameSource σ] (targets : Nat → Camera) : Nat → Run σ → Run σ
  | 0, run => run
  | fuel + 1, run =>
    if run.frames.state ≠ .running then run
    else
      match FrameSource.next? run.source with
      | none => run
      | some source =>
        let (outcome, frames, pool) := run.frames.tick run.pool (targets run.asked)
        let rendered := if outcome = .rendered then run.rendered + 1 else run.rendered
        Run.advance targets fuel ⟨frames, pool, source, run.asked + 1, rendered⟩

def run {σ : Type} [FrameSource σ] (frames : FrameLoop) (pool : Pool) (source : σ)
    (targets : Nat → Camera) : Run σ :=
  Run.advance targets (FrameSource.left source) ⟨frames, pool, source, 0, 0⟩

end FrameLoop

end Plotter
