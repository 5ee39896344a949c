import Plotter.Engine.Basic
import Plotter.Engine.Surface

/-!
Engines and who may use them. Every engine has a slot; handles name a slot, and releasing through
any handle makes all of them stale. A surface has at most one registered engine: acquiring a surface
again releases the engine before.
-/

set_option autoImplicit false

namespace Plotter

inductive Provision where
  | working
  | rejected (fault : EngineFault)
  | failingStart (fault : EngineFault)
  | failingAnimation (fault : EngineFault)
deriving DecidableEq, Repr

structure Slot where
  engine : Engine
  live : Bool
deriving DecidableEq

structure Handle where
  surface : SurfaceId
  slot : Nat
deriving DecidableEq, Repr

structure Pool where
  /-- What the next creations give; past its end they all work. -/
  plan : List Provision
  created : Nat
  slots : List Slot
  journal : Journal
  registered : List Handle
deriving DecidableEq

namespace Pool

def create (plan : List Provision) : Pool := ⟨plan, 0, [], #[], []⟩

def engine? (pool : Pool) (handle : Handle) : Option Engine :=
  match pool.slots[handle.slot]? with
  | some slot => if slot.live then some slot.engine else none
  | none => none

def isLive (pool : Pool) (handle : Handle) : Bool := (pool.engine? handle).isSome

def withEngine {α : Type} (pool : Pool) (handle : Handle) (action : Rig → α × Rig) :
    Option (α × Pool) :=
  match pool.engine? handle with
  | none => none
  | some engine =>
    let (answer, rig) := action ⟨engine, pool.journal⟩
    let slots := pool.slots.set handle.slot ⟨rig.engine, true⟩
    some (answer, { pool with slots := slots, journal := rig.journal })

def release (pool : Pool) (handle : Handle) : Bool × Pool :=
  match pool.engine? handle with
  | none => (false, pool)
  | some engine =>
    (true, { pool with
      slots := pool.slots.set handle.slot ⟨engine, false⟩
      journal := Rig.release ⟨engine, pool.journal⟩ })

def releaseEach (pool : Pool) : List Handle → Nat × Pool
  | [] => (0, pool)
  | handle :: rest =>
    let (released, pool) := pool.release handle
    let (count, pool) := pool.releaseEach rest
    ((if released then count + 1 else count), pool)

def entry (pool : Pool) (surface : SurfaceId) : Option Handle :=
  pool.registered.find? fun handle => handle.surface = surface

def releaseSurface (pool : Pool) (surface : SurfaceId) : Bool × Pool :=
  match pool.entry surface with
  | none => (false, pool)
  | some handle =>
    let registered := pool.registered.filter fun other => other.surface ≠ surface
    { pool with registered := registered }.release handle

def releaseAll (pool : Pool) : Nat × Pool :=
  { pool with registered := [] }.releaseEach pool.registered

def isSurfaceLive (pool : Pool) (surface : SurfaceId) : Bool := (pool.entry surface).any pool.isLive

def liveCount (pool : Pool) : Nat := (pool.registered.filter pool.isLive).length

def nextProvision (pool : Pool) : Provision := pool.plan.head?.getD .working

def provide (pool : Pool) (viewport : Viewport) : Except EngineFault Engine × Pool :=
  let engine := Engine.create viewport
  let asked := { pool with plan := pool.plan.tail }
  let counted := { asked with created := asked.created + 1 }
  match pool.nextProvision with
  | .rejected fault => (.error fault, asked)
  | .working => (.ok engine, counted)
  | .failingStart fault => (.ok { engine with startFault := some fault }, counted)
  | .failingAnimation fault => (.ok { engine with animationFault := some fault }, counted)

def requiredCapability : Capability := .webGl2

def newHandle (pool : Pool) (surface : SurfaceId) : Handle := ⟨surface, pool.slots.length⟩

def register (pool : Pool) (surface : SurfaceId) (engine : Engine) : Pool :=
  { pool with
    slots := pool.slots ++ [⟨engine, true⟩]
    registered := pool.registered ++ [pool.newHandle surface] }

def bringUp (pool : Pool) (surface : Surface) : Except InitError Handle × Pool :=
  if !surface.supports requiredCapability then
    (.error (.unsupported surface.id.name requiredCapability.label), pool)
  else
    match pool.provide surface.viewport with
    | (.error fault, pool) => (.error (.rejected surface.id.name fault.message), pool)
    | (.ok engine, pool) =>
      match Rig.start ⟨engine, pool.journal⟩ with
      | (.error fault, rig) =>
        (.error (.rejected surface.id.name fault.message),
          { pool with journal := rig.release })
      | (.ok _, rig) =>
        (.ok (pool.newHandle surface.id),
          { pool with journal := rig.journal }.register surface.id rig.engine)

def acquire (pool : Pool) (surface : Surface) : Except InitError Handle × Pool :=
  (pool.releaseSurface surface.id).2.bringUp surface

end Pool

def Handle.stale (handle : Handle) : Error := .staleHandle handle.surface.name

def Handle.debugText (pool : Pool) (handle : Handle) : String :=
  let live := if pool.isLive handle then "true" else "false"
  "EngineHandle \x7b surface: " ++ handle.surface.debugText ++ ", live: " ++ live ++ " \x7d"

end Plotter
