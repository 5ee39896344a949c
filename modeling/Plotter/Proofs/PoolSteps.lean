import Plotter.FrameLoop.Basic
import Plotter.Sync

set_option autoImplicit false

namespace Plotter

theorem step_pending (rig : Rig) (target : Camera) (factor : Float32) (fault : EngineFault)
    (pending : rig.engine.renderFault = some fault) :
    rig.step target factor =
      (.error fault, ⟨{ rig.engine with renderFault := none }, rig.journal.push .renderFrame⟩) := by
  simp [Rig.step, Rig.renderFrame, Rig.record, pending]

theorem step_clear (rig : Rig) (target : Camera) (factor : Float32) (clear : rig.engine.renderFault = none) :
    let camera := rig.engine.camera.smoothedToward target factor
    rig.step target factor =
      (.ok (),
        ⟨{ rig.engine with frames := rig.engine.frames + 1, camera := camera },
          ((rig.journal.push .renderFrame).push (.setCameraRotation camera.rotationX camera.rotationY)).push
            (.setCameraZoom camera.zoom)⟩) := by
  simp [Rig.step, Rig.renderFrame, Rig.setCamera, Rig.setCameraRotation, Rig.setCameraZoom, Rig.record, clear]

theorem set_equations_next (rig : Rig) (formulas : List Formula) : ∃ equations,
    (rig.setEquations formulas).2 =
      ⟨{ rig.engine with equations := equations }, rig.journal.push (.setEquations formulas)⟩ := by
  rw [Rig.setEquations, Rig.record]
  cases Rig.firstFlaw 1 formulas with
  | some found => exact ⟨rig.engine.equations, rfl⟩
  | none => exact ⟨Rig.enabledExpressions formulas, rfl⟩

theorem load_failing (rig : Rig) (graph : Graph) (fault : EngineFault)
    (failing : rig.engine.animationFault = some fault) :
    rig.load graph =
      (.error fault,
        ⟨{ rig.engine with animate := graph.animate }, rig.journal.push (.setAnimationEnabled graph.animate)⟩) := by
  simp [Rig.load, Rig.setAnimationEnabled, Rig.outcome, Rig.record, failing]

theorem load_flawed (rig : Rig) (graph : Graph) (position : Nat) (flaw : Expression.Flaw)
    (obeying : rig.engine.animationFault = none) (flawed : Rig.firstFlaw 1 graph.payload = some (position, flaw)) :
    rig.load graph =
      (.error ⟨Rig.flawMessage position flaw⟩,
        ⟨{ rig.engine with animate := graph.animate },
          (rig.journal.push (.setAnimationEnabled graph.animate)).push (.setEquations graph.payload)⟩) := by
  simp [Rig.load, Rig.setAnimationEnabled, Rig.setEquations, Rig.outcome, Rig.record, obeying, flawed]

theorem load_sound (rig : Rig) (graph : Graph) (obeying : rig.engine.animationFault = none)
    (sound : Rig.firstFlaw 1 graph.payload = none) :
    rig.load graph =
      (.ok (),
        ⟨{ rig.engine with animate := graph.animate, equations := Rig.enabledExpressions graph.payload },
          (rig.journal.push (.setAnimationEnabled graph.animate)).push (.setEquations graph.payload)⟩) := by
  simp [Rig.load, Rig.setAnimationEnabled, Rig.setEquations, Rig.outcome, Rig.record, obeying, sound]

theorem load_engine (rig : Rig) (graph : Graph) : ∃ equations,
    (rig.load graph).2.engine = { rig.engine with animate := graph.animate, equations := equations } := by
  cases failing : rig.engine.animationFault with
  | some fault => exact ⟨_, by rw [load_failing rig graph fault failing]⟩
  | none =>
      cases flawed : Rig.firstFlaw 1 graph.payload with
      | some found => exact ⟨_, by rw [load_flawed rig graph found.1 found.2 failing flawed]⟩
      | none => exact ⟨_, by rw [load_sound rig graph failing flawed]⟩

def Pool.liveAt (pool : Pool) (slot : Nat) : Bool := pool.slots[slot]?.any Slot.live

def Pool.Quiet (pool : Pool) : Prop := ∀ slot, pool.liveAt slot = false

theorem is_live_at (pool : Pool) (handle : Handle) : pool.isLive handle = pool.liveAt handle.slot := by
  rw [Pool.isLive, Pool.engine?, Pool.liveAt]
  cases pool.slots[handle.slot]? with
  | none => rfl
  | some slot => cases live : slot.live <;> simp [live]

theorem engine_of_live (pool : Pool) (handle : Handle) (live : pool.isLive handle = true) :
    ∃ engine, pool.engine? handle = some engine ∧ pool.slots[handle.slot]? = some ⟨engine, true⟩ := by
  rw [Pool.isLive, Pool.engine?] at live
  rw [Pool.engine?]
  cases found : pool.slots[handle.slot]? with
  | none => simp [found] at live
  | some slot =>
      obtain ⟨engine, flag⟩ := slot
      cases flag with
      | false => simp [found] at live
      | true => exact ⟨engine, rfl, rfl⟩

theorem engine_of_dead (pool : Pool) (handle : Handle) (dead : pool.isLive handle = false) :
    pool.engine? handle = none := by
  rw [Pool.isLive] at dead
  simpa using dead

theorem live_of_engine (pool : Pool) (handle : Handle) (engine : Engine) (found : pool.engine? handle = some engine) :
    pool.liveAt handle.slot = true := by
  rw [← is_live_at, Pool.isLive, found]
  rfl

theorem live_at_bound (pool : Pool) (slot : Nat) (live : pool.liveAt slot = true) : slot < pool.slots.length := by
  apply Nat.lt_of_not_le
  intro outside
  simp [Pool.liveAt, List.getElem?_eq_none outside] at live

theorem quiet_slots (pool : Pool) : pool.Quiet ↔ ∀ slot ∈ pool.slots, slot.live = false := by
  constructor
  · intro quiet slot member
    obtain ⟨index, found⟩ := List.mem_iff_getElem?.mp member
    simpa [Pool.liveAt, found] using quiet index
  · intro quiet index
    rw [Pool.liveAt]
    cases found : pool.slots[index]? with
    | none => rfl
    | some slot => exact quiet slot (List.mem_of_getElem? found)

theorem quiet_iff (pool : Pool) : pool.Quiet ↔ ¬ ∃ slot, pool.liveAt slot = true := by
  simp [Pool.Quiet]

theorem quiet_dead (pool : Pool) (quiet : pool.Quiet) (handle : Handle) : pool.isLive handle = false := by
  rw [is_live_at]
  exact quiet handle.slot

theorem live_at_set (pool : Pool) (index slot : Nat) (engine : Engine) (flag : Bool) (bound : index < pool.slots.length) :
    ((pool.slots.set index ⟨engine, flag⟩)[slot]?.any Slot.live) = if slot = index then flag else pool.liveAt slot := by
  by_cases same : slot = index
  · subst slot
    simp [bound]
  · rw [if_neg same, List.getElem?_set_ne (Ne.symm same)]
    rfl

theorem with_engine_dead {α : Type} (pool : Pool) (handle : Handle) (action : Rig → α × Rig)
    (dead : pool.isLive handle = false) : pool.withEngine handle action = none := by
  simp only [Pool.withEngine, engine_of_dead pool handle dead]

theorem with_engine_some {α : Type} (pool next : Pool) (handle : Handle) (action : Rig → α × Rig) (answer : α)
    (done : pool.withEngine handle action = some (answer, next)) :
    ∃ engine rig, pool.engine? handle = some engine ∧ action ⟨engine, pool.journal⟩ = (answer, rig) ∧
      next = { pool with slots := pool.slots.set handle.slot ⟨rig.engine, true⟩, journal := rig.journal } := by
  rw [Pool.withEngine] at done
  cases found : pool.engine? handle with
  | none => simp [found] at done
  | some engine =>
      simp only [found, Option.some.injEq, Prod.mk.injEq] at done
      exact ⟨engine, (action ⟨engine, pool.journal⟩).2, rfl, Prod.ext done.1 rfl, done.2.symm⟩

theorem with_engine_live {α : Type} (pool : Pool) (handle : Handle) (action : Rig → α × Rig)
    (live : pool.isLive handle = true) : ∃ answer next, pool.withEngine handle action = some (answer, next) := by
  obtain ⟨engine, found, _⟩ := engine_of_live pool handle live
  simp only [Pool.withEngine, found]
  exact ⟨_, _, rfl⟩

theorem with_engine_live_at {α : Type} (pool next : Pool) (handle : Handle) (action : Rig → α × Rig) (answer : α)
    (done : pool.withEngine handle action = some (answer, next)) (slot : Nat) : next.liveAt slot = pool.liveAt slot := by
  obtain ⟨engine, rig, found, _, rfl⟩ := with_engine_some pool next handle action answer done
  have live := live_of_engine pool handle engine found
  rw [Pool.liveAt, live_at_set pool handle.slot slot rig.engine true (live_at_bound pool handle.slot live)]
  by_cases same : slot = handle.slot
  · rw [if_pos same, same, live]
  · rw [if_neg same]

theorem with_engine_frame {α : Type} (pool next : Pool) (handle : Handle) (action : Rig → α × Rig) (answer : α)
    (done : pool.withEngine handle action = some (answer, next)) :
    next.registered = pool.registered ∧ next.created = pool.created ∧ next.slots.length = pool.slots.length := by
  obtain ⟨engine, rig, _, _, rfl⟩ := with_engine_some pool next handle action answer done
  exact ⟨rfl, rfl, List.length_set⟩

theorem with_engine_found {α : Type} (pool next : Pool) (handle : Handle) (action : Rig → α × Rig) (answer : α)
    (done : pool.withEngine handle action = some (answer, next)) :
    ∃ engine, pool.engine? handle = some engine ∧
      next.engine? handle = some (action ⟨engine, pool.journal⟩).2.engine := by
  obtain ⟨engine, rig, found, result, rfl⟩ := with_engine_some pool next handle action answer done
  have bound := live_at_bound pool handle.slot (live_of_engine pool handle engine found)
  refine ⟨engine, found, ?_⟩
  simp [Pool.engine?, bound, result]

theorem release_dead (pool : Pool) (handle : Handle) (dead : pool.isLive handle = false) :
    pool.release handle = (false, pool) := by
  simp only [Pool.release, engine_of_dead pool handle dead]

theorem release_live (pool : Pool) (handle : Handle) (live : pool.isLive handle = true) :
    ∃ engine, pool.engine? handle = some engine ∧ pool.release handle =
      (true, { pool with slots := pool.slots.set handle.slot ⟨engine, false⟩, journal := pool.journal.push .release }) := by
  obtain ⟨engine, found, _⟩ := engine_of_live pool handle live
  exact ⟨engine, found, by simp only [Pool.release, found, Rig.release, Rig.record]⟩

@[simp] theorem release_flag (pool : Pool) (handle : Handle) : (pool.release handle).1 = pool.isLive handle := by
  cases live : pool.isLive handle with
  | false => rw [release_dead pool handle live]
  | true =>
      obtain ⟨engine, _, released⟩ := release_live pool handle live
      rw [released]

@[simp] theorem release_registered (pool : Pool) (handle : Handle) :
    (pool.release handle).2.registered = pool.registered := by
  rw [Pool.release]
  cases pool.engine? handle <;> rfl

@[simp] theorem release_created (pool : Pool) (handle : Handle) : (pool.release handle).2.created = pool.created := by
  rw [Pool.release]
  cases pool.engine? handle <;> rfl

@[simp] theorem release_plan (pool : Pool) (handle : Handle) : (pool.release handle).2.plan = pool.plan := by
  rw [Pool.release]
  cases pool.engine? handle <;> rfl

@[simp] theorem release_size (pool : Pool) (handle : Handle) :
    (pool.release handle).2.slots.length = pool.slots.length := by
  rw [Pool.release]
  cases pool.engine? handle <;> simp

@[simp] theorem release_live_at (pool : Pool) (handle : Handle) (slot : Nat) :
    (pool.release handle).2.liveAt slot = (pool.liveAt slot && slot != handle.slot) := by
  cases live : pool.isLive handle with
  | false =>
      rw [release_dead pool handle live]
      rw [is_live_at] at live
      by_cases same : slot = handle.slot
      · simp [same, live]
      · simp [same]
  | true =>
      obtain ⟨engine, _, released⟩ := release_live pool handle live
      rw [is_live_at] at live
      rw [released, Pool.liveAt, live_at_set pool handle.slot slot engine false (live_at_bound pool handle.slot live)]
      by_cases same : slot = handle.slot <;> simp [same]

theorem release_fades (pool : Pool) (handle : Handle) (slot : Nat)
    (live : (pool.release handle).2.liveAt slot = true) : pool.liveAt slot = true := by
  simp only [release_live_at, Bool.and_eq_true] at live
  exact live.1

theorem release_each_frame (pool : Pool) (handles : List Handle) :
    (pool.releaseEach handles).2.registered = pool.registered ∧
      (pool.releaseEach handles).2.created = pool.created ∧
      (pool.releaseEach handles).2.slots.length = pool.slots.length := by
  induction handles generalizing pool with
  | nil => exact ⟨rfl, rfl, rfl⟩
  | cons handle rest ih => simpa [Pool.releaseEach] using ih (pool.release handle).2

theorem release_each_live_at (pool : Pool) (handles : List Handle) (slot : Nat) :
    (pool.releaseEach handles).2.liveAt slot = true ↔
      pool.liveAt slot = true ∧ ∀ handle ∈ handles, slot ≠ handle.slot := by
  induction handles generalizing pool with
  | nil => simp [Pool.releaseEach]
  | cons handle rest ih => simp [Pool.releaseEach, ih, and_assoc]

theorem release_each_count (pool : Pool) (handles : List Handle)
    (distinct : handles.Pairwise fun left right => left.slot ≠ right.slot) :
    (pool.releaseEach handles).1 = (handles.filter pool.isLive).length := by
  induction handles generalizing pool with
  | nil => rfl
  | cons handle rest ih =>
      obtain ⟨apart, distinctRest⟩ := List.pairwise_cons.mp distinct
      have same : rest.filter (pool.release handle).2.isLive = rest.filter pool.isLive := by
        apply List.filter_congr
        intro other member
        simp [is_live_at, Ne.symm (apart other member)]
      have counted := ih (pool.release handle).2 distinctRest
      rw [same] at counted
      cases live : pool.isLive handle <;> simp [Pool.releaseEach, counted, live]

theorem entry_surface (pool : Pool) (surface : SurfaceId) (handle : Handle)
    (found : pool.entry surface = some handle) : handle.surface = surface ∧ handle ∈ pool.registered :=
  ⟨by simpa using List.find?_some found, List.mem_of_find?_eq_some found⟩

theorem release_surface_missing (pool : Pool) (surface : SurfaceId) (missing : pool.entry surface = none) :
    pool.releaseSurface surface = (false, pool) := by
  simp only [Pool.releaseSurface, missing]

theorem release_surface_found (pool : Pool) (surface : SurfaceId) (handle : Handle)
    (found : pool.entry surface = some handle) :
    pool.releaseSurface surface =
      { pool with registered := pool.registered.filter fun other => other.surface ≠ surface }.release handle := by
  simp only [Pool.releaseSurface, found]

@[simp] theorem release_surface_flag (pool : Pool) (surface : SurfaceId) :
    (pool.releaseSurface surface).1 = pool.isSurfaceLive surface := by
  rw [Pool.isSurfaceLive]
  cases found : pool.entry surface with
  | none => rw [release_surface_missing pool surface found]; rfl
  | some handle => rw [release_surface_found pool surface handle found, release_flag]; rfl

@[simp] theorem release_surface_registered (pool : Pool) (surface : SurfaceId) :
    (pool.releaseSurface surface).2.registered = pool.registered.filter fun other => other.surface ≠ surface := by
  cases found : pool.entry surface with
  | none =>
      rw [release_surface_missing pool surface found]
      symm
      apply List.filter_eq_self.mpr
      intro other member
      simpa using List.find?_eq_none.mp found other member
  | some handle => simp [release_surface_found pool surface handle found]

@[simp] theorem release_surface_created (pool : Pool) (surface : SurfaceId) :
    (pool.releaseSurface surface).2.created = pool.created := by
  rw [Pool.releaseSurface]
  cases pool.entry surface <;> simp

@[simp] theorem release_surface_plan (pool : Pool) (surface : SurfaceId) :
    (pool.releaseSurface surface).2.plan = pool.plan := by
  rw [Pool.releaseSurface]
  cases pool.entry surface <;> simp

@[simp] theorem release_surface_size (pool : Pool) (surface : SurfaceId) :
    (pool.releaseSurface surface).2.slots.length = pool.slots.length := by
  rw [Pool.releaseSurface]
  cases pool.entry surface <;> simp

@[simp] theorem release_surface_entry (pool : Pool) (surface : SurfaceId) :
    (pool.releaseSurface surface).2.entry surface = none := by
  rw [Pool.entry, release_surface_registered, List.find?_eq_none]
  intro other member
  simpa using (List.mem_filter.mp member).2

theorem release_surface_live_at (pool : Pool) (surface : SurfaceId) (slot : Nat) :
    (pool.releaseSurface surface).2.liveAt slot = true ↔
      pool.liveAt slot = true ∧ ∀ handle, pool.entry surface = some handle → slot ≠ handle.slot := by
  cases found : pool.entry surface with
  | none => simp [release_surface_missing pool surface found]
  | some handle =>
      simp only [release_surface_found pool surface handle found, release_live_at]
      simp [Pool.liveAt]

@[simp] theorem release_all_registered (pool : Pool) : pool.releaseAll.2.registered = [] :=
  (release_each_frame { pool with registered := [] } pool.registered).1

@[simp] theorem release_all_size (pool : Pool) : pool.releaseAll.2.slots.length = pool.slots.length :=
  (release_each_frame { pool with registered := [] } pool.registered).2.2

theorem release_all_live_at (pool : Pool) (slot : Nat) :
    pool.releaseAll.2.liveAt slot = true ↔
      pool.liveAt slot = true ∧ ∀ handle ∈ pool.registered, slot ≠ handle.slot :=
  release_each_live_at { pool with registered := [] } pool.registered slot

theorem release_each_quiet (pool : Pool) (handles : List Handle) (quiet : pool.Quiet) :
    (pool.releaseEach handles).2 = pool := by
  induction handles with
  | nil => rfl
  | cons handle rest ih =>
      change ((pool.release handle).2.releaseEach rest).2 = pool
      rw [release_dead pool handle (quiet_dead pool quiet handle)]
      exact ih

theorem release_all_quiet (pool : Pool) (quiet : pool.Quiet) : pool.releaseAll.2 = { pool with registered := [] } :=
  release_each_quiet { pool with registered := [] } pool.registered quiet

theorem release_surface_next_quiet (pool : Pool) (surface : SurfaceId) (quiet : pool.Quiet) :
    (pool.releaseSurface surface).2 =
      { pool with registered := pool.registered.filter fun other => other.surface ≠ surface } := by
  have registered := release_surface_registered pool surface
  cases found : pool.entry surface with
  | none =>
      rw [release_surface_missing pool surface found] at registered ⊢
      rw [← registered]
  | some handle =>
      rw [release_surface_found pool surface handle found, release_dead]
      exact quiet_dead _ (fun slot => quiet slot) handle

def Provision.starting : Option EngineFault → Provision
  | none => .working
  | some fault => .failingAnimation fault

def Pool.brought (pool : Pool) (surface : Surface) (fault : Option EngineFault) : Pool :=
  { pool with
    plan := pool.plan.tail
    created := pool.created + 1
    journal := pool.journal.push .start }.register surface.id
      { Engine.create surface.viewport with animationFault := fault }

section Brought

variable (pool : Pool) (surface : Surface) (fault : Option EngineFault)

@[simp] theorem new_handle_surface (id : SurfaceId) : (pool.newHandle id).surface = id := rfl

@[simp] theorem new_handle_slot (id : SurfaceId) : (pool.newHandle id).slot = pool.slots.length := rfl

@[simp] theorem brought_plan : (pool.brought surface fault).plan = pool.plan.tail := rfl

@[simp] theorem brought_created : (pool.brought surface fault).created = pool.created + 1 := rfl

@[simp] theorem brought_slots :
    (pool.brought surface fault).slots =
      pool.slots ++ [⟨{ Engine.create surface.viewport with animationFault := fault }, true⟩] := rfl

@[simp] theorem brought_journal : (pool.brought surface fault).journal = pool.journal.push .start := rfl

@[simp] theorem brought_registered :
    (pool.brought surface fault).registered = pool.registered ++ [pool.newHandle surface.id] := rfl

end Brought

/-- All that can come of an acquisition, from the pool in which the surface has been cleared. -/
inductive Acquisition (pool : Pool) (surface : Surface) : Except InitError Handle × Pool → Prop where
  | unsupported (lacking : surface.supports Pool.requiredCapability = false) :
      Acquisition pool surface (.error (.unsupported surface.id.name Pool.requiredCapability.label), pool)
  | rejected (fault : EngineFault) (supported : surface.supports Pool.requiredCapability = true)
      (next : pool.nextProvision = .rejected fault) :
      Acquisition pool surface
        (.error (.rejected surface.id.name fault.message), { pool with plan := pool.plan.tail })
  | stillborn (fault : EngineFault) (supported : surface.supports Pool.requiredCapability = true)
      (next : pool.nextProvision = .failingStart fault) :
      Acquisition pool surface
        (.error (.rejected surface.id.name fault.message),
          { pool with
            plan := pool.plan.tail
            created := pool.created + 1
            journal := (pool.journal.push .start).push .release })
  | started (fault : Option EngineFault) (supported : surface.supports Pool.requiredCapability = true)
      (next : pool.nextProvision = Provision.starting fault) :
      Acquisition pool surface (.ok (pool.newHandle surface.id), pool.brought surface fault)

section BringingUp

variable (pool : Pool) (surface : Surface)

theorem bring_up_lacking (lacking : surface.supports Pool.requiredCapability = false) :
    pool.bringUp surface = (.error (.unsupported surface.id.name Pool.requiredCapability.label), pool) := by
  simp [Pool.bringUp, lacking]

theorem bring_up_rejected (fault : EngineFault) (supported : surface.supports Pool.requiredCapability = true)
    (next : pool.nextProvision = .rejected fault) :
    pool.bringUp surface =
      (.error (.rejected surface.id.name fault.message), { pool with plan := pool.plan.tail }) := by
  simp [Pool.bringUp, Pool.provide, supported, next]

theorem bring_up_stillborn (fault : EngineFault) (supported : surface.supports Pool.requiredCapability = true)
    (next : pool.nextProvision = .failingStart fault) :
    pool.bringUp surface =
      (.error (.rejected surface.id.name fault.message),
        { pool with
          plan := pool.plan.tail
          created := pool.created + 1
          journal := (pool.journal.push .start).push .release }) := by
  simp [Pool.bringUp, Pool.provide, supported, next, Rig.start, Rig.outcome, Rig.release, Rig.record]

theorem bring_up_started (fault : Option EngineFault) (supported : surface.supports Pool.requiredCapability = true)
    (next : pool.nextProvision = Provision.starting fault) :
    pool.bringUp surface = (.ok (pool.newHandle surface.id), pool.brought surface fault) := by
  cases fault <;>
    simp [Pool.bringUp, Pool.provide, supported, next, Provision.starting, Rig.start, Rig.outcome, Rig.record,
      Engine.create, Pool.brought, Pool.newHandle]

theorem bring_up_cases : Acquisition pool surface (pool.bringUp surface) := by
  cases supported : surface.supports Pool.requiredCapability with
  | false =>
      rw [bring_up_lacking pool surface supported]
      exact .unsupported supported
  | true =>
      cases next : pool.nextProvision with
      | rejected fault =>
          rw [bring_up_rejected pool surface fault supported next]
          exact .rejected fault supported next
      | failingStart fault =>
          rw [bring_up_stillborn pool surface fault supported next]
          exact .stillborn fault supported next
      | working =>
          rw [bring_up_started pool surface none supported next]
          exact .started none supported next
      | failingAnimation fault =>
          rw [bring_up_started pool surface (some fault) supported next]
          exact .started (some fault) supported next

theorem acquire_cases : Acquisition (pool.releaseSurface surface.id).2 surface (pool.acquire surface) :=
  bring_up_cases (pool.releaseSurface surface.id).2 surface

end BringingUp

@[simp] theorem brought_live_at (pool : Pool) (surface : Surface) (fault : Option EngineFault) (slot : Nat) :
    (pool.brought surface fault).liveAt slot = true ↔ pool.liveAt slot = true ∨ slot = pool.slots.length := by
  unfold Pool.liveAt
  rw [brought_slots]
  by_cases inside : slot < pool.slots.length
  · have apart : slot ≠ pool.slots.length := by omega
    simp [List.getElem?_append_left inside, apart]
  · have outside : pool.slots.length ≤ slot := by omega
    rw [List.getElem?_append_right outside, List.getElem?_eq_none outside]
    by_cases same : slot = pool.slots.length
    · simp [same]
    · have positive : slot - pool.slots.length ≠ 0 := by omega
      simp [same, positive]

theorem brought_entry (pool : Pool) (surface : Surface) (fault : Option EngineFault)
    (cleared : pool.entry surface.id = none) :
    (pool.brought surface fault).entry surface.id = some (pool.newHandle surface.id) := by
  rw [Pool.entry] at cleared ⊢
  simp [List.find?_append, cleared]

/-- A step that brings nothing up: the registered handles stay, and slots can only go dead. -/
structure Pool.Fades (next pool : Pool) : Prop where
  registered : next.registered = pool.registered
  created : next.created = pool.created
  size : next.slots.length = pool.slots.length
  dying : ∀ slot, next.liveAt slot = true → pool.liveAt slot = true

theorem fades_refl (pool : Pool) : pool.Fades pool := ⟨rfl, rfl, rfl, fun _ live => live⟩

theorem fades_trans (last next pool : Pool) (later : last.Fades next) (first : next.Fades pool) : last.Fades pool :=
  ⟨later.registered.trans first.registered, later.created.trans first.created, later.size.trans first.size,
    fun slot live => first.dying slot (later.dying slot live)⟩

theorem fades_quiet (next pool : Pool) (fades : next.Fades pool) (quiet : pool.Quiet) : next.Quiet := by
  rw [quiet_iff] at quiet ⊢
  intro ⟨slot, live⟩
  exact quiet ⟨slot, fades.dying slot live⟩

theorem fades_release (pool : Pool) (handle : Handle) : (pool.release handle).2.Fades pool := by
  exact ⟨by simp, by simp, by simp, release_fades pool handle⟩

theorem fades_with_engine {α : Type} (pool next : Pool) (handle : Handle) (action : Rig → α × Rig) (answer : α)
    (done : pool.withEngine handle action = some (answer, next)) : next.Fades pool := by
  obtain ⟨registered, created, size⟩ := with_engine_frame pool next handle action answer done
  refine ⟨registered, created, size, ?_⟩
  intro slot live
  rwa [with_engine_live_at pool next handle action answer done] at live

theorem sync_found (kept : Pool → Prop) (pool : Pool) (handle : Handle) (graph : Graph) (before : kept pool)
    (loaded : ∀ answer next, pool.withEngine handle (fun rig => rig.load graph) = some (answer, next) → kept next) :
    kept (pool.sync handle graph).2 := by
  rw [Pool.sync]
  cases graph.validateIndices with
  | error defect => exact before
  | ok _ =>
      cases done : pool.withEngine handle fun rig => rig.load graph with
      | none => exact before
      | some result =>
          obtain ⟨answer, next⟩ := result
          have after := loaded answer next done
          cases answer <;> exact after

theorem resize_found (kept : Pool → Prop) (recorded : Viewport) (pool : Pool) (handle : Handle) (viewport : Viewport)
    (before : kept pool)
    (sized : ∀ answer next,
      pool.withEngine handle (fun rig => ((), rig.setViewport viewport)) = some (answer, next) → kept next) :
    kept (recorded.resize pool handle viewport).2.2 := by
  rw [Viewport.resize]
  cases viewport.isValid with
  | false => exact before
  | true =>
      cases done : pool.withEngine handle fun rig => ((), rig.setViewport viewport) with
      | none => simpa [done] using before
      | some result => simpa [done] using sized result.1 result.2 done

theorem fades_sync (pool : Pool) (handle : Handle) (graph : Graph) : (pool.sync handle graph).2.Fades pool :=
  sync_found (·.Fades pool) pool handle graph (fades_refl pool) fun answer next done =>
    fades_with_engine pool next handle _ answer done

theorem fades_resize (recorded : Viewport) (pool : Pool) (handle : Handle) (viewport : Viewport) :
    (recorded.resize pool handle viewport).2.2.Fades pool :=
  resize_found (·.Fades pool) recorded pool handle viewport (fades_refl pool) fun answer next done =>
    fades_with_engine pool next handle _ answer done

@[simp] theorem stop_stop (frames : FrameLoop) : frames.stop.stop = frames.stop := by
  by_cases stopped : frames.state = .stopped <;> simp [FrameLoop.stop, stopped]

@[simp] theorem stop_state (frames : FrameLoop) : frames.stop.state = .stopped := by
  by_cases stopped : frames.state = .stopped <;> simp [FrameLoop.stop, stopped]

@[simp] theorem stop_rendered (frames : FrameLoop) : frames.stop.ticksRendered = frames.ticksRendered := by
  by_cases stopped : frames.state = .stopped <;> simp [FrameLoop.stop, stopped]

@[simp] theorem stop_faults (frames : FrameLoop) : frames.stop.tickFaults = frames.tickFaults := by
  by_cases stopped : frames.state = .stopped <;> simp [FrameLoop.stop, stopped]

@[simp] theorem stop_smoothing (frames : FrameLoop) : frames.stop.smoothingFactor = frames.smoothingFactor := by
  by_cases stopped : frames.state = .stopped <;> simp [FrameLoop.stop, stopped]

inductive FrameLoop.Ticked (frames : FrameLoop) (pool : Pool) (target : Camera) :
    TickOutcome × FrameLoop × Pool → Prop where
  | skipped (halted : frames.state ≠ .running) : Ticked frames pool target (.skipped, frames, pool)
  | terminated (running : frames.state = .running)
      (lost : ∀ handle, frames.handle = some handle → pool.isLive handle = false) :
      Ticked frames pool target (.terminated, frames.stop, pool)
  | settled (running : frames.state = .running) (handle : Handle) (holding : frames.handle = some handle)
      (answer : Except EngineFault Unit) (next : Pool)
      (done : pool.withEngine handle (fun rig => rig.step target frames.smoothingFactor) = some (answer, next)) :
      Ticked frames pool target ((frames.settle answer).1, (frames.settle answer).2, next)

theorem tick_cases (frames : FrameLoop) (pool : Pool) (target : Camera) :
    frames.Ticked pool target (frames.tick pool target) := by
  rw [FrameLoop.tick]
  by_cases running : frames.state = .running
  · rw [if_neg (not_not_intro running)]
    cases holding : frames.handle with
    | none => exact .terminated running (by simp [holding])
    | some handle =>
        dsimp only
        split
        -- The work on an engine is left undone exactly if the engine is not live.
        · rename_i missed
          refine .terminated running ?_
          intro other same
          cases holding.symm.trans same
          apply Bool.eq_false_iff.mpr
          intro live
          obtain ⟨answer, next, done⟩ := with_engine_live pool handle
            (fun rig => rig.step target frames.smoothingFactor) live
          rw [done] at missed
          cases missed
        · rename_i answer next done
          exact .settled running handle holding answer next done
  · rw [if_pos running]
    exact .skipped running

theorem fades_tick (frames : FrameLoop) (pool : Pool) (target : Camera) : (frames.tick pool target).2.2.Fades pool := by
  have outcome := tick_cases frames pool target
  generalize frames.tick pool target = result at outcome ⊢
  cases outcome with
  | skipped halted => exact fades_refl pool
  | terminated running lost => exact fades_refl pool
  | settled running handle holding answer next done => exact fades_with_engine pool next handle _ answer done

theorem loop_run_keeps {σ : Type} [FrameSource σ] (kept : FrameLoop → Pool → Prop) (targets : Nat → Camera)
    (tick : ∀ frames pool target, kept frames pool → kept (frames.tick pool target).2.1 (frames.tick pool target).2.2)
    (fuel : Nat) (run : FrameLoop.Run σ) (before : kept run.frames run.pool) :
    kept (FrameLoop.Run.advance targets fuel run).frames (FrameLoop.Run.advance targets fuel run).pool := by
  induction fuel generalizing run with
  | zero => exact before
  | succ fuel ih =>
      rw [FrameLoop.Run.advance]
      split
      · exact before
      · cases FrameSource.next? run.source with
        | none => exact before
        | some source => exact ih _ (tick run.frames run.pool (targets run.asked) before)

theorem fades_advance {σ : Type} [FrameSource σ] (targets : Nat → Camera) (fuel : Nat) (run : FrameLoop.Run σ) :
    (FrameLoop.Run.advance targets fuel run).pool.Fades run.pool :=
  loop_run_keeps (fun _ pool => pool.Fades run.pool) targets
    (fun frames pool target before => fades_trans _ _ _ (fades_tick frames pool target) before) fuel run
    (fades_refl run.pool)

end Plotter
