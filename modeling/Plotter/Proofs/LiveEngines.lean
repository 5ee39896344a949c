import Plotter.Proofs.Coherence

set_option autoImplicit false

namespace Plotter

def Pool.Every (pool : Pool) (good : Engine → Prop) : Prop := ∀ slot ∈ pool.slots, slot.live = true → good slot.engine

theorem every_quiet (pool : Pool) (good : Engine → Prop) (quiet : pool.Quiet) : pool.Every good := by
  intro slot member live
  rw [(quiet_slots pool).mp quiet slot member] at live
  cases live

theorem every_engine (pool : Pool) (good : Engine → Prop) (handle : Handle) (engine : Engine)
    (found : pool.engine? handle = some engine) (every : pool.Every good) : good engine := by
  obtain ⟨other, same, stored⟩ := engine_of_live pool handle (by simp [Pool.isLive, found])
  cases found.symm.trans same
  exact every _ (List.mem_of_getElem? stored) rfl

theorem every_set (pool : Pool) (good : Engine → Prop) (index : Nat) (slot : Slot) (every : pool.Every good)
    (fits : slot.live = true → good slot.engine) :
    ∀ other ∈ pool.slots.set index slot, other.live = true → good other.engine := by
  intro other member live
  rcases List.mem_or_eq_of_mem_set member with before | same
  · exact every other before live
  · subst other
    exact fits live

theorem every_release (pool : Pool) (good : Engine → Prop) (handle : Handle) (every : pool.Every good) :
    (pool.release handle).2.Every good := by
  cases live : pool.isLive handle with
  | false =>
      rw [release_dead pool handle live]
      exact every
  | true =>
      obtain ⟨engine, _, released⟩ := release_live pool handle live
      rw [released]
      exact every_set pool good handle.slot ⟨engine, false⟩ every (by simp)

theorem every_with_engine {α : Type} (pool next : Pool) (good : Engine → Prop) (handle : Handle)
    (action : Rig → α × Rig) (answer : α) (done : pool.withEngine handle action = some (answer, next))
    (keeps : ∀ rig, good rig.engine → good (action rig).2.engine) (every : pool.Every good) : next.Every good := by
  obtain ⟨engine, rig, found, result, rfl⟩ := with_engine_some pool next handle action answer done
  have before := every_engine pool good handle engine found every
  have after := keeps ⟨engine, pool.journal⟩ before
  rw [result] at after
  exact every_set pool good handle.slot ⟨rig.engine, true⟩ every fun _ => after

theorem every_release_surface (pool : Pool) (good : Engine → Prop) (surface : SurfaceId) (every : pool.Every good) :
    (pool.releaseSurface surface).2.Every good := by
  cases found : pool.entry surface with
  | none =>
      rw [release_surface_missing pool surface found]
      exact every
  | some handle =>
      rw [release_surface_found pool surface handle found]
      exact every_release _ good handle every

theorem every_acquisition (pool next : Pool) (good : Engine → Prop) (surface : Surface)
    (answer : Except InitError Handle) (outcome : Acquisition pool surface (answer, next))
    (fresh : ∀ fault, good { Engine.create surface.viewport with animationFault := fault })
    (every : pool.Every good) : next.Every good := by
  cases outcome with
  | unsupported lacking => exact every
  | rejected fault supported provision => exact every
  | stillborn fault supported provision => exact every
  | started fault supported provision =>
      intro slot member live
      rcases List.mem_append.mp member with before | new
      · exact every slot before live
      · rw [List.mem_singleton.mp new]
        exact fresh fault

namespace Session

theorem every_let_go (session : Session) (good : Engine → Prop) (every : session.pool.Every good) :
    session.letGo.Every good := by
  cases held : session.lease with
  | none =>
      rw [let_go_none session held]
      exact every
  | some handle =>
      rw [let_go_some session handle held]
      exact every_release session.pool good handle every

theorem every_cleared (session : Session) (good : Engine → Prop) (every : session.pool.Every good) :
    session.clearedPool.Every good :=
  every_release_surface session.letGo good session.surface.id (every_let_go session good every)

theorem every_forget (session : Session) (good : Engine → Prop) (every : session.pool.Every good) :
    session.forgetReleasedEngine.pool.Every good := by
  rw [forget_next]
  exact every_let_go session good every

theorem every_teardown (session : Session) (good : Engine → Prop) (every : session.pool.Every good) :
    session.teardown.pool.Every good := by
  rw [teardown_next]
  exact every_cleared session good every

theorem every_acquire (session : Session) (good : Engine → Prop)
    (fresh : ∀ fault, good { Engine.create session.surface.viewport with animationFault := fault })
    (every : session.pool.Every good) : session.acquire.2.pool.Every good := by
  have cleared := every_cleared session good every
  have outcome := acquire_cases session
  generalize session.acquire = result at outcome ⊢
  cases outcome with
  | refused error pool outcome => exact every_acquisition _ pool good session.surface _ outcome fresh cleared
  | opened handle pool outcome => exact every_acquisition _ pool good session.surface _ outcome fresh cleared

theorem every_tick (session : Session) (good : Engine → Prop)
    (keeps : ∀ rig : Rig, good rig.engine →
      good (rig.step session.controller.target session.frames.smoothingFactor).2.engine)
    (every : session.pool.Every good) : session.tick.2.pool.Every good := by
  have outcome := tick_cases session
  generalize session.tick = result at outcome ⊢
  cases outcome with
  | skipped halted => exact every
  | terminated running lost => exact every_forget session good every
  | rendered running handle holding next done => exact every_with_engine _ next good handle _ _ done keeps every
  | faulted running handle holding fault next done => exact every_with_engine _ next good handle _ _ done keeps every

theorem every_reload (session : Session) (good : Engine → Prop) (graph : Graph)
    (keeps : ∀ rig : Rig, good rig.engine → good (rig.load graph).2.engine) (every : session.pool.Every good) :
    (session.reload graph).2.pool.Every good := by
  have outcome := reload_cases session graph
  generalize session.reload graph = result at outcome ⊢
  cases outcome with
  | absent unheld => exact every
  | misplaced handle held defect flawed => exact every
  | lost handle held dense dead => exact every_forget session good every
  | loaded handle held dense next done => exact every_with_engine _ next good handle _ _ done keeps every
  | refused handle held dense fault next done => exact every_with_engine _ next good handle _ _ done keeps every

theorem every_leased (session : Session) (good : Engine → Prop) (coherent : session.Coherent)
    (leased : ∀ handle engine, session.lease = some handle → session.pool.engine? handle = some engine → good engine) :
    session.pool.Every good := by
  intro slot member live
  obtain ⟨index, found⟩ := List.mem_iff_getElem?.mp member
  obtain ⟨handle, held, same⟩ := coherent.sole index (by simp [Pool.liveAt, found, live])
  apply leased handle slot.engine held
  simp [Pool.engine?, same, found, live]

end Session

end Plotter
