import Plotter.Proofs.Accounting
import Plotter.Proofs.Echoes

set_option autoImplicit false

namespace Plotter

theorem release_journal (pool : Pool) (handle : Handle) :
    (pool.release handle).2.journal.toList = pool.journal.toList ++ if pool.isLive handle then [.release] else [] := by
  cases live : pool.isLive handle with
  | false => simp [release_dead pool handle live]
  | true =>
      obtain ⟨engine, _, released⟩ := release_live pool handle live
      simp [released]

theorem release_surface_journal (pool : Pool) (surface : SurfaceId) :
    (pool.releaseSurface surface).2.journal.toList =
      pool.journal.toList ++ if pool.isSurfaceLive surface then [.release] else [] := by
  rw [Pool.isSurfaceLive]
  cases found : pool.entry surface with
  | none => simp [release_surface_missing pool surface found]
  | some handle =>
      rw [release_surface_found pool surface handle found, release_journal]
      rfl

section Owned

variable (pool : Pool) (log : List Handle) (surface : SurfaceId)

theorem owned_surface_any (owned : Owned pool log) :
    pool.isSurfaceLive surface = log.any fun handle => handle.surface = surface && pool.isLive handle := by
  rw [Bool.eq_iff_iff, owned_surface_live pool log owned surface, List.any_eq_true]
  simp

theorem cleared_live (owned : Owned pool log) (handle : Handle) (member : handle ∈ log) :
    (pool.releaseSurface surface).2.isLive handle = (pool.isLive handle && handle.surface != surface) := by
  rw [Bool.eq_iff_iff, is_live_at, is_live_at, release_surface_live_at, Bool.and_eq_true, bne_iff_ne]
  refine and_congr_right fun live => ?_
  constructor
  · rintro spared rfl
    exact spared handle (owned_entry pool log owned handle (owned.owned handle member live)) rfl
  · intro different entry found same
    obtain ⟨bound, inside⟩ := entry_surface pool surface entry found
    rw [owned_same_slot pool log owned handle entry member (owned.known entry inside) same] at different
    exact different bound

end Owned

inductive Pool.Supplied (pool : Pool) (viewport : Viewport) : Except EngineFault Engine → Prop where
  | rejected (fault : EngineFault) (next : pool.nextProvision = .rejected fault) : Supplied pool viewport (.error fault)
  | stillborn (fault : EngineFault) (next : pool.nextProvision = .failingStart fault) :
      Supplied pool viewport (.ok { Engine.create viewport with startFault := some fault })
  | starting (fault : Option EngineFault) (next : pool.nextProvision = Provision.starting fault) :
      Supplied pool viewport (.ok { Engine.create viewport with animationFault := fault })

theorem provide_cases (pool : Pool) (viewport : Viewport) : pool.Supplied viewport (pool.provide viewport).1 := by
  rw [Pool.provide]
  cases next : pool.nextProvision with
  | rejected fault => exact .rejected fault next
  | failingStart fault => exact .stillborn fault next
  | working => exact .starting none next
  | failingAnimation fault => exact .starting (some fault) next

section Outcomes

variable (pool : Pool) (surface : Surface)

@[simp] theorem cleared_provision : (pool.releaseSurface surface.id).2.nextProvision = pool.nextProvision := by
  simp [Pool.nextProvision]

theorem acquire_lacking (lacking : surface.supports Pool.requiredCapability = false) :
    pool.acquire surface =
      (.error (.unsupported surface.id.name Pool.requiredCapability.label), (pool.releaseSurface surface.id).2) :=
  bring_up_lacking _ surface lacking

theorem acquire_rejected (fault : EngineFault) (supported : surface.supports Pool.requiredCapability = true)
    (factory : (pool.provide surface.viewport).1 = .error fault) :
    pool.acquire surface =
      (.error (.rejected surface.id.name fault.message),
        { (pool.releaseSurface surface.id).2 with plan := pool.plan.tail }) := by
  have supply := provide_cases pool surface.viewport
  rw [factory] at supply
  cases supply with
  | rejected _ next =>
      rw [← cleared_provision pool surface] at next
      simp [Pool.acquire, bring_up_rejected _ surface fault supported next]

theorem acquire_stillborn (engine : Engine) (fault : EngineFault)
    (supported : surface.supports Pool.requiredCapability = true)
    (factory : (pool.provide surface.viewport).1 = .ok engine)
    (failed : (Rig.start ⟨engine, pool.journal⟩).1 = .error fault) :
    pool.acquire surface =
      (.error (.rejected surface.id.name fault.message),
        { (pool.releaseSurface surface.id).2 with
          plan := pool.plan.tail
          created := pool.created + 1
          journal := ((pool.releaseSurface surface.id).2.journal.push .start).push .release }) := by
  have supply := provide_cases pool surface.viewport
  rw [factory] at supply
  cases supply with
  | starting _ next => cases failed
  | stillborn other next =>
      obtain rfl : other = fault := Except.error.inj failed
      rw [← cleared_provision pool surface] at next
      simp [Pool.acquire, bring_up_stillborn _ surface other supported next]

theorem acquire_started (engine : Engine) (supported : surface.supports Pool.requiredCapability = true)
    (factory : (pool.provide surface.viewport).1 = .ok engine)
    (started : (Rig.start ⟨engine, pool.journal⟩).1 = .ok ()) :
    pool.acquire surface =
      (.ok ((pool.releaseSurface surface.id).2.newHandle surface.id),
        (pool.releaseSurface surface.id).2.brought surface engine.animationFault) ∧
      engine = { Engine.create surface.viewport with animationFault := engine.animationFault } := by
  have supply := provide_cases pool surface.viewport
  rw [factory] at supply
  cases supply with
  | stillborn _ next => cases started
  | starting fault next =>
      rw [← cleared_provision pool surface] at next
      exact ⟨bring_up_started _ surface fault supported next, rfl⟩

theorem acquire_live (log : List Handle) (owned : Owned pool log) (handle : Handle) (member : handle ∈ log) :
    (pool.acquire surface).2.isLive handle = (pool.isLive handle && handle.surface != surface.id) := by
  have outcome := acquire_cases pool surface
  rw [← cleared_live pool log surface.id owned handle member]
  generalize pool.acquire surface = result at outcome ⊢
  cases outcome with
  | unsupported lacking => rfl
  | rejected fault supported next => rfl
  | stillborn fault supported next => rfl
  | started fault supported next =>
      have old : handle.slot < (pool.releaseSurface surface.id).2.slots.length := by
        simpa using owned_log_bound pool log owned handle member
      rw [Bool.eq_iff_iff, is_live_at, is_live_at, brought_live_at]
      exact or_iff_left (Nat.ne_of_lt old)

theorem acquire_refused (error : InitError) (refused : (pool.acquire surface).1 = .error error) :
    (pool.acquire surface).2.entry surface.id = none := by
  have missing := release_surface_entry pool surface.id
  have outcome := acquire_cases pool surface
  generalize pool.acquire surface = result at outcome refused ⊢
  cases outcome with
  | unsupported lacking => exact missing
  | rejected fault supported next => exact missing
  | stillborn fault supported next => exact missing
  | started fault supported next => cases refused

theorem brought_engine (fault : Option EngineFault) :
    (pool.brought surface fault).engine? (pool.newHandle surface.id) =
      some { Engine.create surface.viewport with animationFault := fault } := by
  simp [Pool.engine?]

theorem brought_owner (fault : Option EngineFault) (cleared : pool.entry surface.id = none) (id : SurfaceId) :
    (pool.brought surface fault).entry id = some (pool.newHandle surface.id) ↔ id = surface.id := by
  constructor
  · intro owner
    exact (entry_surface _ id _ owner).1.symm
  · rintro rfl
    exact brought_entry pool surface fault cleared

theorem new_handle_unknown (log : List Handle) (owned : Owned pool log) : pool.newHandle surface.id ∉ log := by
  intro member
  exact Nat.lt_irrefl _ (owned_log_bound pool log owned _ member)

end Outcomes

theorem acquisition_outcomes (plan : List Provision) (actions : List Bench.Action) (surface : Surface) :
    let pool := (History.final Bench.perform (.create plan) actions).pool
    let acquired := (Bench.create plan).acquired actions
    let supported := surface.supports Pool.requiredCapability
    let factory := (pool.provide surface.viewport).1
    let result := (pool.acquire surface).1
    let next := (pool.acquire surface).2
    let occupied := acquired.any fun handle => handle.surface = surface.id && pool.isLive handle
    let cleared := pool.journal.toList ++ if occupied then [Call.release] else []
    (supported = false →
      result = .error (.unsupported surface.id.name "WebGL") ∧
      next.journal.toList = cleared ∧ next.created = pool.created ∧ next.plan = pool.plan) ∧
    (supported = true → ∀ fault, factory = .error fault →
      result = .error (.rejected surface.id.name fault.message) ∧
      next.journal.toList = cleared ∧ next.created = pool.created) ∧
    (supported = true → ∀ engine fault, factory = .ok engine → (Rig.start ⟨engine, pool.journal⟩).1 = .error fault →
      result = .error (.rejected surface.id.name fault.message) ∧
      next.journal.toList = cleared ++ [.start, .release] ∧ next.created = pool.created + 1) ∧
    (supported = true → ∀ engine, factory = .ok engine → (Rig.start ⟨engine, pool.journal⟩).1 = .ok () →
      ∃ lease, result = .ok lease ∧
      next.journal.toList = cleared ++ [.start] ∧ next.created = pool.created + 1 ∧
      next.isLive lease = true ∧ lease.surface = surface.id ∧ (∀ id, next.entry id = some lease ↔ id = surface.id) ∧
      lease ∉ acquired ∧ next.engine? lease = some engine) ∧
    (∀ error, result = .error error → next.isSurfaceLive surface.id = false ∧ next.entry surface.id = none) ∧
    (∀ handle ∈ acquired, handle.surface = surface.id → next.isLive handle = false) ∧
    (∀ handle ∈ acquired, handle.surface ≠ surface.id → next.isLive handle = pool.isLive handle) := by
  intro pool acquired supported factory result next occupied cleared
  have owned : Owned pool acquired := (Bench.reached_sound plan actions).owned
  have journal : (pool.releaseSurface surface.id).2.journal.toList = cleared := by
    rw [release_surface_journal, owned_surface_any pool acquired surface.id owned]
  have created := release_surface_created pool surface.id
  have liveness := acquire_live pool surface acquired owned
  -- The surface is cleared whatever happens next, so the four outcomes share one journal up to there.
  refine ⟨?_, ?_, ?_, ?_, ?_, ?_, ?_⟩
  · intro lacking
    have outcome := acquire_lacking pool surface lacking
    simp only [result, next, outcome]
    exact ⟨rfl, journal, created, release_surface_plan pool surface.id⟩
  · intro capable fault rejected
    have outcome := acquire_rejected pool surface fault capable rejected
    simp only [result, next, outcome]
    exact ⟨trivial, journal, created⟩
  · intro capable engine fault supplied failed
    have outcome := acquire_stillborn pool surface engine fault capable supplied failed
    simp only [result, next, outcome]
    refine ⟨trivial, ?_, trivial⟩
    simp [journal]
  · intro capable engine supplied started
    obtain ⟨outcome, made⟩ := acquire_started pool surface engine capable supplied started
    have found := brought_engine (pool.releaseSurface surface.id).2 surface engine.animationFault
    rw [← made] at found
    simp only [result, next, outcome]
    refine ⟨_, rfl, ?_, congrArg (· + 1) created, ?_, rfl, ?_, ?_, found⟩
    · simp [journal]
    · rw [Pool.isLive, found]
      rfl
    · exact brought_owner _ surface _ (release_surface_entry pool surface.id)
    -- A new slot is past every slot a handle was ever given for.
    · exact new_handle_unknown _ surface acquired (owned_release_surface pool acquired surface.id owned)
  · intro error refused
    have missing := acquire_refused pool surface error refused
    refine ⟨?_, missing⟩
    rw [Pool.isSurfaceLive, missing]
    rfl
  · intro handle member same
    rw [liveness handle member, same, bne_self_eq_false, Bool.and_false]
  · intro handle member different
    rw [liveness handle member, bne_iff_ne.mpr different, Bool.and_true]

end Plotter
