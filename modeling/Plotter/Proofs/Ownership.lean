import Mathlib.Data.List.Nodup
import Plotter.Bench
import Plotter.Proofs.History
import Plotter.Proofs.PoolSteps

set_option autoImplicit false

namespace Plotter

/-- The log holds the handle of every engine that ever came up, by slot. Entries of the map may be
stale, but a live engine is never outside of it. -/
structure Owned (pool : Pool) (log : List Handle) : Prop where
  numbered : log.map Handle.slot = List.range pool.slots.length
  known : ∀ handle ∈ pool.registered, handle ∈ log
  keyed : pool.registered.Pairwise fun left right => left.surface ≠ right.surface
  owned : ∀ handle ∈ log, pool.liveAt handle.slot = true → handle ∈ pool.registered

theorem owned_create (plan : List Provision) : Owned (.create plan) [] :=
  ⟨rfl, by simp [Pool.create], by simp [Pool.create], by simp⟩

theorem owned_log_slot (pool : Pool) (log : List Handle) (owned : Owned pool log) (slot : Nat)
    (live : pool.liveAt slot = true) : ∃ handle ∈ log, handle.slot = slot := by
  have member : slot ∈ log.map Handle.slot := by
    rw [owned.numbered]
    exact List.mem_range.mpr (live_at_bound pool slot live)
  exact List.mem_map.mp member

theorem owned_log_bound (pool : Pool) (log : List Handle) (owned : Owned pool log) (handle : Handle)
    (member : handle ∈ log) : handle.slot < pool.slots.length := by
  have inside : handle.slot ∈ log.map Handle.slot := List.mem_map_of_mem member
  rw [owned.numbered] at inside
  exact List.mem_range.mp inside

theorem owned_same_slot (pool : Pool) (log : List Handle) (owned : Owned pool log) (left right : Handle)
    (leftMember : left ∈ log) (rightMember : right ∈ log) (same : left.slot = right.slot) : left = right := by
  have distinct : (log.map Handle.slot).Nodup := by
    rw [owned.numbered]
    exact List.nodup_range
  exact List.inj_on_of_nodup_map distinct leftMember rightMember same

theorem keyed_find (handles : List Handle) (keyed : handles.Pairwise fun left right => left.surface ≠ right.surface)
    (handle : Handle) (member : handle ∈ handles) :
    (handles.find? fun other => other.surface = handle.surface) = some handle := by
  induction handles with
  | nil => simp at member
  | cons first rest ih =>
      obtain ⟨apart, keyedRest⟩ := List.pairwise_cons.mp keyed
      rcases List.mem_cons.mp member with same | later
      · subst handle
        simp
      · rw [List.find?_cons_of_neg (by simpa using apart handle later)]
        exact ih keyedRest later

theorem owned_entry (pool : Pool) (log : List Handle) (owned : Owned pool log) (handle : Handle)
    (member : handle ∈ pool.registered) : pool.entry handle.surface = some handle :=
  keyed_find pool.registered owned.keyed handle member

theorem owned_registered_slots (pool : Pool) (log : List Handle) (owned : Owned pool log) :
    pool.registered.Pairwise fun left right => left.slot ≠ right.slot := by
  -- Registered handles differ in their surfaces, and the log has one handle for each slot.
  apply List.Pairwise.imp_of_mem _ owned.keyed
  intro left right leftMember rightMember apart same
  have equal := owned_same_slot pool log owned left right (owned.known left leftMember) (owned.known right rightMember) same
  exact apart (congrArg Handle.surface equal)

theorem owned_fades (pool next : Pool) (log : List Handle) (owned : Owned pool log) (fades : next.Fades pool) :
    Owned next log := by
  obtain ⟨registered, _, size, dying⟩ := fades
  refine ⟨?_, ?_, ?_, ?_⟩
  · rw [size]
    exact owned.numbered
  · rw [registered]
    exact owned.known
  · rw [registered]
    exact owned.keyed
  · intro handle member live
    rw [registered]
    exact owned.owned handle member (dying handle.slot live)

theorem owned_release_surface (pool : Pool) (log : List Handle) (surface : SurfaceId) (owned : Owned pool log) :
    Owned (pool.releaseSurface surface).2 log := by
  refine ⟨?_, ?_, ?_, ?_⟩
  · simpa using owned.numbered
  · intro handle member
    simp only [release_surface_registered] at member
    exact owned.known handle (List.mem_filter.mp member).1
  · simpa using owned.keyed.filter _
  · intro handle member live
    obtain ⟨before, spared⟩ := (release_surface_live_at pool surface handle.slot).mp live
    have inside := owned.owned handle member before
    -- A live handle of this surface is the registered one, and that has just been released.
    have different : handle.surface ≠ surface := by
      intro same
      subst surface
      exact spared handle (owned_entry pool log owned handle inside) rfl
    simp [inside, different]

theorem owned_release_all (pool : Pool) (log : List Handle) (owned : Owned pool log) : Owned pool.releaseAll.2 log := by
  refine ⟨by simpa using owned.numbered, by simp, by simp, ?_⟩
  · intro handle member live
    obtain ⟨before, spared⟩ := (release_all_live_at pool handle.slot).mp live
    exact absurd rfl (spared handle (owned.owned handle member before))

theorem owned_brought (pool : Pool) (log : List Handle) (surface : Surface) (fault : Option EngineFault)
    (owned : Owned pool log) (cleared : pool.entry surface.id = none) :
    Owned (pool.brought surface fault) (log ++ [pool.newHandle surface.id]) := by
  refine ⟨?_, ?_, ?_, ?_⟩
  · simp [owned.numbered, List.range_succ]
  · intro handle member
    rcases List.mem_append.mp member with before | fresh
    · exact List.mem_append_left _ (owned.known handle before)
    · exact List.mem_append_right _ fresh
  · refine List.pairwise_append.mpr ⟨owned.keyed, List.pairwise_singleton _ _, ?_⟩
    intro left leftMember right rightMember
    rw [List.mem_singleton.mp rightMember]
    change left.surface ≠ surface.id
    simpa using List.find?_eq_none.mp cleared left leftMember
  · intro handle member live
    rcases List.mem_append.mp member with before | fresh
    -- An old handle cannot name the new slot, which lies past all the old ones.
    · have bound := owned_log_bound pool log owned handle before
      rcases (brought_live_at pool surface fault handle.slot).mp live with old | last
      · exact List.mem_append_left _ (owned.owned handle before old)
      · omega
    · exact List.mem_append_right _ fresh

theorem owned_acquire (pool : Pool) (log : List Handle) (surface : Surface) (owned : Owned pool log) :
    Owned (pool.acquire surface).2 (log ++ (pool.acquire surface).1.toOption.toList) := by
  have cleared := owned_release_surface pool log surface.id owned
  have missing := release_surface_entry pool surface.id
  have outcome := acquire_cases pool surface
  generalize pool.acquire surface = result at outcome ⊢
  cases outcome with
  | unsupported lacking =>
      rw [Except.toOption, Option.toList_none, List.append_nil]
      exact cleared
  | rejected fault supported next =>
      rw [Except.toOption, Option.toList_none, List.append_nil]
      exact ⟨cleared.numbered, cleared.known, cleared.keyed, cleared.owned⟩
  | stillborn fault supported next =>
      rw [Except.toOption, Option.toList_none, List.append_nil]
      exact ⟨cleared.numbered, cleared.known, cleared.keyed, cleared.owned⟩
  | started fault supported next => exact owned_brought _ log surface fault cleared missing

theorem owned_live_unique (pool : Pool) (log : List Handle) (owned : Owned pool log) (left right : Handle)
    (leftMember : left ∈ log) (rightMember : right ∈ log) (same : left.surface = right.surface)
    (leftLive : pool.isLive left = true) (rightLive : pool.isLive right = true) : left = right := by
  rw [is_live_at] at leftLive rightLive
  have leftEntry := owned_entry pool log owned left (owned.owned left leftMember leftLive)
  have rightEntry := owned_entry pool log owned right (owned.owned right rightMember rightLive)
  rw [same, rightEntry] at leftEntry
  exact (Option.some.inj leftEntry).symm

theorem owned_surface_live (pool : Pool) (log : List Handle) (owned : Owned pool log) (surface : SurfaceId) :
    pool.isSurfaceLive surface = true ↔ ∃ handle ∈ log, handle.surface = surface ∧ pool.isLive handle = true := by
  rw [Pool.isSurfaceLive]
  constructor
  · intro live
    cases found : pool.entry surface with
    | none => simp [found] at live
    | some handle =>
        obtain ⟨bound, member⟩ := entry_surface pool surface handle found
        exact ⟨handle, owned.known handle member, bound, by simpa [found] using live⟩
  · rintro ⟨handle, member, rfl, live⟩
    have inside := owned.owned handle member (by rwa [← is_live_at])
    rw [owned_entry pool log owned handle inside]
    exact live

theorem live_flags (pool : Pool) : pool.slots.map Slot.live = (List.range pool.slots.length).map pool.liveAt := by
  apply List.ext_getElem
  · simp
  · intro index inside _
    have bound : index < pool.slots.length := by simpa using inside
    simp [Pool.liveAt, List.getElem?_eq_getElem bound]

theorem owned_live_count (pool : Pool) (log : List Handle) (owned : Owned pool log) :
    pool.liveCount = (pool.slots.filter Slot.live).length := by
  have logDistinct : log.Nodup := by
    apply List.Nodup.of_map Handle.slot
    rw [owned.numbered]
    exact List.nodup_range
  have registeredDistinct : pool.registered.Nodup :=
    owned.keyed.imp fun apart same => apart (congrArg Handle.surface same)
  have same : (pool.registered.filter pool.isLive).Perm (log.filter pool.isLive) := by
    apply (List.perm_ext_iff_of_nodup (registeredDistinct.filter _) (logDistinct.filter _)).mpr
    intro handle
    rw [List.mem_filter, List.mem_filter]
    constructor
    · rintro ⟨member, live⟩
      exact ⟨owned.known handle member, live⟩
    · rintro ⟨member, live⟩
      exact ⟨owned.owned handle member (by rwa [← is_live_at]), live⟩
  -- The log numbers the slots in order, so counting its live handles counts the live slots.
  calc pool.liveCount = (log.filter pool.isLive).length := same.length_eq
    _ = log.countP (pool.liveAt ∘ Handle.slot) := by
        rw [← List.countP_eq_length_filter]
        exact List.countP_congr fun handle _ => by rw [is_live_at]; rfl
    _ = (List.range pool.slots.length).countP pool.liveAt := by rw [← List.countP_map, owned.numbered]
    _ = (pool.slots.map Slot.live).countP id := by rw [live_flags, List.countP_map]; rfl
    _ = (pool.slots.filter Slot.live).length := by rw [List.countP_map, ← List.countP_eq_length_filter]; rfl

theorem owned_release_all_count (pool : Pool) (log : List Handle) (owned : Owned pool log) :
    pool.releaseAll.1 = pool.liveCount :=
  release_each_count { pool with registered := [] } pool.registered (owned_registered_slots pool log owned)

theorem owned_unregistered_quiet (pool : Pool) (log : List Handle) (owned : Owned pool log)
    (unregistered : pool.registered = []) : pool.Quiet := by
  rw [quiet_iff]
  intro ⟨slot, live⟩
  obtain ⟨handle, member, rfl⟩ := owned_log_slot pool log owned slot live
  have inside := owned.owned handle member live
  simp [unregistered] at inside

namespace Bench

theorem managing_found (kept : Bench → Prop) (bench : Bench) (use : Answer × Bench) (before : kept bench)
    (used : bench.managed = true → kept use.2) : kept (bench.managing use).2 := by
  rw [managing]
  split
  · rename_i managed
    exact used managed
  · exact before

theorem with_lease_found (kept : Bench → Prop) (bench : Bench) (index : Nat) (use : Handle → Answer × Bench)
    (before : kept bench) (used : ∀ lease, bench.leases[index]? = some (some lease) → kept (use lease).2) :
    kept (bench.withLease index use).2 := by
  rw [withLease]
  split
  · rename_i lease found
    exact used lease found
  · exact before

theorem with_handle_found (kept : Bench → Prop) (bench : Bench) (index : Nat) (use : Handle → Answer × Bench)
    (before : kept bench) (used : ∀ handle, bench.handles[index]? = some handle → kept (use handle).2) :
    kept (bench.withHandle index use).2 := by
  rw [withHandle]
  split
  · rename_i handle found
    exact used handle found
  · exact before

theorem with_loop_found (kept : Bench → Prop) (bench : Bench) (index : Nat) (use : FrameLoop → Answer × Bench)
    (before : kept bench) (used : ∀ frames, bench.loops[index]? = some frames → kept (use frames).2) :
    kept (bench.withLoop index use).2 := by
  rw [withLoop]
  split
  · rename_i frames found
    exact used frames found
  · exact before

theorem command_found (kept : Bench → Prop) (bench : Bench) (index : Nat) (command : Rig.Command) (before : kept bench)
    (worked : ∀ handle answer next, bench.pool.withEngine handle (fun rig => rig.perform command) = some (answer, next) →
      kept { bench with pool := next }) : kept (bench.perform (.command index command)).2 := by
  refine with_handle_found kept bench index _ before fun handle _ => ?_
  cases done : bench.pool.withEngine handle fun rig => rig.perform command with
  | none => exact before
  | some result => exact worked handle result.1 result.2 done

theorem resize_viewport_found (kept : Bench → Prop) (bench : Bench) (index : Nat) (handle : Handle) (size : Viewport)
    (before : kept bench)
    (sized : ∀ recorded : Viewport, kept { bench with
      pool := (recorded.resize bench.pool handle size).2.2
      viewports := bench.viewports.set index (recorded.resize bench.pool handle size).2.1 }) :
    kept (bench.resizeViewport index handle size).2 := by
  rw [resizeViewport]
  split
  · exact before
  · exact sized _

theorem acquire_next (bench : Bench) (surface : Surface) : ∃ leases,
    (bench.acquire surface).2 = { bench with pool := (bench.pool.acquire surface).2, leases := leases } := by
  rw [acquire]
  generalize bench.pool.acquire surface = result
  obtain ⟨answer, pool⟩ := result
  cases answer <;> exact ⟨_, rfl⟩

@[simp] theorem acquire_pool (bench : Bench) (surface : Surface) :
    (bench.acquire surface).2.pool = (bench.pool.acquire surface).2 := by
  obtain ⟨leases, next⟩ := acquire_next bench surface
  rw [next]

@[simp] theorem acquire_loops (bench : Bench) (surface : Surface) :
    (bench.acquire surface).2.loops = bench.loops := by
  obtain ⟨leases, next⟩ := acquire_next bench surface
  rw [next]

def issued (bench : Bench) : Action → List Handle
  | .acquire surface => if bench.managed then (bench.pool.acquire surface).1.toOption.toList else []
  | _ => []

def acquired : Bench → List Action → List Handle
  | _, [] => []
  | bench, action :: rest => bench.issued action ++ (bench.perform action).2.acquired rest

structure Sound (bench : Bench) (log : List Handle) : Prop where
  owned : Owned bench.pool log
  retired : bench.managed = false → bench.pool.registered = []

structure Steady (next bench : Bench) : Prop where
  fades : next.pool.Fades bench.pool
  managed : next.managed = bench.managed

theorem steady_refl (bench : Bench) : bench.Steady bench := ⟨fades_refl bench.pool, rfl⟩

theorem sound_steady (bench next : Bench) (log : List Handle) (sound : bench.Sound log) (steady : next.Steady bench) :
    next.Sound log := by
  refine ⟨owned_fades bench.pool next.pool log sound.owned steady.fades, ?_⟩
  intro unmanaged
  rw [steady.fades.registered]
  exact sound.retired (steady.managed.symm.trans unmanaged)

theorem release_handle_steady (bench : Bench) (handle : Handle) : (bench.releaseHandle handle).2.Steady bench :=
  ⟨fades_release bench.pool handle, rfl⟩

theorem start_loop_steady (bench : Bench) (index handle : Nat) :
    (bench.perform (.startLoop index handle)).2.Steady bench := by
  refine with_loop_found (Steady · bench) bench index _ (steady_refl bench) ?_
  intro frames _
  exact with_handle_found (Steady · bench) bench handle _ (steady_refl bench) fun _ _ => ⟨fades_refl bench.pool, rfl⟩

theorem retire_sound (bench : Bench) (log : List Handle) (sound : bench.Sound log) : bench.retire.Sound log :=
  ⟨owned_release_all bench.pool log sound.owned, fun _ => release_all_registered bench.pool⟩

theorem acquire_sound (bench : Bench) (log : List Handle) (surface : Surface) (sound : bench.Sound log)
    (managed : bench.managed = true) :
    (bench.acquire surface).2.Sound (log ++ (bench.pool.acquire surface).1.toOption.toList) := by
  have owned := owned_acquire bench.pool log surface sound.owned
  rw [acquire]
  cases outcome : bench.pool.acquire surface with
  | mk answer pool =>
      rw [outcome] at owned
      cases answer with
      | error error => exact ⟨owned, fun unmanaged => by simp [managed] at unmanaged⟩
      | ok handle => exact ⟨owned, fun unmanaged => by simp [managed] at unmanaged⟩

theorem perform_sound (bench : Bench) (log : List Handle) (action : Action) (sound : bench.Sound log) :
    (bench.perform action).2.Sound (log ++ bench.issued action) := by
  have unissued : ∀ next : Bench, next.Sound log → next.Sound (log ++ []) := by
    intro next kept
    rwa [List.append_nil]
  have steady : ∀ next : Bench, next.Steady bench → next.Sound (log ++ []) := fun next kept =>
    unissued next (sound_steady bench next log sound kept)
  have same := steady_refl bench
  cases action with
  | acquire surface =>
      cases managed : bench.managed with
      | true => simpa [perform, managing, issued, managed] using acquire_sound bench log surface sound managed
      | false => simpa [perform, managing, issued, managed] using sound
  | releaseSurface surface =>
      apply unissued
      apply managing_found (Sound · log) bench _ sound
      intro managed
      exact ⟨owned_release_surface bench.pool log surface sound.owned, fun unmanaged => by simp [managed] at unmanaged⟩
  | releaseAll =>
      apply unissued
      apply managing_found (Sound · log) bench _ sound
      intro managed
      exact ⟨owned_release_all bench.pool log sound.owned, fun unmanaged => by simp [managed] at unmanaged⟩
  | retire => exact unissued _ (managing_found (Sound · log) bench _ sound fun _ => retire_sound bench log sound)
  | askLive surface => exact unissued _ (managing_found (Sound · log) bench _ sound fun _ => sound)
  | releaseLease index =>
      exact steady _ (with_lease_found (Steady · bench) bench index _ same fun lease _ => release_handle_steady bench lease)
  | dropLease index =>
      exact steady _ (with_lease_found (Steady · bench) bench index _ same fun lease _ =>
        ⟨fades_release bench.pool lease, rfl⟩)
  | forgetLease index =>
      exact steady _ (with_lease_found (Steady · bench) bench index _ same fun _ _ => ⟨fades_refl bench.pool, rfl⟩)
  | share index =>
      exact steady _ (with_lease_found (Steady · bench) bench index _ same fun _ _ => ⟨fades_refl bench.pool, rfl⟩)
  | copyHandle index =>
      exact steady _ (with_handle_found (Steady · bench) bench index _ same fun _ _ => ⟨fades_refl bench.pool, rfl⟩)
  | releaseHandle index =>
      exact steady _ (with_handle_found (Steady · bench) bench index _ same fun handle _ =>
        release_handle_steady bench handle)
  | command index command =>
      exact steady _ (command_found (Steady · bench) bench index command same fun handle answer next done =>
        ⟨fades_with_engine bench.pool next handle _ answer done, rfl⟩)
  | sync index graph =>
      exact steady _ (with_handle_found (Steady · bench) bench index _ same fun handle _ =>
        ⟨fades_sync bench.pool handle graph, rfl⟩)
  | createLoop factor => exact steady _ ⟨fades_refl bench.pool, rfl⟩
  | startLoop index handle => exact steady _ (start_loop_steady bench index handle)
  | stopLoop index =>
      exact steady _ (with_loop_found (Steady · bench) bench index _ same fun _ _ => ⟨fades_refl bench.pool, rfl⟩)
  | tickLoop index target =>
      exact steady _ (with_loop_found (Steady · bench) bench index _ same fun frames _ =>
        ⟨fades_tick frames bench.pool target, rfl⟩)
  | runLoop index budget targets =>
      exact steady _ (with_loop_found (Steady · bench) bench index _ same fun _ _ => ⟨fades_advance _ _ _, rfl⟩)
  | createViewport viewport => exact steady _ ⟨fades_refl bench.pool, rfl⟩
  | resizeViewport index handle size =>
      exact steady _ (with_handle_found (Steady · bench) bench handle _ same fun target _ =>
        resize_viewport_found (Steady · bench) bench index target size same fun recorded =>
          ⟨fades_resize recorded bench.pool target size, rfl⟩)

theorem history_sound (bench : Bench) (log : List Handle) (actions : List Action) (sound : bench.Sound log) :
    (History.final perform bench actions).Sound (log ++ bench.acquired actions) := by
  induction actions generalizing bench log with
  | nil => simpa [acquired] using sound
  | cons action rest ih => simpa [acquired] using ih _ _ (perform_sound bench log action sound)

end Bench

theorem single_ownership (plan : List Provision) (actions : List Bench.Action) :
    let bench := History.final Bench.perform (.create plan) actions
    let pool := bench.pool
    let acquired := (Bench.create plan).acquired actions
    acquired.map Handle.slot = List.range pool.slots.length ∧
    (bench.managed = true →
      (∀ handle ∈ acquired, pool.isLive handle = true → pool.entry handle.surface = some handle) ∧
      (∀ left ∈ acquired, ∀ right ∈ acquired, left.surface = right.surface →
        pool.isLive left = true → pool.isLive right = true → left = right) ∧
      (∀ surface, pool.isSurfaceLive surface = true ↔
        ∃ handle ∈ acquired, handle.surface = surface ∧ pool.isLive handle = true) ∧
      pool.liveCount = (pool.slots.filter Slot.live).length ∧
      (∀ surface, (bench.perform (.releaseSurface surface)).1 = .flag (pool.isSurfaceLive surface)) ∧
      (bench.perform .releaseAll).1 = .count pool.liveCount ∧
      (∀ slot ∈ (bench.perform .releaseAll).2.pool.slots, slot.live = false) ∧
      (∀ slot ∈ (bench.perform .retire).2.pool.slots, slot.live = false)) ∧
    (bench.managed = false → ∀ slot ∈ pool.slots, slot.live = false) := by
  intro bench pool acquired
  have start : (Bench.create plan).Sound [] := ⟨owned_create plan, by simp [Bench.create]⟩
  have sound : bench.Sound acquired := Bench.history_sound (.create plan) [] actions start
  have owned : Owned pool acquired := sound.owned
  have emptied : pool.releaseAll.2.Quiet :=
    owned_unregistered_quiet _ acquired (owned_release_all pool acquired owned) (release_all_registered pool)
  refine ⟨owned.numbered, ?_, ?_⟩
  · intro managed
    refine ⟨?_, ?_, owned_surface_live pool acquired owned, owned_live_count pool acquired owned, ?_, ?_, ?_, ?_⟩
    · intro handle member live
      exact owned_entry pool acquired owned handle (owned.owned handle member (by rwa [← is_live_at]))
    · intro left leftMember right rightMember
      exact owned_live_unique pool acquired owned left right leftMember rightMember
    · intro surface
      simp [Bench.perform, Bench.managing, managed, pool]
    · simp [Bench.perform, Bench.managing, managed, owned_release_all_count pool acquired owned, pool]
    · simpa [Bench.perform, Bench.managing, managed] using (quiet_slots _).mp emptied
    · simpa [Bench.perform, Bench.managing, managed, Bench.retire] using (quiet_slots _).mp emptied
  · intro unmanaged
    exact (quiet_slots pool).mp (owned_unregistered_quiet pool acquired owned (sound.retired unmanaged))

end Plotter
