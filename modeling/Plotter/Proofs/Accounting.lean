import Plotter.Proofs.Ownership

set_option autoImplicit false

namespace Plotter

def releases (journal : Journal) : Nat := journal.toList.count .release

@[simp] theorem releases_push (journal : Journal) (call : Call) (other : call ≠ .release) :
    releases (journal.push call) = releases journal := by
  simp [releases, List.count_append, other]

@[simp] theorem releases_release (journal : Journal) : releases (journal.push .release) = releases journal + 1 := by
  simp [releases, List.count_append]

def Sparing {α : Type} (action : Rig → α × Rig) : Prop :=
  ∀ rig, releases (action rig).2.journal = releases rig.journal

theorem sparing_viewport (viewport : Viewport) : Sparing fun rig => ((), rig.setViewport viewport) := by
  intro rig
  simp [Rig.setViewport, Rig.record]

theorem sparing_render : Sparing Rig.renderFrame := by
  intro rig
  cases pending : rig.engine.renderFault <;> simp [Rig.renderFrame, Rig.record, pending]

theorem sparing_animation (enabled : Bool) : Sparing fun rig => rig.setAnimationEnabled enabled := by
  intro rig
  simp [Rig.setAnimationEnabled, Rig.record]

theorem sparing_equations (formulas : List Formula) : Sparing fun rig => rig.setEquations formulas := by
  intro rig
  obtain ⟨equations, next⟩ := set_equations_next rig formulas
  simp [next]

@[simp] theorem releases_camera (rig : Rig) (camera : Camera) :
    releases (rig.setCamera camera).journal = releases rig.journal := by
  simp [Rig.setCamera, Rig.setCameraRotation, Rig.setCameraZoom, Rig.record]

theorem sparing_command (command : Rig.Command) : Sparing fun rig => rig.perform command := by
  intro rig
  cases command with
  | start => simp [Rig.perform, Rig.start, Rig.record]
  | renderFrame => exact sparing_render rig
  | failNextRender message => rfl
  | setCameraRotation x y => simp [Rig.perform, Rig.setCameraRotation, Rig.record]
  | setCameraZoom zoom => simp [Rig.perform, Rig.setCameraZoom, Rig.record]
  | setCamera camera => simp [Rig.perform]
  | setViewport viewport => exact sparing_viewport viewport rig
  | setAnimationEnabled enabled => exact sparing_animation enabled rig
  | setEquations formulas => exact sparing_equations formulas rig

theorem sparing_step (target : Camera) (factor : Float32) : Sparing fun rig => rig.step target factor := by
  intro rig
  have drawn := sparing_render rig
  unfold Rig.step
  dsimp only
  generalize rig.renderFrame = result at drawn ⊢
  obtain ⟨answer, next⟩ := result
  cases answer with
  | error fault => exact drawn
  | ok _ => simpa using drawn

theorem sparing_load (graph : Graph) : Sparing fun rig => rig.load graph := by
  intro rig
  have flagged := sparing_animation graph.animate rig
  unfold Rig.load
  dsimp only at flagged ⊢
  generalize rig.setAnimationEnabled graph.animate = result at flagged ⊢
  obtain ⟨answer, next⟩ := result
  cases answer with
  | error fault => exact flagged
  | ok _ => exact (sparing_equations graph.payload next).trans flagged

structure Pool.Turnover (kept : Pool → Prop) : Prop where
  release : ∀ pool handle, kept pool → kept (pool.release handle).2
  forget : ∀ pool registered, kept pool → kept { pool with registered := registered }
  settle : ∀ pool surface answer next, Acquisition pool surface (answer, next) → kept pool → kept next

/-- The steps that all work on a pool is made of. What these keep, every action of a bench keeps. -/
structure Pool.Preserved (kept : Pool → Prop) : Prop extends Pool.Turnover kept where
  work : ∀ {α : Type} (pool next : Pool) (handle : Handle) (action : Rig → α × Rig) (answer : α), Sparing action →
    pool.withEngine handle action = some (answer, next) → kept pool → kept next

section Turning

variable (kept : Pool → Prop) (turnover : Pool.Turnover kept)
include turnover

theorem release_each_keeps (pool : Pool) (handles : List Handle) (before : kept pool) :
    kept (pool.releaseEach handles).2 := by
  induction handles generalizing pool with
  | nil => exact before
  | cons handle rest ih => exact ih _ (turnover.release pool handle before)

theorem release_all_keeps (pool : Pool) (before : kept pool) : kept pool.releaseAll.2 :=
  release_each_keeps kept turnover _ pool.registered (turnover.forget pool [] before)

theorem release_surface_keeps (pool : Pool) (surface : SurfaceId) (before : kept pool) :
    kept (pool.releaseSurface surface).2 := by
  cases found : pool.entry surface with
  | none =>
      rw [release_surface_missing pool surface found]
      exact before
  | some handle =>
      rw [release_surface_found pool surface handle found]
      exact turnover.release _ handle (turnover.forget pool _ before)

theorem acquire_keeps (pool : Pool) (surface : Surface) (before : kept pool) : kept (pool.acquire surface).2 :=
  turnover.settle _ surface _ _ (acquire_cases pool surface) (release_surface_keeps kept turnover pool surface.id before)

end Turning

section Keeping

variable (kept : Pool → Prop) (preserved : Pool.Preserved kept)
include preserved

theorem sync_keeps (pool : Pool) (handle : Handle) (graph : Graph) (before : kept pool) :
    kept (pool.sync handle graph).2 :=
  sync_found kept pool handle graph before fun answer next done =>
    preserved.work pool next handle _ answer (sparing_load graph) done before

theorem resize_keeps (recorded : Viewport) (pool : Pool) (handle : Handle) (viewport : Viewport) (before : kept pool) :
    kept (recorded.resize pool handle viewport).2.2 :=
  resize_found kept recorded pool handle viewport before fun answer next done =>
    preserved.work pool next handle _ answer (sparing_viewport viewport) done before

theorem tick_keeps (frames : FrameLoop) (pool : Pool) (target : Camera) (before : kept pool) :
    kept (frames.tick pool target).2.2 := by
  have outcome := tick_cases frames pool target
  generalize frames.tick pool target = result at outcome ⊢
  cases outcome with
  | skipped halted => exact before
  | terminated running lost => exact before
  | settled running handle holding answer next done =>
      exact preserved.work pool next handle _ answer (sparing_step target frames.smoothingFactor) done before

theorem loop_keeps {σ : Type} [FrameSource σ] (targets : Nat → Camera) (fuel : Nat) (run : FrameLoop.Run σ)
    (before : kept run.pool) : kept (FrameLoop.Run.advance targets fuel run).pool :=
  loop_run_keeps (fun _ => kept) targets (tick_keeps kept preserved) fuel run before

end Keeping

namespace Bench

theorem perform_keeps (kept : Pool → Prop) (preserved : Pool.Preserved kept) (bench : Bench) (action : Action)
    (before : kept bench.pool) : kept (bench.perform action).2.pool := by
  -- Whatever else an action changes of the bench, only its pool counts here.
  let good (next : Bench) : Prop := kept next.pool
  have released : ∀ handle, kept (bench.pool.release handle).2 := fun handle =>
    preserved.release bench.pool handle before
  cases action with
  | acquire surface =>
      refine managing_found good bench _ before fun _ => ?_
      simpa [good] using acquire_keeps kept preserved.toTurnover bench.pool surface before
  | releaseSurface surface =>
      exact managing_found good bench _ before fun _ =>
        release_surface_keeps kept preserved.toTurnover bench.pool surface before
  | askLive surface => exact managing_found good bench _ before fun _ => before
  | releaseAll =>
      exact managing_found good bench _ before fun _ => release_all_keeps kept preserved.toTurnover bench.pool before
  | retire =>
      exact managing_found good bench _ before fun _ => release_all_keeps kept preserved.toTurnover bench.pool before
  | releaseLease index => exact with_lease_found good bench index _ before fun lease _ => released lease
  | dropLease index => exact with_lease_found good bench index _ before fun lease _ => released lease
  | forgetLease index => exact with_lease_found good bench index _ before fun _ _ => before
  | share index => exact with_lease_found good bench index _ before fun _ _ => before
  | copyHandle index => exact with_handle_found good bench index _ before fun _ _ => before
  | releaseHandle index => exact with_handle_found good bench index _ before fun handle _ => released handle
  | command index command =>
      exact command_found good bench index command before fun handle answer next done =>
        preserved.work bench.pool next handle _ answer (sparing_command command) done before
  | sync index graph =>
      exact with_handle_found good bench index _ before fun handle _ =>
        sync_keeps kept preserved bench.pool handle graph before
  | createLoop factor => exact before
  | startLoop index handle =>
      refine with_loop_found good bench index _ before fun frames _ => ?_
      exact with_handle_found good bench handle _ before fun _ _ => before
  | stopLoop index => exact with_loop_found good bench index _ before fun _ _ => before
  | tickLoop index target =>
      exact with_loop_found good bench index _ before fun frames _ =>
        tick_keeps kept preserved frames bench.pool target before
  | runLoop index budget targets =>
      exact with_loop_found good bench index _ before fun _ _ => loop_keeps kept preserved _ _ _ before
  | createViewport viewport => exact before
  | resizeViewport index handle size =>
      exact with_handle_found good bench handle _ before fun target _ =>
        resize_viewport_found good bench index target size before fun recorded =>
          resize_keeps kept preserved recorded bench.pool target size before

theorem history_keeps (kept : Pool → Prop) (preserved : Pool.Preserved kept) (bench : Bench) (actions : List Action)
    (before : kept bench.pool) : kept (History.final perform bench actions).pool :=
  History.final_keeps perform (fun bench => kept bench.pool) (fun _ => True)
    (fun bench action _ => perform_keeps kept preserved bench action) bench before actions (by simp)

end Bench

/-- Every engine that was created is live or has been released, and none is counted twice. -/
def Pool.Balanced (pool : Pool) : Prop := pool.created = releases pool.journal + pool.slots.countP Slot.live

theorem live_count_set (pool : Pool) (handle : Handle) (engine : Engine) (flag : Bool)
    (live : pool.isLive handle = true) :
    (pool.slots.set handle.slot ⟨engine, flag⟩).countP Slot.live + 1 =
      pool.slots.countP Slot.live + if flag then 1 else 0 := by
  obtain ⟨_, _, stored⟩ := engine_of_live pool handle live
  obtain ⟨bound, same⟩ := List.getElem?_eq_some_iff.mp stored
  have counted : 0 < pool.slots.countP Slot.live :=
    List.countP_pos_iff.mpr ⟨_, List.mem_of_getElem? stored, rfl⟩
  rw [List.countP_set bound, same]
  simp only [if_true]
  omega

theorem release_balanced (pool : Pool) (handle : Handle) (balanced : pool.Balanced) :
    (pool.release handle).2.Balanced := by
  cases live : pool.isLive handle with
  | false =>
      rw [release_dead pool handle live]
      exact balanced
  | true =>
      obtain ⟨engine, _, released⟩ := release_live pool handle live
      have count := live_count_set pool handle engine false live
      rw [released]
      rw [Pool.Balanced] at balanced ⊢
      simp at count ⊢
      omega

theorem work_balanced {α : Type} (pool next : Pool) (handle : Handle) (action : Rig → α × Rig) (answer : α)
    (sparing : Sparing action) (done : pool.withEngine handle action = some (answer, next))
    (balanced : pool.Balanced) : next.Balanced := by
  obtain ⟨engine, rig, found, result, rfl⟩ := with_engine_some pool next handle action answer done
  have live := live_of_engine pool handle engine found
  rw [← is_live_at] at live
  have count := live_count_set pool handle rig.engine true live
  have spared : releases rig.journal = releases pool.journal := by
    simpa only [result] using sparing ⟨engine, pool.journal⟩
  rw [Pool.Balanced] at balanced ⊢
  simp only [if_true] at count ⊢
  omega

theorem settle_balanced (pool next : Pool) (surface : Surface) (answer : Except InitError Handle)
    (outcome : Acquisition pool surface (answer, next)) (balanced : pool.Balanced) : next.Balanced := by
  rw [Pool.Balanced] at balanced ⊢
  cases outcome with
  | unsupported lacking => exact balanced
  | rejected fault supported provision => exact balanced
  | stillborn fault supported provision =>
      simp
      omega
  | started fault supported provision =>
      simp
      omega

theorem balanced_preserved : Pool.Preserved Pool.Balanced where
  release := release_balanced
  work := work_balanced
  forget := fun _ _ balanced => balanced
  settle := fun pool surface answer next => settle_balanced pool next surface answer

def Pool.gone (pool : Pool) (slot : Nat) : Bool := pool.slots[slot]?.any fun slot => !slot.live

theorem gone_iff (pool : Pool) (slot : Nat) :
    pool.gone slot = true ↔ slot < pool.slots.length ∧ pool.liveAt slot = false := by
  rw [Pool.gone, Pool.liveAt]
  by_cases bound : slot < pool.slots.length <;> simp [bound]

theorem settle_gone (pool next : Pool) (surface : Surface) (answer : Except InitError Handle) (slot : Nat)
    (outcome : Acquisition pool surface (answer, next)) (gone : pool.gone slot = true) : next.gone slot = true := by
  cases outcome with
  | unsupported lacking => exact gone
  | rejected fault supported provision => exact gone
  | stillborn fault supported provision => exact gone
  | started fault supported provision =>
      obtain ⟨bound, dead⟩ := (gone_iff pool slot).mp gone
      have apart : slot ≠ pool.slots.length := by omega
      rw [gone_iff, ← Bool.not_eq_true]
      refine ⟨?_, by simp [dead, apart]⟩
      simp
      omega

theorem gone_preserved (slot : Nat) : Pool.Preserved fun pool => pool.gone slot = true where
  release := by
    intro pool handle gone
    rw [gone_iff] at gone ⊢
    simp [gone]
  work := by
    intro α pool next handle action answer sparing done gone
    rw [gone_iff] at gone ⊢
    rw [(with_engine_frame pool next handle action answer done).2.2, with_engine_live_at pool next handle action answer done]
    exact gone
  forget := fun _ _ gone => gone
  settle := fun pool surface answer next => settle_gone pool next surface answer slot

theorem gone_dead (pool : Pool) (handle : Handle) (gone : pool.gone handle.slot = true) : pool.isLive handle = false := by
  rw [is_live_at]
  exact ((gone_iff pool handle.slot).mp gone).2

def Pool.lost (pool next : Pool) : List Nat :=
  (List.range next.slots.length).filter fun slot => next.gone slot && !pool.gone slot

theorem filtered_slot_count (size slot : Nat) (keep : Nat → Bool) (inside : keep slot = true → slot < size) :
    ((List.range size).filter keep).count slot = if keep slot = true then 1 else 0 := by
  rw [List.Nodup.count (List.nodup_range.filter keep)]
  exact if_congr (by simpa using inside) rfl rfl

theorem lost_count (pool next : Pool) (slot : Nat) :
    (pool.lost next).count slot = if next.gone slot = true ∧ pool.gone slot = false then 1 else 0 := by
  have inside : (next.gone slot && !pool.gone slot) = true → slot < next.slots.length := by
    intro ended
    exact ((gone_iff next slot).mp ((Bool.and_eq_true _ _).mp ended).1).1
  rw [Pool.lost, filtered_slot_count _ slot _ inside]
  simp

theorem gone_flags (pool : Pool) :
    pool.slots.map (fun slot => !slot.live) = (List.range pool.slots.length).map pool.gone := by
  apply List.ext_getElem
  · simp
  · intro index inside _
    have bound : index < pool.slots.length := by simpa using inside
    simp [Pool.gone, List.getElem?_eq_getElem bound]

theorem gone_length (pool : Pool) (lost : List Nat)
    (once : ∀ slot, lost.count slot = if pool.gone slot = true then 1 else 0) :
    lost.length + pool.slots.countP Slot.live = pool.slots.length := by
  -- The list has the dead slots in the order of their deaths, the filter in the order of their places.
  have same : lost.Perm ((List.range pool.slots.length).filter pool.gone) := by
    rw [List.perm_iff_count]
    intro slot
    rw [once, filtered_slot_count _ slot _ fun gone => ((gone_iff pool slot).mp gone).1]
  have dead : lost.length = pool.slots.countP fun slot => !slot.live :=
    calc lost.length = (List.range pool.slots.length).countP pool.gone := by
          rw [same.length_eq, List.countP_eq_length_filter]
      _ = ((List.range pool.slots.length).map pool.gone).countP id := by rw [List.countP_map]; rfl
      _ = pool.slots.countP fun slot => !slot.live := by rw [← gone_flags, List.countP_map]; rfl
  rw [dead, Nat.add_comm, List.length_eq_countP_add_countP Slot.live]
  simp

namespace Bench

def losses : Bench → List Action → List Nat
  | _, [] => []
  | bench, action :: rest => bench.pool.lost (bench.perform action).2.pool ++ (bench.perform action).2.losses rest

theorem losses_count (bench : Bench) (actions : List Action) (slot : Nat) :
    (bench.losses actions).count slot =
      if (History.final perform bench actions).pool.gone slot = true ∧ bench.pool.gone slot = false then 1 else 0 := by
  induction actions generalizing bench with
  | nil => cases gone : bench.pool.gone slot <;> simp [losses, gone]
  | cons action rest ih =>
      have step := perform_keeps _ (gone_preserved slot) bench action
      have later := history_keeps _ (gone_preserved slot) (bench.perform action).2 rest
      rw [losses, List.count_append, lost_count, ih]
      -- An engine goes either in this step or in a later one.
      cases before : bench.pool.gone slot with
      | true => simp [step before]
      | false =>
          cases now : (bench.perform action).2.pool.gone slot with
          | true => simp [later now]
          | false => simp

theorem drop_lease_frame (bench : Bench) (index : Nat) :
    (bench.perform (.dropLease index)).2.managed = bench.managed ∧
      (bench.perform (.dropLease index)).2.leases = bench.leases.set index none := by
  rw [perform, withLease]
  dsimp only
  split
  · exact ⟨rfl, rfl⟩
  · rename_i empty
    refine ⟨rfl, ?_⟩
    -- A lease given up before stays given up, and one that never was is not written at all.
    apply List.ext_getElem?
    intro other
    by_cases same : index = other
    · subst other
      rw [List.getElem?_set_self']
      cases found : bench.leases[index]? with
      | none => rfl
      | some lease =>
          cases lease with
          | none => rfl
          | some handle => exact absurd found (empty handle)
    · rw [List.getElem?_set_ne same]

def dropLeases (bench : Bench) : List Action := (List.range bench.leases.length).map .dropLease

theorem drops_frame (bench : Bench) (indices : List Nat) :
    let next := History.final perform bench (indices.map .dropLease)
    next.managed = bench.managed ∧ next.leases.length = bench.leases.length ∧
      ∀ (index : Nat) (lease : Handle), next.leases[index]? = some (some lease) →
        bench.leases[index]? = some (some lease) ∧ index ∉ indices := by
  induction indices generalizing bench with
  | nil => exact ⟨rfl, rfl, fun index lease found => ⟨found, by simp⟩⟩
  | cons first rest ih =>
      obtain ⟨managed, leases⟩ := drop_lease_frame bench first
      obtain ⟨managedRest, lengthRest, keptRest⟩ := ih (bench.perform (.dropLease first)).2
      rw [leases] at lengthRest keptRest
      refine ⟨managedRest.trans managed, lengthRest.trans List.length_set, ?_⟩
      intro index lease found
      obtain ⟨before, outside⟩ := keptRest index lease found
      by_cases same : first = index
      · subst index
        rw [List.getElem?_set_self'] at before
        cases bench.leases[first]? <;> simp at before
      · rw [List.getElem?_set_ne same] at before
        exact ⟨before, by simp [Ne.symm same, outside]⟩

theorem retire_frame (bench : Bench) :
    (bench.perform .retire).2.managed = false ∧ (bench.perform .retire).2.leases = bench.leases := by
  rw [perform, managing]
  cases managed : bench.managed
  · exact ⟨managed, rfl⟩
  · exact ⟨rfl, rfl⟩

theorem unleased_of_dropped (bench next : Bench) (size : next.leases.length = bench.leases.length)
    (kept : ∀ (index : Nat) (lease : Handle), next.leases[index]? = some (some lease) →
      index ∉ List.range bench.leases.length) : ∀ lease ∈ next.leases, lease = none := by
  intro lease member
  cases lease with
  | none => rfl
  | some handle =>
      obtain ⟨index, found⟩ := List.mem_iff_getElem?.mp member
      obtain ⟨bound, _⟩ := List.getElem?_eq_some_iff.mp found
      exact absurd (List.mem_range.mpr (size ▸ bound)) (kept index handle found)

theorem drops_then_retire (bench : Bench) :
    let ended := History.final perform bench (bench.dropLeases ++ [.retire])
    ended.managed = false ∧ ∀ lease ∈ ended.leases, lease = none := by
  intro ended
  have last : ended = ((History.final perform bench bench.dropLeases).perform .retire).2 :=
    History.final_append perform bench bench.dropLeases [.retire]
  obtain ⟨_, size, kept⟩ := drops_frame bench (List.range bench.leases.length)
  obtain ⟨unmanaged, leases⟩ := retire_frame (History.final perform bench bench.dropLeases)
  rw [last, leases]
  exact ⟨unmanaged, unleased_of_dropped bench _ size fun index lease found => (kept index lease found).2⟩

theorem retire_then_drops (bench : Bench) :
    let ended := History.final perform bench (.retire :: bench.dropLeases)
    ended.managed = false ∧ ∀ lease ∈ ended.leases, lease = none := by
  intro ended
  obtain ⟨unmanaged, leases⟩ := retire_frame bench
  obtain ⟨managed, size, kept⟩ := drops_frame (bench.perform .retire).2 (List.range bench.leases.length)
  rw [leases] at size
  exact ⟨managed.trans unmanaged, unleased_of_dropped bench _ size fun index lease found => (kept index lease found).2⟩

theorem reached_balanced (plan : List Provision) (actions : List Action) :
    (History.final perform (create plan) actions).pool.Balanced :=
  history_keeps Pool.Balanced balanced_preserved (create plan) actions rfl

theorem reached_sound (plan : List Provision) (actions : List Action) :
    (History.final perform (create plan) actions).Sound ((create plan).acquired actions) :=
  history_sound (create plan) [] actions ⟨owned_create plan, by simp [create]⟩

end Bench

theorem quiet_balanced (pool : Pool) (quiet : pool.Quiet) (balanced : pool.Balanced) :
    releases pool.journal = pool.created := by
  have none : pool.slots.countP Slot.live = 0 := by
    rw [List.countP_eq_zero]
    intro slot member
    simp [(quiet_slots pool).mp quiet slot member]
  rw [Pool.Balanced] at balanced
  omega

namespace Bench

theorem unmanaged_released (plan : List Provision) (actions : List Action)
    (unmanaged : (History.final perform (create plan) actions).managed = false) :
    releases (History.final perform (create plan) actions).pool.journal =
      (History.final perform (create plan) actions).pool.created := by
  have sound := reached_sound plan actions
  exact quiet_balanced _ (owned_unregistered_quiet _ _ sound.owned (sound.retired unmanaged)) (reached_balanced plan actions)

theorem close_released (bench : Bench) (log : List Handle) (sound : bench.Sound log) (balanced : bench.pool.Balanced) :
    releases bench.close.journal = bench.close.created := by
  let ending := if bench.managed then bench.retire else bench
  have retired : ending.pool.Quiet ∧ ending.pool.Balanced := by
    by_cases managed : bench.managed = true
    · have emptied := retire_sound bench log sound
      simp only [ending, if_pos managed]
      exact ⟨owned_unregistered_quiet _ log emptied.owned (emptied.retired rfl),
        release_all_keeps Pool.Balanced balanced_preserved.toTurnover bench.pool balanced⟩
    · simp only [ending, if_neg managed]
      exact ⟨owned_unregistered_quiet _ log sound.owned (sound.retired (by simpa using managed)), balanced⟩
  -- Once the surfaces are retired nothing is live, so the leases that are left release nothing.
  rw [show bench.close = (ending.pool.releaseEach (ending.leases.filterMap id)).2 from rfl,
    release_each_quiet ending.pool _ retired.1]
  exact quiet_balanced ending.pool retired.1 retired.2

theorem clone_stale (bench : Bench) (clone : Handle) (gone : bench.pool.gone clone.slot = true) :
    bench.pool.isLive clone = false ∧ bench.pool.release clone = (false, bench.pool) ∧
    (∀ (α : Type) (action : Rig → α × Rig), bench.pool.withEngine clone action = none) ∧
    (∀ index, bench.handles[index]? = some clone →
      bench.perform (.releaseHandle index) = (.flag false, bench) ∧
      ∀ command, bench.perform (.command index command) = (.failed clone.stale, bench)) ∧
    (∀ index, bench.leases[index]? = some (some clone) → bench.perform (.releaseLease index) = (.flag false, bench)) := by
  have dead := gone_dead bench.pool clone gone
  have kept := release_dead bench.pool clone dead
  refine ⟨dead, kept, fun α action => with_engine_dead bench.pool clone action dead, ?_, ?_⟩
  · intro index found
    refine ⟨by simp [perform, withHandle, found, releaseHandle, kept], ?_⟩
    intro command
    simp [perform, withHandle, found, with_engine_dead bench.pool clone _ dead]
  · intro index found
    simp [perform, withLease, found, releaseHandle, kept]

end Bench

theorem release_accounting (plan : List Provision) (actions : List Bench.Action) :
    let bench := History.final Bench.perform (.create plan) actions
    let pool := bench.pool
    let lost := (Bench.create plan).losses actions
    (bench.managed = true → pool.created = releases pool.journal + pool.liveCount) ∧
    ((∀ slot, lost.count slot = if pool.gone slot = true then 1 else 0) ∧
      releases pool.journal + pool.slots.length = lost.length + pool.created) ∧
    (∀ slot, pool.gone slot = true → ∀ (later : List Bench.Action) (clone : Handle), clone.slot = slot →
      let next := History.final Bench.perform bench later
      next.pool.isLive clone = false ∧ next.pool.release clone = (false, next.pool) ∧
      (∀ (α : Type) (action : Rig → α × Rig), next.pool.withEngine clone action = none) ∧
      (∀ index, next.handles[index]? = some clone →
        next.perform (.releaseHandle index) = (.flag false, next) ∧
        ∀ command, next.perform (.command index command) = (.failed clone.stale, next)) ∧
      (∀ index, next.leases[index]? = some (some clone) → next.perform (.releaseLease index) = (.flag false, next))) ∧
    (bench.managed = false → releases pool.journal = pool.created) ∧
    (∀ ending ∈ [.retire :: bench.dropLeases, bench.dropLeases ++ [.retire]],
      let ended := History.final Bench.perform bench ending
      ended.managed = false ∧ (∀ lease ∈ ended.leases, lease = none) ∧
        releases ended.pool.journal = ended.pool.created) ∧
    releases bench.close.journal = bench.close.created := by
  intro bench pool lost
  have sound := Bench.reached_sound plan actions
  have balanced : pool.created = releases pool.journal + pool.slots.countP Slot.live := Bench.reached_balanced plan actions
  have once : ∀ slot, lost.count slot = if pool.gone slot = true then 1 else 0 := by
    intro slot
    rw [Bench.losses_count, show (Bench.create plan).pool.gone slot = false from rfl]
    simp only [and_true]
    rfl
  refine ⟨?_, ⟨once, ?_⟩, ?_, Bench.unmanaged_released plan actions, ?_, Bench.close_released bench _ sound balanced⟩
  · intro _
    rw [owned_live_count pool _ sound.owned, ← List.countP_eq_length_filter]
    exact balanced
  · have slots := gone_length pool lost once
    omega
  · intro slot gone later clone same
    subst slot
    exact Bench.clone_stale _ clone (Bench.history_keeps _ (gone_preserved clone.slot) bench later gone)
  · intro ending member ended
    have unmanaged : ended.managed = false ∧ ∀ lease ∈ ended.leases, lease = none := by
      rcases List.mem_cons.mp member with same | rest
      · subst ending
        exact Bench.retire_then_drops bench
      · rw [List.mem_singleton] at rest
        subst ending
        exact Bench.drops_then_retire bench
    refine ⟨unmanaged.1, unmanaged.2, ?_⟩
    -- The ending belongs to one longer history, and the law of whole histories applies to that.
    have whole : ended = History.final Bench.perform (.create plan) (actions ++ ending) :=
      (History.final_append Bench.perform (.create plan) actions ending).symm
    rw [whole] at unmanaged ⊢
    exact Bench.unmanaged_released plan (actions ++ ending) unmanaged.1

end Plotter
