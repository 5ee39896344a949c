import Plotter.Proofs.OneSurface

/-!
Surfaces do not interfere. Of a run on many surfaces, take out what concerns one of them and run it alone: it gets
the same answers, and its leases, handles and engines are the same.
-/

set_option autoImplicit false

namespace Plotter

namespace Bench

def Action.isDirect : Action → Bool
  | .createLoop _ | .startLoop _ _ | .stopLoop _ | .tickLoop _ _ | .runLoop _ _ _ | .createViewport _
  | .resizeViewport _ _ _ => false
  | _ => true

/-- Numbers are left out: those of leases and handles, and how many engines of all surfaces were released at once. -/
def Answer.plain : Answer → Answer
  | .added _ | .count _ => .done
  | answer => answer

structure Shows (surface : SurfaceId) (log : List Handle) (full part : Bench) : Prop where
  managed : full.managed = part.managed
  pool : full.pool.Shows surface (slotsOf surface log) part.pool
  leases : Picks (slotsOf surface log) (full.leases.map Option.isSome) (part.leases.map Option.isSome)
  handles : List.Forall₂ (Handle.Echoes (slotsOf surface log)) (full.handles.filter (Handle.belongs surface)) part.handles

structure Beside (surface : SurfaceId) (log partLog : List Handle) (full part : Bench) : Prop where
  ahead : full.Orderly log
  behind : part.Orderly partLog
  alone : ∀ handle ∈ partLog, handle.surface = surface
  shown : full.Shows surface log part

structure Match (surface : SurfaceId) (log : List Handle) (full part : Answer × Bench) : Prop where
  answer : full.1.plain = part.1.plain
  shown : full.2.Shows surface log part.2

section Steps

variable {surface : SurfaceId} {log partLog : List Handle} {full part : Bench}

theorem beside_lease (beside : Beside surface log partLog full part) (place index : Nat)
    (placed : (slotsOf surface log)[place]? = some index) :
    (full.leases[index]? = some none ∧ part.leases[place]? = some none) ∨
      ∃ handle other, full.leases[index]? = some (some handle) ∧ part.leases[place]? = some (some other) ∧
        log[index]? = some handle ∧ handle.Echoes (slotsOf surface log) other := by
  obtain ⟨handle, found, own⟩ := slots_of_found full.pool log beside.ahead.owned surface place index placed
  obtain ⟨same, _⟩ := picks_get beside.shown.leases place index placed
  have inside : index < full.leases.length := by
    rw [beside.ahead.count]
    exact (List.getElem?_eq_some_iff.mp found).1
  simp only [List.getElem?_map, List.getElem?_eq_getElem inside, Option.map_some, Option.map_eq_some_iff] at same
  obtain ⟨other, there, flags⟩ := same
  -- The two benches agree on which leases were given up, not on the numbers in them.
  have here := List.getElem?_eq_getElem inside
  generalize full.leases[index] = entry at here flags
  cases entry with
  | none =>
      cases other with
      | none => exact .inl ⟨here, there⟩
      | some lease => cases flags
  | some lease =>
      cases other with
      | none => cases flags
      | some other =>
          have named := beside.ahead.leased index lease here
          rw [found] at named
          cases named
          have logged := beside.behind.leased place other there
          refine .inr ⟨handle, other, here, there, found, ?_, ?_⟩
          · rw [own, beside.alone other (List.mem_of_getElem? logged)]
          · rw [owned_log_index part.pool partLog beside.behind.owned place other logged, placed,
              owned_log_index full.pool log beside.ahead.owned index handle found]

theorem lease_matches (beside : Beside surface log partLog full part) (index : Nat) (handle : Handle)
    (use partUse : Handle → Answer × Bench) (found : log[index]? = some handle) (own : handle.surface = surface)
    (used : ∀ other, handle.Echoes (slotsOf surface log) other → Match surface log (use handle) (partUse other)) :
    Match surface log (full.withLease index use)
      (part.withLease (rank (Handle.belongs surface) log index) partUse) := by
  have placed := slots_of_own full.pool log beside.ahead.owned surface index handle found own
  rcases beside_lease beside _ index placed with ⟨here, there⟩ | ⟨lease, other, here, there, logged, echoes⟩
  · simp only [withLease, here, there]
    exact ⟨rfl, beside.shown⟩
  · rw [found] at logged
    cases logged
    simp only [withLease, here, there]
    exact used other echoes

theorem handle_matches (beside : Beside surface log partLog full part) (index : Nat) (handle : Handle)
    (use partUse : Handle → Answer × Bench) (found : full.handles[index]? = some handle) (own : handle.surface = surface)
    (used : ∀ other, handle.Echoes (slotsOf surface log) other → Match surface log (use handle) (partUse other)) :
    Match surface log (full.withHandle index use)
      (part.withHandle (rank (Handle.belongs surface) full.handles index) partUse) := by
  have kept := rank_get _ full.handles index handle found ((belongs_iff surface handle).mpr own)
  rcases forall_cases _ _ _ beside.shown.handles (rank (Handle.belongs surface) full.handles index) with
    ⟨missing, _⟩ | ⟨larger, other, here, there, echoes⟩
  · rw [kept] at missing
    cases missing
  · rw [kept] at here
    cases here
    simp only [withHandle, found, there]
    exact used other echoes

theorem shows_pool (shown : full.Shows surface log part) (fullNext partNext : Pool)
    (pools : fullNext.Shows surface (slotsOf surface log) partNext) :
    Shows surface log { full with pool := fullNext } { part with pool := partNext } :=
  { shown with pool := pools }

theorem release_matches (shown : full.Shows surface log part) (handle other : Handle)
    (echoes : handle.Echoes (slotsOf surface log) other) :
    Match surface log (full.releaseHandle handle) (part.releaseHandle other) := by
  obtain ⟨flags, abreast⟩ := release_abreast _ full.pool part.pool handle other shown.pool.toMirrors echoes
  exact ⟨congrArg Answer.flag flags, shows_pool shown _ _ (shows_abreast surface _ _ _ _ _ shown.pool abreast)⟩

theorem add_handle_matches (shown : full.Shows surface log part) (handle other : Handle)
    (own : handle.surface = surface) (echoes : handle.Echoes (slotsOf surface log) other) :
    Match surface log (full.addHandle handle) (part.addHandle other) := by
  have kept : (full.handles ++ [handle]).filter (Handle.belongs surface) =
      full.handles.filter (Handle.belongs surface) ++ [handle] := by
    simp [Handle.belongs, own]
  refine ⟨rfl, { shown with handles := ?_ }⟩
  change List.Forall₂ _ ((full.handles ++ [handle]).filter (Handle.belongs surface)) (part.handles ++ [other])
  rw [kept]
  exact List.rel_append shown.handles (.cons echoes .nil)

theorem give_up_shown (shown : full.Shows surface log part) (index place : Nat)
    (found : (slotsOf surface log)[place]? = some index) :
    Shows surface log { full with leases := full.leases.set index none }
      { part with leases := part.leases.set place none } := by
  refine { shown with leases := ?_ }
  change Picks _ ((full.leases.set index none).map Option.isSome) ((part.leases.set place none).map Option.isSome)
  rw [List.map_set, List.map_set]
  exact picks_set shown.pool.distinct shown.leases place index _ found

theorem shows_elsewhere_pool (shown : full.Shows surface log part) (next : Pool) (fades : next.Fades full.pool)
    (mirrors : next.Mirrors (slotsOf surface log) part.pool) : Shows surface log { full with pool := next } part :=
  { shown with pool := shows_elsewhere surface _ full.pool part.pool next fades mirrors shown.pool }

theorem release_apart (shown : full.Shows surface log part) (handle : Handle) (apart : handle.slot ∉ slotsOf surface log) :
    (full.releaseHandle handle).2.Shows surface log part :=
  shows_elsewhere_pool shown _ (fades_release full.pool handle)
    (release_elsewhere _ full.pool part.pool handle shown.pool.toMirrors apart)

theorem add_handle_apart (shown : full.Shows surface log part) (handle : Handle) (other : handle.surface ≠ surface) :
    (full.addHandle handle).2.Shows surface log part := by
  have kept : (full.handles ++ [handle]).filter (Handle.belongs surface) =
      full.handles.filter (Handle.belongs surface) := by
    simp [Handle.belongs, other]
  refine { shown with handles := ?_ }
  change List.Forall₂ _ ((full.handles ++ [handle]).filter (Handle.belongs surface)) part.handles
  rw [kept]
  exact shown.handles

theorem give_up_apart (shown : full.Shows surface log part) (index : Nat) (apart : index ∉ slotsOf surface log) :
    Shows surface log { full with leases := full.leases.set index none } part := by
  refine { shown with leases := ?_ }
  change Picks _ ((full.leases.set index none).map Option.isSome) (part.leases.map Option.isSome)
  rw [List.map_set]
  exact picks_set_elsewhere shown.leases index _ apart

end Steps

def renumbered (surface : SurfaceId) (items : List Handle) (index : Nat) (make : Nat → Action) : Option Action :=
  if items[index]?.any (Handle.belongs surface) then some (make (rank (Handle.belongs surface) items index)) else none

def narrowed (surface : SurfaceId) (log : List Handle) (bench : Bench) : Action → Option Action
  | .acquire target => if target.id = surface then some (.acquire target) else none
  | .releaseSurface other => if other = surface then some (.releaseSurface other) else none
  | .askLive other => if other = surface then some (.askLive other) else none
  | .releaseAll => some .releaseAll
  | .retire => some .retire
  | .releaseLease index => renumbered surface log index .releaseLease
  | .dropLease index => renumbered surface log index .dropLease
  | .forgetLease index => renumbered surface log index .forgetLease
  | .share index => renumbered surface log index .share
  | .copyHandle index => renumbered surface bench.handles index .copyHandle
  | .releaseHandle index => renumbered surface bench.handles index .releaseHandle
  | .command index command => renumbered surface bench.handles index (.command · command)
  | .sync index graph => renumbered surface bench.handles index (.sync · graph)
  | _ => none

theorem renumbered_some (surface : SurfaceId) (items : List Handle) (index : Nat) (make : Nat → Action) (kept : Action)
    (renamed : renumbered surface items index make = some kept) :
    ∃ handle, items[index]? = some handle ∧ handle.surface = surface ∧
      kept = make (rank (Handle.belongs surface) items index) := by
  rw [renumbered] at renamed
  cases found : items[index]? with
  | none => simp [found] at renamed
  | some handle =>
      simp only [found, Option.any_some, Option.ite_none_right_eq_some, Option.some.injEq, belongs_iff] at renamed
      exact ⟨handle, rfl, renamed.1, renamed.2.symm⟩

theorem renumbered_none (surface : SurfaceId) (items : List Handle) (index : Nat) (make : Nat → Action)
    (left : renumbered surface items index make = none) (handle : Handle) (found : items[index]? = some handle) :
    handle.surface ≠ surface := by
  intro own
  simp [renumbered, found, Handle.belongs, own] at left

section Steps

variable {surface : SurfaceId} {log partLog : List Handle} {full part : Bench}

theorem registered_apart (beside : Beside surface log partLog full part) (handle : Handle)
    (member : handle ∈ full.pool.registered) (other : handle.surface ≠ surface) :
    handle.slot ∉ slotsOf surface log :=
  slots_of_other full.pool log beside.ahead.owned surface handle (beside.ahead.owned.known handle member) other

theorem lease_apart (beside : Beside surface log partLog full part) (index : Nat) (lease : Handle)
    (others : ∀ handle, log[index]? = some handle → handle.surface ≠ surface)
    (found : full.leases[index]? = some (some lease)) :
    lease.surface ≠ surface ∧ lease.slot ∉ slotsOf surface log ∧ index ∉ slotsOf surface log := by
  have logged := beside.ahead.leased index lease found
  have other := others lease logged
  have apart := slots_of_other full.pool log beside.ahead.owned surface lease (List.mem_of_getElem? logged) other
  refine ⟨other, apart, ?_⟩
  rwa [← owned_log_index full.pool log beside.ahead.owned index lease logged]

theorem handle_apart (beside : Beside surface log partLog full part) (index : Nat) (handle : Handle)
    (other : handle.surface ≠ surface) (found : full.handles[index]? = some handle) :
    handle.slot ∉ slotsOf surface log :=
  slots_of_other full.pool log beside.ahead.owned surface handle
    (beside.ahead.known handle (List.mem_of_getElem? found)) other

theorem surface_live_shown (shown : full.Shows surface log part) :
    full.pool.isSurfaceLive surface = part.pool.isSurfaceLive surface := by
  rw [Pool.isSurfaceLive, Pool.isSurfaceLive]
  rcases rel_cases _ _ _ (shown_entries surface _ full.pool part.pool shown.pool) with
    ⟨ahead, behind⟩ | ⟨larger, smaller, ahead, behind, echoes⟩
  · rw [ahead, behind]
    rfl
  · rw [ahead, behind]
    exact mirrors_live _ full.pool part.pool larger smaller shown.pool.toMirrors echoes

theorem shown_more (shown : full.Shows surface log part) (handle : Handle) :
    List.Forall₂ (Handle.Echoes (slotsOf surface (log ++ [handle]))) (full.handles.filter (Handle.belongs surface))
      part.handles := by
  rw [slots_of_append]
  exact shown.handles.imp fun larger smaller => echoes_more _ _ larger smaller

theorem acquire_own (beside : Beside surface log partLog full part) (target : Surface) (own : target.id = surface) :
    Match surface (log ++ (full.pool.acquire target).1.toOption.toList) (full.acquire target) (part.acquire target) := by
  have shown := beside.shown
  have pools := (release_surface_own surface _ full.pool part.pool shown.pool).2
  rw [acquire, acquire, acquire_planless full.pool target beside.ahead.planless,
    acquire_planless part.pool target beside.behind.planless, own]
  cases target.supports Pool.requiredCapability with
  | false =>
      refine ⟨rfl, ?_⟩
      change Shows surface (log ++ []) _ _
      rw [List.append_nil]
      exact shows_pool shown _ _ pools
  | true =>
      -- One lease for each slot there ever was, so both lists grow at the same place.
      have count : (full.leases.map Option.isSome).length = (full.pool.releaseSurface surface).2.slots.length := by
        have numbered := congrArg List.length beside.ahead.owned.numbered
        rw [List.length_map, beside.ahead.count, release_surface_size]
        simpa using numbered
      have places : slotsOf surface (log ++ [(full.pool.releaseSurface surface).2.newHandle surface]) =
          slotsOf surface log ++ [(full.pool.releaseSurface surface).2.slots.length] := by
        rw [slots_of_append]
        simp [Pool.newHandle]
      change Match surface (log ++ [(full.pool.releaseSurface surface).2.newHandle surface]) _ _
      refine ⟨rfl, shown.managed, ?_, ?_, shown_more shown _⟩
      all_goals rw [places]
      · exact brought_own surface _ _ _ target own pools
      · change Picks _ ((full.leases ++ [some _]).map Option.isSome) ((part.leases ++ [some _]).map Option.isSome)
        rw [List.map_append, List.map_append, ← count]
        exact picks_push shown.leases true

theorem acquire_other (beside : Beside surface log partLog full part) (target : Surface) (different : target.id ≠ surface) :
    (full.acquire target).2.Shows surface (log ++ (full.pool.acquire target).1.toOption.toList) part := by
  have shown := beside.shown
  have pools := release_surface_other surface _ full.pool part.pool target.id (registered_apart beside) different shown.pool
  rw [acquire, acquire_planless full.pool target beside.ahead.planless]
  cases target.supports Pool.requiredCapability with
  | false =>
      change Shows surface (log ++ []) _ _
      rw [List.append_nil]
      exact shows_pool shown _ part.pool pools
  | true =>
      have places : slotsOf surface (log ++ [(full.pool.releaseSurface target.id).2.newHandle target.id]) =
          slotsOf surface log := by
        rw [slots_of_append]
        simp [Pool.newHandle, different]
      change Shows surface (log ++ [(full.pool.releaseSurface target.id).2.newHandle target.id]) _ _
      refine ⟨shown.managed, ?_, ?_, shown_more shown _⟩
      all_goals rw [places]
      · exact brought_other surface _ _ _ target different pools
      · change Picks _ ((full.leases ++ [some _]).map Option.isSome) (part.leases.map Option.isSome)
        rw [List.map_append]
        exact picks_push_elsewhere shown.leases true

theorem managing_matches (shown : full.Shows surface log part) (more : List Handle) (use partUse : Answer × Bench)
    (unmanaged : full.managed = false → more = []) (used : full.managed = true → Match surface (log ++ more) use partUse) :
    Match surface (log ++ more) (full.managing use) (part.managing partUse) := by
  unfold managing
  rw [← shown.managed]
  cases managed : full.managed with
  | false =>
      rw [unmanaged managed, List.append_nil]
      exact ⟨rfl, shown⟩
  | true => exact used managed

theorem perform_kept (beside : Beside surface log partLog full part) (action kept : Action)
    (narrow : full.narrowed surface log action = some kept) :
    Match surface (log ++ full.issued action) (full.perform action) (part.perform kept) := by
  have shown := beside.shown
  have unissued : ∀ ahead behind, Match surface log ahead behind → Match surface (log ++ []) ahead behind := by
    intro ahead behind matched
    rwa [List.append_nil]
  have managing := fun use partUse (used : Match surface log use partUse) =>
    managing_matches shown [] use partUse (fun _ => rfl) (fun _ => unissued use partUse used)
  cases action with
  | acquire target =>
      obtain ⟨own, rfl⟩ : target.id = surface ∧ Action.acquire target = kept := by simpa [narrowed] using narrow
      apply managing_matches shown
      · intro unmanaged
        simp [issued, unmanaged]
      · intro managed
        simpa [issued, managed] using acquire_own beside target own
  | releaseSurface other =>
      obtain ⟨rfl, rfl⟩ : other = surface ∧ Action.releaseSurface other = kept := by simpa [narrowed] using narrow
      obtain ⟨flags, pools⟩ := release_surface_own other _ full.pool part.pool shown.pool
      exact managing _ _ ⟨congrArg Answer.flag flags, shows_pool shown _ _ pools⟩
  | askLive other =>
      obtain ⟨rfl, rfl⟩ : other = surface ∧ Action.askLive other = kept := by simpa [narrowed] using narrow
      exact managing _ _ ⟨congrArg Answer.flag (surface_live_shown shown), shown⟩
  | releaseAll =>
      cases narrow
      have pools := release_all_shown surface _ full.pool part.pool (registered_apart beside) shown.pool
      exact managing _ _ ⟨rfl, shows_pool shown _ _ pools⟩
  | retire =>
      cases narrow
      have pools := release_all_shown surface _ full.pool part.pool (registered_apart beside) shown.pool
      exact managing _ _ ⟨rfl, rfl, pools, shown.leases, shown.handles⟩
  | releaseLease index =>
      obtain ⟨handle, found, own, rfl⟩ := renumbered_some _ _ _ _ _ narrow
      exact unissued _ _ (lease_matches beside index handle _ _ found own (release_matches shown handle))
  | dropLease index =>
      obtain ⟨handle, found, own, rfl⟩ := renumbered_some _ _ _ _ _ narrow
      have place := slots_of_own full.pool log beside.ahead.owned surface index handle found own
      refine unissued _ _ (lease_matches beside index handle _ _ found own ?_)
      intro other echoes
      exact ⟨rfl, give_up_shown (release_matches shown handle other echoes).shown index _ place⟩
  | forgetLease index =>
      obtain ⟨handle, found, own, rfl⟩ := renumbered_some _ _ _ _ _ narrow
      have place := slots_of_own full.pool log beside.ahead.owned surface index handle found own
      refine unissued _ _ (lease_matches beside index handle _ _ found own ?_)
      intro other _
      exact ⟨rfl, give_up_shown shown index _ place⟩
  | share index =>
      obtain ⟨handle, found, own, rfl⟩ := renumbered_some _ _ _ _ _ narrow
      exact unissued _ _ (lease_matches beside index handle _ _ found own fun other =>
        add_handle_matches shown handle other own)
  | copyHandle index =>
      obtain ⟨handle, found, own, rfl⟩ := renumbered_some _ _ _ _ _ narrow
      exact unissued _ _ (handle_matches beside index handle _ _ found own fun other =>
        add_handle_matches shown handle other own)
  | releaseHandle index =>
      obtain ⟨handle, found, own, rfl⟩ := renumbered_some _ _ _ _ _ narrow
      exact unissued _ _ (handle_matches beside index handle _ _ found own (release_matches shown handle))
  | command index command =>
      obtain ⟨handle, found, own, rfl⟩ := renumbered_some surface full.handles index (.command · command) kept narrow
      refine unissued _ _ (handle_matches beside index handle _ _ found own ?_)
      intro other echoes
      have worked := with_engine_worked _ full.pool part.pool handle other _ (appending_command command)
        shown.pool.toMirrors echoes
      generalize full.pool.withEngine handle _ = ahead at worked ⊢
      generalize part.pool.withEngine other _ = behind at worked ⊢
      cases worked with
      | missed =>
          refine ⟨?_, shown⟩
          rw [Handle.stale, echoes.surface, Handle.stale]
      | done answer fullNext partNext abreast =>
          exact ⟨rfl, shows_pool shown _ _ (shows_abreast surface _ _ _ _ _ shown.pool abreast)⟩
  | sync index graph =>
      obtain ⟨handle, found, own, rfl⟩ := renumbered_some surface full.handles index (.sync · graph) kept narrow
      refine unissued _ _ (handle_matches beside index handle _ _ found own ?_)
      intro other echoes
      obtain ⟨answers, abreast⟩ := sync_abreast _ full.pool part.pool handle other graph shown.pool.toMirrors echoes
      refine ⟨congrArg (fun answer => (Answer.ofResult answer).plain) answers, ?_⟩
      exact shows_pool shown _ _ (shows_abreast surface _ _ _ _ _ shown.pool abreast)
  | _ => cases narrow

theorem perform_left_out (beside : Beside surface log partLog full part) (action : Action)
    (direct : action.isDirect = true) (narrow : full.narrowed surface log action = none) :
    (full.perform action).2.Shows surface (log ++ full.issued action) part := by
  have shown := beside.shown
  have unissued : ∀ next : Bench, next.Shows surface log part → next.Shows surface (log ++ []) part := by
    intro next kept
    rwa [List.append_nil]
  cases action with
  | acquire target =>
      have different : target.id ≠ surface := by simpa [narrowed] using narrow
      cases managed : full.managed with
      | true => simpa [perform, Bench.managing, issued, managed] using acquire_other beside target different
      | false => simpa [perform, Bench.managing, issued, managed] using shown
  | releaseSurface other =>
      have different : other ≠ surface := by simpa [narrowed] using narrow
      have pools := release_surface_other surface _ full.pool part.pool other (registered_apart beside) different shown.pool
      exact unissued _ (managing_found (Shows surface log · part) full _ shown fun _ => shows_pool shown _ part.pool pools)
  | askLive other => exact unissued _ (managing_found (Shows surface log · part) full _ shown fun _ => shown)
  | releaseAll => cases narrow
  | retire => cases narrow
  | releaseLease index =>
      refine unissued _ (with_lease_found (Shows surface log · part) full index _ shown ?_)
      intro lease found
      exact release_apart shown lease (lease_apart beside index lease (renumbered_none _ _ _ _ narrow) found).2.1
  | dropLease index =>
      refine unissued _ (with_lease_found (Shows surface log · part) full index _ shown ?_)
      intro lease found
      obtain ⟨_, slot, place⟩ := lease_apart beside index lease (renumbered_none _ _ _ _ narrow) found
      exact give_up_apart (release_apart shown lease slot) index place
  | forgetLease index =>
      refine unissued _ (with_lease_found (Shows surface log · part) full index _ shown ?_)
      intro lease found
      exact give_up_apart shown index (lease_apart beside index lease (renumbered_none _ _ _ _ narrow) found).2.2
  | share index =>
      refine unissued _ (with_lease_found (Shows surface log · part) full index _ shown ?_)
      intro lease found
      exact add_handle_apart shown lease (lease_apart beside index lease (renumbered_none _ _ _ _ narrow) found).1
  | copyHandle index =>
      refine unissued _ (with_handle_found (Shows surface log · part) full index _ shown ?_)
      intro handle found
      exact add_handle_apart shown handle (renumbered_none _ _ _ _ narrow handle found)
  | releaseHandle index =>
      refine unissued _ (with_handle_found (Shows surface log · part) full index _ shown ?_)
      intro handle found
      exact release_apart shown handle (handle_apart beside index handle (renumbered_none _ _ _ _ narrow handle found) found)
  | command index command =>
      refine unissued _ (with_handle_found (Shows surface log · part) full index _ shown ?_)
      intro handle found
      have other := renumbered_none surface full.handles index (.command · command) narrow handle found
      have apart := handle_apart beside index handle other found
      cases done : full.pool.withEngine handle fun rig => rig.perform command with
      | none => exact shown
      | some result =>
          exact shows_elsewhere_pool shown result.2 (fades_with_engine full.pool result.2 handle _ result.1 done)
            (with_engine_elsewhere _ full.pool part.pool result.2 handle _ result.1 done shown.pool.toMirrors apart)
  | sync index graph =>
      refine unissued _ (with_handle_found (Shows surface log · part) full index _ shown ?_)
      intro handle found
      have other := renumbered_none surface full.handles index (.sync · graph) narrow handle found
      have apart := handle_apart beside index handle other found
      exact shows_elsewhere_pool shown _ (fades_sync full.pool handle graph)
        (sync_elsewhere _ full.pool part.pool handle graph shown.pool.toMirrors apart)
  | _ => cases direct

theorem issued_alone (action kept : Action) (narrow : full.narrowed surface log action = some kept) (handle : Handle)
    (member : handle ∈ part.issued kept) : handle.surface = surface := by
  cases kept with
  | acquire target =>
      have own : target.id = surface := by
        cases action with
        | acquire other =>
            obtain ⟨own, rfl⟩ : other.id = surface ∧ other = target := by simpa [narrowed] using narrow
            exact own
        | _ => simp [narrowed, renumbered] at narrow
      rw [← own]
      apply acquired_surface part.pool target handle
      cases managed : part.managed <;> simp_all [issued]
  | _ => cases member

theorem beside_kept (beside : Beside surface log partLog full part) (action kept : Action)
    (narrow : full.narrowed surface log action = some kept) :
    Beside surface (log ++ full.issued action) (partLog ++ part.issued kept) (full.perform action).2
      (part.perform kept).2 := by
  refine ⟨perform_orderly full log action beside.ahead, perform_orderly part partLog kept beside.behind, ?_,
    (perform_kept beside action kept narrow).shown⟩
  intro handle member
  rcases List.mem_append.mp member with before | fresh
  · exact beside.alone handle before
  · exact issued_alone action kept narrow handle fresh

theorem beside_left_out (beside : Beside surface log partLog full part) (action : Action)
    (direct : action.isDirect = true) (narrow : full.narrowed surface log action = none) :
    Beside surface (log ++ full.issued action) partLog (full.perform action).2 part :=
  ⟨perform_orderly full log action beside.ahead, beside.behind, beside.alone, perform_left_out beside action direct narrow⟩

end Steps

def excerpt (surface : SurfaceId) : Bench → List Handle → List Action → List (Action × Answer)
  | _, _, [] => []
  | bench, log, action :: rest =>
    let later := excerpt surface (bench.perform action).2 (log ++ bench.issued action) rest
    match bench.narrowed surface log action with
    | some kept => (kept, (bench.perform action).1) :: later
    | none => later

theorem excerpt_beside (surface : SurfaceId) (log partLog : List Handle) (full part : Bench) (actions : List Action)
    (direct : ∀ action ∈ actions, action.isDirect = true) (beside : Beside surface log partLog full part) :
    let excerpt := excerpt surface full log actions
    let alone := excerpt.map Prod.fst
    (History.run perform part alone).1.map Answer.plain = excerpt.map (fun entry => entry.2.plain) ∧
      Beside surface (log ++ full.acquired actions) (partLog ++ part.acquired alone) (History.final perform full actions)
        (History.final perform part alone) := by
  induction actions generalizing log partLog full part with
  | nil =>
      simpa [excerpt, acquired] using beside
  | cons action rest ih =>
      have later : ∀ action ∈ rest, action.isDirect = true := fun other member => direct other (by simp [member])
      dsimp only at ih ⊢
      rw [excerpt, acquired, ← List.append_assoc]
      cases narrow : full.narrowed surface log action with
      | none =>
          have apart := beside_left_out beside action (direct action (by simp)) narrow
          exact ih _ _ _ _ later apart
      | some kept =>
          obtain ⟨answers, last⟩ := ih _ _ _ _ later (beside_kept beside action kept narrow)
          have answer := (perform_kept beside action kept narrow).answer
          simpa [acquired, answer, answers] using last

structure View where
  leases : List (Option Bool)
  handles : List Bool
  engines : List (Option Slot)

def view (surface : SurfaceId) (log : List Handle) (bench : Bench) : View where
  leases := (slotsOf surface log).map fun index => (bench.leases[index]?.getD none).map bench.pool.isLive
  handles := (bench.handles.filter (Handle.belongs surface)).map bench.pool.isLive
  engines := (slotsOf surface log).map (bench.pool.slots[·]?)

theorem beside_view (surface : SurfaceId) (log partLog : List Handle) (full part : Bench)
    (beside : Beside surface log partLog full part) : full.view surface log = part.view surface partLog := by
  have shown := beside.shown
  have live := fun larger smaller => mirrors_live _ full.pool part.pool larger smaller shown.pool.toMirrors
  have slots : slotsOf surface partLog = List.range part.pool.slots.length := by
    have whole : partLog.filter (Handle.belongs surface) = partLog := by
      rw [List.filter_eq_self]
      intro handle member
      exact (belongs_iff surface handle).mpr (beside.alone handle member)
    rw [slotsOf, whole, beside.behind.owned.numbered]
  have handles : (full.handles.filter (Handle.belongs surface)).map full.pool.isLive =
      (part.handles.filter (Handle.belongs surface)).map part.pool.isLive := by
    rw [echoed_belong surface _ _ _ shown.handles, ← List.forall₂_eq_eq_eq, List.forall₂_map_left_iff,
      List.forall₂_map_right_iff]
    exact shown.handles.imp live
  have count : (slotsOf surface log).length = part.pool.slots.length := (picks_length shown.pool.picks).symm
  have leases : (slotsOf surface log).map (fun index => (full.leases[index]?.getD none).map full.pool.isLive) =
      (List.range part.pool.slots.length).map (fun index => (part.leases[index]?.getD none).map part.pool.isLive) := by
    apply List.ext_getElem?
    intro place
    rw [List.getElem?_map, List.getElem?_map]
    cases placed : (slotsOf surface log)[place]? with
    | none =>
        rw [List.getElem?_eq_none_iff, count] at placed
        simp [placed]
    | some index =>
        have inside : place < part.pool.slots.length := count ▸ (List.getElem?_eq_some_iff.mp placed).1
        rw [List.getElem?_range inside, Option.map_some, Option.map_some]
        rcases beside_lease beside place index placed with ⟨here, there⟩ | ⟨handle, other, here, there, _, echoes⟩
        · rw [here, there]
          rfl
        · rw [here, there]
          exact congrArg (fun flag => some (some flag)) (live handle other echoes)
  have engines : (slotsOf surface log).map (full.pool.slots[·]?) =
      (List.range part.pool.slots.length).map (part.pool.slots[·]?) := by
    rw [← shown.pool.picks]
    apply List.ext_getElem?
    intro place
    by_cases inside : place < part.pool.slots.length <;> simp [inside]
  simp only [view, slots, handles, leases, engines]

end Bench

theorem surfaces_do_not_interfere (surface : SurfaceId) (actions : List Bench.Action)
    (direct : ∀ action ∈ actions, action.isDirect = true) :
    let excerpt := Bench.excerpt surface (.create []) [] actions
    let alone := excerpt.map Prod.fst
    (History.run Bench.perform (.create []) alone).1.map Bench.Answer.plain =
        excerpt.map (fun entry => entry.2.plain) ∧
      (History.final Bench.perform (.create []) actions).view surface ((Bench.create []).acquired actions) =
        (History.final Bench.perform (.create []) alone).view surface ((Bench.create []).acquired alone) := by
  intro excerpt alone
  have orderly : (Bench.create []).Orderly [] :=
    ⟨⟨owned_create [], by simp [Bench.create]⟩, ⟨by simp [Bench.create], rfl, by simp [Bench.create]⟩, rfl⟩
  have shown : (Bench.create []).Shows surface [] (Bench.create []) :=
    ⟨rfl, ⟨⟨List.nodup_nil, rfl⟩, .nil⟩, rfl, .nil⟩
  obtain ⟨answers, last⟩ := Bench.excerpt_beside surface [] [] (.create []) (.create []) actions direct
    ⟨orderly, orderly, by simp, shown⟩
  exact ⟨answers, Bench.beside_view surface _ _ _ _ last⟩

def leftSurface : Surface := (Surface.create "#left" ⟨800, 600⟩).withCapability .webGl2

def rightSurface : Surface := (Surface.create "#right" ⟨800, 600⟩).withCapability .webGl2

def crossedActions : List Bench.Action :=
  -- the left engine is replaced and its lease dropped, everything is released, and one right lease is forgotten.
  [.acquire leftSurface, .acquire rightSurface, .share 0, .share 1, .command 1 (.setViewport ⟨3, 4⟩), .acquire leftSurface,
    .command 0 .renderFrame, .forgetLease 1, .dropLease 2, .command 1 .renderFrame, .askLive rightSurface.id, .releaseAll,
    .acquire rightSurface, .releaseLease 3, .releaseHandle 1]

theorem surfaces_do_not_interfere_crossed :
    let excerpt := Bench.excerpt rightSurface.id (.create []) [] crossedActions
    let alone : List Bench.Action :=
      [.acquire rightSurface, .share 0, .command 0 (.setViewport ⟨3, 4⟩), .forgetLease 0, .command 0 .renderFrame,
        .askLive rightSurface.id, .releaseAll, .acquire rightSurface, .releaseLease 1, .releaseHandle 0]
    excerpt.map Prod.fst = alone ∧
      (History.run Bench.perform (.create []) alone).1.map Bench.Answer.plain =
        excerpt.map (fun entry => entry.2.plain) ∧
      (History.final Bench.perform (.create []) crossedActions).view rightSurface.id
          ((Bench.create []).acquired crossedActions) =
        (History.final Bench.perform (.create []) alone).view rightSurface.id ((Bench.create []).acquired alone) :=
  ⟨rfl, surfaces_do_not_interfere rightSurface.id crossedActions (by decide)⟩

end Plotter
