import Plotter.Proofs.Accounting
import Plotter.Proofs.Echoes

set_option autoImplicit false

namespace Plotter

def Handle.belongs (surface : SurfaceId) (handle : Handle) : Bool := handle.surface = surface

theorem belongs_iff (surface : SurfaceId) (handle : Handle) :
    handle.belongs surface = true ↔ handle.surface = surface := by
  simp [Handle.belongs]

def rank {α : Type} (keep : α → Bool) (items : List α) (index : Nat) : Nat := (items.take index).countP keep

theorem rank_get {α : Type} (keep : α → Bool) (items : List α) (index : Nat) (item : α)
    (found : items[index]? = some item) (kept : keep item = true) :
    (items.filter keep)[rank keep items index]? = some item := by
  induction items generalizing index with
  | nil => simp at found
  | cons first rest ih =>
      cases index with
      | zero =>
          cases found
          simp [rank, kept]
      | succ index =>
          have later := ih index found
          cases leading : keep first <;> simpa [rank, leading] using later

def slotsOf (surface : SurfaceId) (log : List Handle) : List Nat :=
  (log.filter (Handle.belongs surface)).map Handle.slot

section Logs

variable (pool : Pool) (log : List Handle) (owned : Owned pool log)
include owned

theorem owned_log_index (index : Nat) (handle : Handle) (found : log[index]? = some handle) : handle.slot = index := by
  have same := congrArg (·[index]?) owned.numbered
  simp only [List.getElem?_map, found, Option.map_some] at same
  obtain ⟨_, value⟩ := List.getElem?_eq_some_iff.mp same.symm
  simpa using value.symm

theorem slots_of_own (surface : SurfaceId) (index : Nat) (handle : Handle) (found : log[index]? = some handle)
    (own : handle.surface = surface) :
    (slotsOf surface log)[rank (Handle.belongs surface) log index]? = some index := by
  rw [slotsOf, List.getElem?_map, rank_get _ log index handle found ((belongs_iff surface handle).mpr own),
    Option.map_some, owned_log_index pool log owned index handle found]

theorem slots_of_found (surface : SurfaceId) (place index : Nat) (placed : (slotsOf surface log)[place]? = some index) :
    ∃ handle, log[index]? = some handle ∧ handle.surface = surface := by
  rw [slotsOf, List.getElem?_map, Option.map_eq_some_iff] at placed
  obtain ⟨handle, kept, rfl⟩ := placed
  obtain ⟨member, own⟩ := List.mem_filter.mp (List.mem_of_getElem? kept)
  obtain ⟨index, found⟩ := List.mem_iff_getElem?.mp member
  refine ⟨handle, ?_, (belongs_iff surface handle).mp own⟩
  rw [owned_log_index pool log owned index handle found, found]

theorem slots_of_other (surface : SurfaceId) (handle : Handle) (member : handle ∈ log) (other : handle.surface ≠ surface) :
    handle.slot ∉ slotsOf surface log := by
  intro inside
  obtain ⟨twin, kept, same⟩ := List.mem_map.mp inside
  obtain ⟨twinMember, own⟩ := List.mem_filter.mp kept
  have equal := owned_same_slot pool log owned twin handle twinMember member same
  subst equal
  exact other ((belongs_iff surface twin).mp own)

end Logs

@[simp] theorem slots_of_append (surface : SurfaceId) (log : List Handle) (handle : Handle) :
    slotsOf surface (log ++ [handle]) =
      slotsOf surface log ++ if handle.surface = surface then [handle.slot] else [] := by
  by_cases own : handle.surface = surface <;> simp [slotsOf, Handle.belongs, own]

structure Pool.Shows (surface : SurfaceId) (places : List Nat) (full part : Pool) : Prop extends
    Pool.Mirrors places full part where
  registered : List.Forall₂ (Handle.Echoes places) (full.registered.filter (Handle.belongs surface)) part.registered

theorem echoed_belong (surface : SurfaceId) (places : List Nat) (handles others : List Handle)
    (related : List.Forall₂ (Handle.Echoes places) (handles.filter (Handle.belongs surface)) others) :
    others.filter (Handle.belongs surface) = others := by
  rw [List.filter_eq_self]
  intro handle member
  obtain ⟨index, found⟩ := List.mem_iff_getElem?.mp member
  rcases forall_cases _ _ _ related index with ⟨_, missing⟩ | ⟨larger, smaller, ahead, behind, echoes⟩
  · rw [found] at missing
    cases missing
  · rw [found] at behind
    cases behind
    rw [belongs_iff, ← echoes.surface, ← belongs_iff]
    exact (List.mem_filter.mp (List.mem_of_getElem? ahead)).2

section Pools

variable (surface : SurfaceId) (places : List Nat) (full part : Pool)

theorem shows_abreast (fullNext partNext : Pool) (shown : full.Shows surface places part)
    (abreast : Pool.Abreast places full part fullNext partNext) : fullNext.Shows surface places partNext := by
  refine ⟨abreast.mirrors, ?_⟩
  rw [abreast.registered.1, abreast.registered.2]
  exact shown.registered

theorem release_elsewhere (handle : Handle) (mirrors : full.Mirrors places part) (apart : handle.slot ∉ places) :
    (full.release handle).2.Mirrors places part := by
  rw [Pool.release]
  cases full.engine? handle with
  | none => exact mirrors
  | some engine => exact ⟨mirrors.distinct, picks_set_elsewhere mirrors.picks handle.slot _ apart⟩

theorem with_engine_elsewhere {α : Type} (next : Pool) (handle : Handle) (action : Rig → α × Rig) (answer : α)
    (done : full.withEngine handle action = some (answer, next)) (mirrors : full.Mirrors places part)
    (apart : handle.slot ∉ places) : next.Mirrors places part := by
  obtain ⟨engine, rig, _, _, rfl⟩ := with_engine_some full next handle action answer done
  exact ⟨mirrors.distinct, picks_set_elsewhere mirrors.picks handle.slot _ apart⟩

theorem shows_elsewhere (next : Pool) (fades : next.Fades full) (mirrors : next.Mirrors places part)
    (shown : full.Shows surface places part) : next.Shows surface places part := by
  refine ⟨mirrors, ?_⟩
  rw [fades.registered]
  exact shown.registered

theorem shown_entries (shown : full.Shows surface places part) :
    Option.Rel (Handle.Echoes places) (full.entry surface) (part.entry surface) := by
  have whole := echoed_belong surface places _ _ shown.registered
  have ahead : full.entry surface = (full.registered.filter (Handle.belongs surface)).head? := List.head?_filter.symm
  have behind : part.entry surface = part.registered.head? := by
    rw [← whole, List.head?_filter]
    rfl
  rw [ahead, behind, List.head?_eq_getElem?, List.head?_eq_getElem?]
  rcases forall_cases _ _ _ shown.registered 0 with ⟨missing, none⟩ | ⟨larger, smaller, first, second, echoes⟩
  · rw [missing, none]
    exact .none
  · rw [first, second]
    exact .some echoes

theorem release_surface_own (shown : full.Shows surface places part) :
    (full.releaseSurface surface).1 = (part.releaseSurface surface).1 ∧
      (full.releaseSurface surface).2.Shows surface places (part.releaseSurface surface).2 := by
  -- After the release no handle of the surface is registered in either pool, found or not.
  have emptied : ∀ handles : List Handle,
      (handles.filter fun other => other.surface ≠ surface).filter (Handle.belongs surface) = [] := by
    intro handles
    rw [List.filter_filter, List.filter_eq_nil_iff]
    simp [Handle.belongs]
  have emptiedPart : (part.registered.filter fun other => other.surface ≠ surface) = [] := by
    rw [← echoed_belong surface places _ _ shown.registered, List.filter_filter, List.filter_eq_nil_iff]
    simp [Handle.belongs]
  have registered : List.Forall₂ (Handle.Echoes places)
      ((full.releaseSurface surface).2.registered.filter (Handle.belongs surface))
      (part.releaseSurface surface).2.registered := by
    simp only [release_surface_registered, emptied, emptiedPart]
    exact .nil
  rcases rel_cases _ _ _ (shown_entries surface places full part shown) with
    ⟨ahead, behind⟩ | ⟨larger, smaller, ahead, behind, echoes⟩
  · rw [release_surface_missing full surface ahead, release_surface_missing part surface behind] at registered ⊢
    exact ⟨rfl, shown.toMirrors, registered⟩
  · rw [release_surface_found full surface larger ahead, release_surface_found part surface smaller behind] at registered ⊢
    have mirrors : Pool.Mirrors places
        { full with registered := full.registered.filter fun other => other.surface ≠ surface }
        { part with registered := part.registered.filter fun other => other.surface ≠ surface } :=
      ⟨shown.distinct, shown.picks⟩
    obtain ⟨flags, abreast⟩ := release_abreast places _ _ larger smaller mirrors echoes
    exact ⟨flags, abreast.mirrors, registered⟩

theorem release_surface_other (other : SurfaceId) (apart : ∀ handle ∈ full.registered, handle.surface ≠ surface →
    handle.slot ∉ places) (different : other ≠ surface) (shown : full.Shows surface places part) :
    (full.releaseSurface other).2.Shows surface places part := by
  have kept : ((full.releaseSurface other).2.registered.filter (Handle.belongs surface)) =
      full.registered.filter (Handle.belongs surface) := by
    rw [release_surface_registered, List.filter_filter]
    apply List.filter_congr
    intro handle _
    by_cases own : handle.surface = surface <;> simp [Handle.belongs, own, different.symm]
  refine ⟨?_, kept ▸ shown.registered⟩
  cases found : full.entry other with
  | none =>
      rw [release_surface_missing full other found]
      exact shown.toMirrors
  | some handle =>
      obtain ⟨named, member⟩ := entry_surface full other handle found
      rw [release_surface_found full other handle found]
      exact release_elsewhere places _ part handle ⟨shown.distinct, shown.picks⟩
        (apart handle member (named.trans_ne different))

theorem release_each_shown (handles others : List Handle)
    (apart : ∀ handle ∈ handles, handle.surface ≠ surface → handle.slot ∉ places)
    (related : List.Forall₂ (Handle.Echoes places) (handles.filter (Handle.belongs surface)) others)
    (mirrors : full.Mirrors places part) :
    (full.releaseEach handles).2.Mirrors places (part.releaseEach others).2 := by
  -- On the handles of the full pool; those of other surfaces leave the other list as it is.
  induction handles generalizing full part others with
  | nil =>
      cases related
      exact mirrors
  | cons handle rest ih =>
      have later : ∀ other ∈ rest, other.surface ≠ surface → other.slot ∉ places := fun other member =>
        apart other (List.mem_cons_of_mem handle member)
      by_cases own : handle.surface = surface
      · rw [List.filter_cons_of_pos ((belongs_iff surface handle).mpr own)] at related
        cases related with
        | @cons _ smaller _ remaining echoes related =>
            have released := (release_abreast places full part handle smaller mirrors echoes).2
            exact ih _ _ remaining later related released.mirrors
      · rw [List.filter_cons_of_neg (by simpa [Handle.belongs] using own)] at related
        have released := release_elsewhere places full part handle mirrors (apart handle (by simp) own)
        exact ih _ _ others later related released

theorem release_all_shown (apart : ∀ handle ∈ full.registered, handle.surface ≠ surface → handle.slot ∉ places)
    (shown : full.Shows surface places part) : full.releaseAll.2.Shows surface places part.releaseAll.2 := by
  refine ⟨?_, ?_⟩
  · exact release_each_shown surface places { full with registered := [] } { part with registered := [] } full.registered
      part.registered apart shown.registered ⟨shown.distinct, shown.picks⟩
  · simp

theorem sync_elsewhere (handle : Handle) (graph : Graph) (mirrors : full.Mirrors places part)
    (apart : handle.slot ∉ places) : (full.sync handle graph).2.Mirrors places part :=
  sync_found (·.Mirrors places part) full handle graph mirrors fun answer next done =>
    with_engine_elsewhere places full part next handle _ answer done mirrors apart

theorem brought_own (target : Surface) (own : target.id = surface) (shown : full.Shows surface places part) :
    (full.brought target none).Shows surface (places ++ [full.slots.length]) (part.brought target none) := by
  obtain ⟨mirrors, echoes⟩ := mirrors_brought places full part target none shown.toMirrors
  have kept : (full.brought target none).registered.filter (Handle.belongs surface) =
      full.registered.filter (Handle.belongs surface) ++ [full.newHandle target.id] := by
    simp [Handle.belongs, own]
  refine ⟨mirrors, ?_⟩
  rw [kept]
  exact List.rel_append (shown.registered.imp fun larger smaller => echoes_more places _ larger smaller)
    (.cons echoes .nil)

theorem brought_other (target : Surface) (different : target.id ≠ surface) (shown : full.Shows surface places part) :
    (full.brought target none).Shows surface places part := by
  have kept : (full.brought target none).registered.filter (Handle.belongs surface) =
      full.registered.filter (Handle.belongs surface) := by
    simp [Handle.belongs, different]
  exact ⟨⟨shown.distinct, picks_push_elsewhere shown.picks _⟩, kept ▸ shown.registered⟩

end Pools

theorem planless_preserved : Pool.Preserved fun pool => pool.plan = [] where
  release := by
    intro pool handle planless
    simpa using planless
  work := by
    intro _ pool next handle action answer _ done planless
    obtain ⟨engine, rig, _, _, rfl⟩ := with_engine_some pool next handle action answer done
    exact planless
  forget := fun _ _ planless => planless
  settle := by
    intro pool surface answer next outcome planless
    cases outcome <;> simp [planless]

theorem acquire_planless (pool : Pool) (target : Surface) (planless : pool.plan = []) :
    pool.acquire target =
      if target.supports Pool.requiredCapability then
        (.ok ((pool.releaseSurface target.id).2.newHandle target.id), (pool.releaseSurface target.id).2.brought target none)
      else
        (.error (.unsupported target.id.name Pool.requiredCapability.label), (pool.releaseSurface target.id).2) := by
  have cleared := release_surface_keeps _ planless_preserved.toTurnover pool target.id planless
  have next : (pool.releaseSurface target.id).2.nextProvision = Provision.starting none := by
    rw [Pool.nextProvision, cleared]
    rfl
  rw [Pool.acquire]
  split
  · rename_i supported
    exact bring_up_started _ target none supported next
  · rename_i lacking
    exact bring_up_lacking _ target (by simpa using lacking)

theorem acquired_surface (pool : Pool) (target : Surface) (handle : Handle)
    (member : handle ∈ (pool.acquire target).1.toOption.toList) : handle.surface = target.id := by
  have outcome := acquire_cases pool target
  generalize pool.acquire target = result at outcome member
  cases outcome with
  | started fault supported next =>
      rw [Except.toOption, Option.toList_some, List.mem_singleton] at member
      rw [member]
      rfl
  | _ => simp [Except.toOption] at member

namespace Bench

structure Listed (bench : Bench) (log : List Handle) : Prop where
  leased : ∀ (index : Nat) (handle : Handle), bench.leases[index]? = some (some handle) → log[index]? = some handle
  count : bench.leases.length = log.length
  known : ∀ handle ∈ bench.handles, handle ∈ log

structure Orderly (bench : Bench) (log : List Handle) : Prop extends Sound bench log, Listed bench log where
  planless : bench.pool.plan = []

theorem listed_issue (bench : Bench) (log : List Handle) (pool : Pool) (handle : Handle) (listed : bench.Listed log) :
    Listed { bench with pool := pool, leases := bench.leases ++ [some handle] } (log ++ [handle]) := by
  refine ⟨?_, by simp [listed.count], fun other member => List.mem_append_left _ (listed.known other member)⟩
  intro index other found
  by_cases inside : index < bench.leases.length
  · rw [List.getElem?_append_left inside] at found
    rw [List.getElem?_append_left (by rwa [← listed.count])]
    exact listed.leased index other found
  · rw [List.getElem?_append_right (by omega), listed.count] at found
    rw [List.getElem?_append_right (by have := listed.count; omega)]
    simpa [List.getElem?_singleton] using found

theorem listed_give_up (bench : Bench) (log : List Handle) (pool : Pool) (index : Nat) (listed : bench.Listed log) :
    Listed { bench with pool := pool, leases := bench.leases.set index none } log := by
  refine ⟨?_, by simp [listed.count], listed.known⟩
  intro other handle found
  by_cases same : index = other
  · subst other
    rw [List.getElem?_set_self'] at found
    cases there : bench.leases[index]? <;> simp [there] at found
  · rw [List.getElem?_set_ne same] at found
    exact listed.leased other handle found

theorem listed_handle (bench : Bench) (log : List Handle) (handle : Handle) (member : handle ∈ log)
    (listed : bench.Listed log) : (bench.addHandle handle).2.Listed log := by
  refine ⟨listed.leased, listed.count, ?_⟩
  intro other inside
  rcases List.mem_append.mp inside with before | last
  · exact listed.known other before
  · rwa [List.mem_singleton.mp last]

theorem listed_pool (bench : Bench) (log : List Handle) (pool : Pool) (managed : Bool) (listed : bench.Listed log) :
    Listed { bench with pool := pool, managed := managed } log :=
  ⟨listed.leased, listed.count, listed.known⟩

theorem acquire_listed (bench : Bench) (log : List Handle) (surface : Surface) (listed : bench.Listed log) :
    (bench.acquire surface).2.Listed (log ++ (bench.pool.acquire surface).1.toOption.toList) := by
  rw [acquire]
  generalize bench.pool.acquire surface = result
  obtain ⟨answer, pool⟩ := result
  cases answer with
  | error error =>
      rw [Except.toOption, Option.toList_none, List.append_nil]
      exact listed_pool bench log pool bench.managed listed
  | ok handle => exact listed_issue bench log pool handle listed

theorem perform_listed (bench : Bench) (log : List Handle) (action : Action) (listed : bench.Listed log) :
    (bench.perform action).2.Listed (log ++ bench.issued action) := by
  have unissued : ∀ next : Bench, next.Listed log → next.Listed (log ++ []) := by
    intro next kept
    rwa [List.append_nil]
  have pooled := fun pool managed => listed_pool bench log pool managed listed
  have other : ∀ next : Bench, next.leases = bench.leases → next.handles = bench.handles → next.Listed log := by
    intro next leases handles
    exact ⟨leases ▸ listed.leased, leases ▸ listed.count, handles ▸ listed.known⟩
  have leaseMember : ∀ (index : Nat) (lease : Handle), bench.leases[index]? = some (some lease) → lease ∈ log :=
    fun index lease found => List.mem_of_getElem? (listed.leased index lease found)
  have handleMember : ∀ (index : Nat) (handle : Handle), bench.handles[index]? = some handle → handle ∈ log :=
    fun index handle found => listed.known handle (List.mem_of_getElem? found)
  cases action with
  | acquire surface =>
      cases managed : bench.managed with
      | true => simpa [perform, managing, issued, managed] using acquire_listed bench log surface listed
      | false => simpa [perform, managing, issued, managed] using listed
  | releaseSurface surface => exact unissued _ (managing_found (Listed · log) bench _ listed fun _ => pooled _ _)
  | askLive surface => exact unissued _ (managing_found (Listed · log) bench _ listed fun _ => listed)
  | releaseAll => exact unissued _ (managing_found (Listed · log) bench _ listed fun _ => pooled _ _)
  | retire => exact unissued _ (managing_found (Listed · log) bench _ listed fun _ => pooled _ _)
  | releaseLease index => exact unissued _ (with_lease_found (Listed · log) bench index _ listed fun _ _ => pooled _ _)
  | dropLease index =>
      exact unissued _ (with_lease_found (Listed · log) bench index _ listed fun _ _ =>
        listed_give_up bench log _ index listed)
  | forgetLease index =>
      exact unissued _ (with_lease_found (Listed · log) bench index _ listed fun _ _ =>
        listed_give_up bench log _ index listed)
  | share index =>
      exact unissued _ (with_lease_found (Listed · log) bench index _ listed fun lease found =>
        listed_handle bench log lease (leaseMember index lease found) listed)
  | copyHandle index =>
      exact unissued _ (with_handle_found (Listed · log) bench index _ listed fun handle found =>
        listed_handle bench log handle (handleMember index handle found) listed)
  | releaseHandle index => exact unissued _ (with_handle_found (Listed · log) bench index _ listed fun _ _ => pooled _ _)
  | command index command =>
      exact unissued _ (command_found (Listed · log) bench index command listed fun _ _ _ _ => pooled _ _)
  | sync index graph => exact unissued _ (with_handle_found (Listed · log) bench index _ listed fun _ _ => pooled _ _)
  | createLoop factor => exact unissued _ (other _ rfl rfl)
  | createViewport viewport => exact unissued _ (other _ rfl rfl)
  | startLoop index handle =>
      refine unissued _ (with_loop_found (Listed · log) bench index _ listed ?_)
      intro frames _
      exact with_handle_found (Listed · log) bench handle _ listed fun _ _ => other _ rfl rfl
  | stopLoop index => exact unissued _ (with_loop_found (Listed · log) bench index _ listed fun _ _ => other _ rfl rfl)
  | tickLoop index target => exact unissued _ (with_loop_found (Listed · log) bench index _ listed fun _ _ => other _ rfl rfl)
  | runLoop index budget targets =>
      exact unissued _ (with_loop_found (Listed · log) bench index _ listed fun _ _ => other _ rfl rfl)
  | resizeViewport index handle size =>
      exact unissued _ (with_handle_found (Listed · log) bench handle _ listed fun target _ =>
        resize_viewport_found (Listed · log) bench index target size listed fun _ => other _ rfl rfl)

theorem perform_orderly (bench : Bench) (log : List Handle) (action : Action) (orderly : bench.Orderly log) :
    (bench.perform action).2.Orderly (log ++ bench.issued action) :=
  ⟨perform_sound bench log action orderly.toSound, perform_listed bench log action orderly.toListed,
    perform_keeps _ planless_preserved bench action orderly.planless⟩

end Bench

end Plotter
