import Plotter.Proofs.Coherence
import Plotter.Proofs.Echoes

/-!
Sessions in step. A session whose pool holds the engines of another one, among engines of its own that nobody will
use again, answers every operation as the other does and makes the same calls.
-/

set_option autoImplicit false

namespace Plotter

/-- Factories that answer alike from now on, though their plans may end at different places. -/
def PlansAlike (left right : List Provision) : Prop :=
  ∀ index : Nat, left[index]?.getD Provision.working = right[index]?.getD Provision.working

theorem alike_tail (left right : List Provision) (alike : PlansAlike left right) : PlansAlike left.tail right.tail := by
  intro index
  rw [List.getElem?_tail, List.getElem?_tail]
  exact alike (index + 1)

/-- The larger pool has made some calls before the other began, and all calls of the other since. -/
structure Pool.Follows (past : Journal) (places : List Nat) (full part : Pool) : Prop extends
    Pool.Mirrors places full part where
  journal : full.journal = past ++ part.journal
  plan : PlansAlike full.plan part.plan

theorem abreast_follows (past : Journal) (places : List Nat) (full part fullNext partNext : Pool)
    (follows : full.Follows past places part) (abreast : Pool.Abreast places full part fullNext partNext) :
    fullNext.Follows past places partNext := by
  obtain ⟨calls, larger, smaller⟩ := abreast.written
  refine ⟨abreast.mirrors, ?_, ?_⟩
  · rw [larger, smaller, follows.journal, Array.append_assoc]
  · rw [abreast.plans.1, abreast.plans.2]
    exact follows.plan

inductive Pool.BroughtUp (past : Journal) (places : List Nat) :
    Except InitError Handle × Pool → Except InitError Handle × Pool → Prop where
  | refused (error : InitError) (full part : Pool) (follows : full.Follows past places part) :
      BroughtUp past places (.error error, full) (.error error, part)
  | opened (place : Nat) (larger smaller : Handle) (full part : Pool)
      (follows : full.Follows past (places ++ [place]) part) (echoes : larger.Echoes (places ++ [place]) smaller) :
      BroughtUp past places (.ok larger, full) (.ok smaller, part)

theorem follows_brought (past : Journal) (places : List Nat) (full part : Pool) (surface : Surface)
    (fault : Option EngineFault) (follows : full.Follows past places part) :
    Pool.BroughtUp past places (.ok (full.newHandle surface.id), full.brought surface fault)
      (.ok (part.newHandle surface.id), part.brought surface fault) := by
  obtain ⟨mirrors, echoes⟩ := mirrors_brought places full part surface fault follows.toMirrors
  refine .opened full.slots.length _ _ _ _ ⟨mirrors, ?_, alike_tail _ _ follows.plan⟩ echoes
  simp [follows.journal]

theorem bring_up_follows (past : Journal) (places : List Nat) (full part : Pool) (surface : Surface)
    (follows : full.Follows past places part) :
    Pool.BroughtUp past places (full.bringUp surface) (part.bringUp surface) := by
  have next : full.nextProvision = part.nextProvision := by
    simpa [Pool.nextProvision, List.head?_eq_getElem?] using follows.plan 0
  have asked := alike_tail _ _ follows.plan
  cases supported : surface.supports Pool.requiredCapability with
  | false =>
      rw [bring_up_lacking full surface supported, bring_up_lacking part surface supported]
      exact .refused _ _ _ follows
  | true =>
      -- Both kinds of engine that start are one case, with or without a fault to come.
      have started (fault : Option EngineFault) (provision : part.nextProvision = Provision.starting fault) :
          Pool.BroughtUp past places (full.bringUp surface) (part.bringUp surface) := by
        rw [bring_up_started full surface fault supported (next.trans provision),
          bring_up_started part surface fault supported provision]
        exact follows_brought past places full part surface fault follows
      cases provision : part.nextProvision with
      | working => exact started none provision
      | failingAnimation fault => exact started (some fault) provision
      | rejected fault =>
          rw [bring_up_rejected full surface fault supported (next.trans provision),
            bring_up_rejected part surface fault supported provision]
          exact .refused _ _ _ ⟨⟨follows.distinct, follows.picks⟩, follows.journal, asked⟩
      | failingStart fault =>
          rw [bring_up_stillborn full surface fault supported (next.trans provision),
            bring_up_stillborn part surface fault supported provision]
          refine .refused _ _ _ ⟨⟨follows.distinct, follows.picks⟩, ?_, asked⟩
          simp [follows.journal]

structure FrameLoop.Echoes (places : List Nat) (full part : FrameLoop) : Prop where
  state : full.state = part.state
  handle : Option.Rel (Handle.Echoes places) full.handle part.handle
  smoothing : full.smoothingFactor = part.smoothingFactor
  rendered : full.ticksRendered = part.ticksRendered
  faults : full.tickFaults = part.tickFaults

section Loops

variable (places : List Nat) (full part : FrameLoop)

theorem stop_echoes (echoes : full.Echoes places part) : full.stop.Echoes places part.stop := by
  unfold FrameLoop.stop
  rw [echoes.state]
  split
  · exact echoes
  · exact ⟨rfl, .none, echoes.smoothing, echoes.rendered, echoes.faults⟩

theorem settle_echoes (answer : Except EngineFault Unit) (echoes : full.Echoes places part) :
    (full.settle answer).1 = (part.settle answer).1 ∧ (full.settle answer).2.Echoes places (part.settle answer).2 := by
  cases answer with
  | ok _ => exact ⟨rfl, echoes.state, echoes.handle, echoes.smoothing, congrArg (· + 1) echoes.rendered, echoes.faults⟩
  | error fault =>
      exact ⟨rfl, echoes.state, echoes.handle, echoes.smoothing, echoes.rendered, congrArg (· + 1) echoes.faults⟩

theorem tick_abreast (fullPool partPool : Pool) (target aim : Camera) (mirrors : fullPool.Mirrors places partPool)
    (echoes : full.Echoes places part) (same : target = aim) :
    (full.tick fullPool target).1 = (part.tick partPool aim).1 ∧
      (full.tick fullPool target).2.1.Echoes places (part.tick partPool aim).2.1 ∧
      Pool.Abreast places fullPool partPool (full.tick fullPool target).2.2 (part.tick partPool aim).2.2 := by
  subst same
  have idle := abreast_refl places fullPool partPool mirrors
  unfold FrameLoop.tick
  rw [echoes.state]
  split
  · exact ⟨rfl, echoes, idle⟩
  · rcases rel_cases _ _ _ echoes.handle with ⟨larger, smaller⟩ | ⟨larger, smaller, ahead, behind, handles⟩
    · rw [larger, smaller]
      exact ⟨rfl, stop_echoes places full part echoes, idle⟩
    · have worked := with_engine_worked places fullPool partPool larger smaller _
        (appending_step target part.smoothingFactor) mirrors handles
      rw [ahead, behind, echoes.smoothing]
      dsimp only
      generalize fullPool.withEngine larger _ = first at worked ⊢
      generalize partPool.withEngine smaller _ = second at worked ⊢
      cases worked with
      | missed => exact ⟨rfl, stop_echoes places full part echoes, idle⟩
      | done answer fullNext partNext abreast =>
          obtain ⟨outcome, settled⟩ := settle_echoes places full part answer echoes
          exact ⟨outcome, settled, abreast⟩

end Loops

namespace Session

structure Follows (past : Journal) (places : List Nat) (full part : Session) : Prop where
  config : full.config = part.config
  surface : full.surface = part.surface
  pool : full.pool.Follows past places part.pool
  lease : Option.Rel (Handle.Echoes places) full.lease part.lease
  frames : full.frames.Echoes places part.frames
  controller : full.controller = part.controller
  viewport : full.viewport = part.viewport
  notices : full.notices = part.notices
  stored : full.stored = part.stored

structure Agree {α : Type} (past : Journal) (places : List Nat) (full part : α × Session) : Prop where
  answer : full.1 = part.1
  follows : full.2.Follows past places part.2

section Steps

variable {past : Journal} {places : List Nat} {full part : Session}

theorem follows_pool (fullNext partNext : Pool) (follows : full.Follows past places part)
    (abreast : Pool.Abreast places full.pool part.pool fullNext partNext) :
    Follows past places { full with pool := fullNext } { part with pool := partNext } :=
  { follows with pool := abreast_follows past places _ _ fullNext partNext follows.pool abreast }

theorem follows_notify (level : NoticeLevel) (message : String) (follows : full.Follows past places part) :
    (full.notify level message).Follows past places (part.notify level message) :=
  { follows with notices := congrArg (·.push ⟨level, message⟩) follows.notices }

theorem follows_size (viewport : Viewport) (follows : full.Follows past places part) :
    Follows past places { full with viewport := viewport } { part with viewport := viewport } :=
  { follows with viewport := rfl }

theorem follows_settle_size (follows : full.Follows past places part) :
    full.settleSize.Follows past places part.settleSize :=
  { follows with
    surface := by
      change ({ full.surface with viewport := full.viewport } : Surface) = { part.surface with viewport := part.viewport }
      rw [follows.surface, follows.viewport] }

theorem follows_controller (change : Controller → Controller) (follows : full.Follows past places part) :
    Follows past places { full with controller := change full.controller }
      { part with controller := change part.controller } :=
  { follows with controller := congrArg change follows.controller }

theorem follows_engine (follows : full.Follows past places part) : full.engine? = part.engine? := by
  rcases rel_cases _ _ _ follows.lease with ⟨ahead, behind⟩ | ⟨larger, smaller, ahead, behind, echoes⟩
  · rw [engine_unheld full ahead, engine_unheld part behind]
  · rw [engine_held full larger ahead, engine_held part smaller behind]
    exact mirrors_engine places full.pool part.pool larger smaller follows.pool.toMirrors echoes

theorem follows_snapshot (follows : full.Follows past places part) : full.snapshot = part.snapshot := by
  simp only [snapshot, status, pendingNotices, ← engine_shown, liveCamera, follows_engine follows,
    follows.surface, follows.stored, follows.frames.state, follows.viewport, follows.controller,
    follows.frames.rendered, follows.frames.faults, follows.notices]

theorem let_go_follows (follows : full.Follows past places part) : full.letGo.Follows past places part.letGo := by
  rcases rel_cases _ _ _ follows.lease with ⟨ahead, behind⟩ | ⟨larger, smaller, ahead, behind, echoes⟩
  · rw [let_go_none full ahead, let_go_none part behind]
    exact follows.pool
  · rw [let_go_some full larger ahead, let_go_some part smaller behind]
    exact abreast_follows past places _ _ _ _ follows.pool
      (release_abreast places full.pool part.pool larger smaller follows.pool.toMirrors echoes).2

theorem forget_follows (follows : full.Follows past places part) :
    full.forgetReleasedEngine.Follows past places part.forgetReleasedEngine := by
  rw [forget_next, forget_next]
  exact { follows with
    pool := let_go_follows follows
    lease := .none
    frames := stop_echoes places _ _ follows.frames
    stored := by
      dsimp only
      rw [follows.stored] }

theorem cleared_follows (follows : full.Follows past places part) (larger : full.Coherent) (smaller : part.Coherent) :
    full.clearedPool.Follows past places part.clearedPool := by
  have gone := let_go_follows follows
  rw [clearedPool, clearedPool, release_surface_next_quiet _ _ (let_go_quiet full larger.sole),
    release_surface_next_quiet _ _ (let_go_quiet part smaller.sole)]
  exact ⟨⟨gone.distinct, gone.picks⟩, gone.journal, gone.plan⟩

theorem teardown_follows (follows : full.Follows past places part) (larger : full.Coherent) (smaller : part.Coherent) :
    full.teardown.Follows past places part.teardown := by
  rw [teardown_next, teardown_next]
  exact { follows with
    pool := cleared_follows follows larger smaller
    lease := .none
    frames := stop_echoes places _ _ follows.frames
    controller := congrArg Controller.pointerUp follows.controller
    stored := by
      dsimp only
      rw [follows.stored] }

theorem close_follows (follows : full.Follows past places part) (larger : full.Coherent) (smaller : part.Coherent) :
    full.close.Follows past places part.close := by
  have ended := (teardown_follows follows larger smaller).pool
  rw [close, close, release_all_quiet _ (teardown_quiet full larger), release_all_quiet _ (teardown_quiet part smaller)]
  exact ⟨⟨ended.distinct, ended.picks⟩, ended.journal, ended.plan⟩

theorem tick_agrees (follows : full.Follows past places part) : Agree past places full.tick part.tick := by
  obtain ⟨outcome, loops, abreast⟩ :=
    tick_abreast places full.frames part.frames full.pool part.pool _ _ follows.pool.toMirrors follows.frames
      (congrArg Controller.target follows.controller)
  have pools := abreast_follows past places _ _ _ _ follows.pool abreast
  unfold tick
  -- The two ticks end alike, so from here one outcome speaks for both.
  generalize full.frames.tick full.pool full.controller.target = first at outcome loops pools ⊢
  generalize part.frames.tick part.pool part.controller.target = second at outcome loops pools ⊢
  obtain ⟨answer, fullLoop, fullPool⟩ := first
  obtain ⟨_, partLoop, partPool⟩ := second
  cases outcome
  have next : Follows past places { full with frames := fullLoop, pool := fullPool }
      { part with frames := partLoop, pool := partPool } := { follows with frames := loops, pool := pools }
  cases answer with
  | rendered => exact ⟨rfl, next⟩
  | faulted fault => exact ⟨rfl, follows_notify .warning fault.message next⟩
  | skipped => exact ⟨rfl, next⟩
  | terminated => exact ⟨rfl, forget_follows next⟩

theorem resize_agrees (viewport : Viewport) (follows : full.Follows past places part) :
    Agree past places (full.resize viewport) (part.resize viewport) := by
  obtain ⟨_, _, fullPool, fullLease, _, _, fullSize, _, _⟩ := full
  obtain ⟨_, _, partPool, partLease, _, _, partSize, _, _⟩ := part
  -- Both hold a lease or neither does, and the two leases name the same surface in different slots.
  have leases : Option.Rel (Handle.Echoes places) fullLease partLease := follows.lease
  have sizes : fullSize = partSize := follows.viewport
  subst sizes
  cases leases with
  | none =>
      simp only [resize]
      split
      · exact ⟨rfl, follows⟩
      · exact ⟨rfl, follows_settle_size (follows_size viewport follows)⟩
  | @some larger smaller echoes =>
      obtain ⟨answers, recorded, abreast⟩ :=
        resize_abreast places fullPool partPool fullSize viewport larger smaller follows.pool.toMirrors echoes
      simp only [resize]
      generalize fullSize.resize fullPool larger viewport = first at answers recorded abreast ⊢
      generalize fullSize.resize partPool smaller viewport = second at answers recorded abreast ⊢
      obtain ⟨answer, size, fullNext⟩ := first
      obtain ⟨_, _, partNext⟩ := second
      cases answers
      cases recorded
      have next := follows_size size (follows_pool fullNext partNext follows abreast)
      cases answer with
      | ok _ => exact ⟨rfl, follows_settle_size next⟩
      | error error =>
          dsimp only
          split
          · exact ⟨rfl, follows_settle_size (forget_follows next)⟩
          · exact ⟨rfl, next⟩

theorem reload_agrees (graph : Graph) (follows : full.Follows past places part) :
    Agree past places (full.reload graph) (part.reload graph) := by
  obtain ⟨_, _, fullPool, fullLease, _, _, _, _, _⟩ := full
  obtain ⟨_, _, partPool, partLease, _, _, _, _, _⟩ := part
  have leases : Option.Rel (Handle.Echoes places) fullLease partLease := follows.lease
  cases leases with
  | none => exact ⟨rfl, follows⟩
  | @some larger smaller echoes =>
      obtain ⟨answers, abreast⟩ :=
        sync_abreast places fullPool partPool larger smaller graph follows.pool.toMirrors echoes
      simp only [reload]
      generalize fullPool.sync larger graph = first at answers abreast ⊢
      generalize partPool.sync smaller graph = second at answers abreast ⊢
      obtain ⟨answer, fullNext⟩ := first
      obtain ⟨_, partNext⟩ := second
      cases answers
      have next := follows_pool fullNext partNext follows abreast
      cases answer with
      | ok _ => exact ⟨rfl, next⟩
      | error error =>
          cases error with
          | staleHandle surface => exact ⟨rfl, forget_follows next⟩
          | sync fault => exact ⟨rfl, follows_notify .error fault.message next⟩
          | _ => exact ⟨rfl, next⟩

theorem camera_for_input_agrees (follows : full.Follows past places part) :
    Agree past places full.cameraForInput part.cameraForInput := by
  have held : full.lease.isNone = part.lease.isNone := by
    rcases rel_cases _ _ _ follows.lease with ⟨ahead, behind⟩ | ⟨larger, smaller, ahead, behind, _⟩ <;>
      simp [ahead, behind]
  unfold cameraForInput
  rw [held, liveCamera, liveCamera, follows_engine follows]
  split
  · exact ⟨rfl, follows⟩
  · cases part.engine? with
    | some engine => exact ⟨rfl, follows⟩
    | none => exact ⟨rfl, forget_follows follows⟩

theorem pointer_move_follows (deltaX deltaY : Float32) (follows : full.Follows past places part) :
    (full.pointerMove deltaX deltaY).Follows past places (part.pointerMove deltaX deltaY) := by
  have sought := camera_for_input_agrees follows
  unfold pointerMove
  rw [follows.controller]
  split
  · exact follows
  · generalize full.cameraForInput = first at sought ⊢
    generalize part.cameraForInput = second at sought ⊢
    obtain ⟨camera, fullNext⟩ := first
    obtain ⟨_, partNext⟩ := second
    obtain ⟨answer, next⟩ := sought
    cases answer
    cases camera with
    | none => exact next
    | some live => exact follows_controller (fun controller => (controller.pointerMove live deltaX deltaY).2) next

theorem wheel_follows (deltaZ : Float32) (follows : full.Follows past places part) :
    (full.wheel deltaZ).Follows past places (part.wheel deltaZ) := by
  have sought := camera_for_input_agrees follows
  unfold wheel
  generalize full.cameraForInput = first at sought ⊢
  generalize part.cameraForInput = second at sought ⊢
  obtain ⟨camera, fullNext⟩ := first
  obtain ⟨_, partNext⟩ := second
  obtain ⟨answer, next⟩ := sought
  cases answer
  cases camera with
  | none => exact next
  | some live => exact follows_controller (fun controller => (controller.wheel live deltaZ).2) next

theorem advance_agrees {σ : Type} [FrameSource σ] (fuel : Nat) (source : σ) (rendered : UInt64)
    (follows : full.Follows past places part) :
    (Run.advance fuel ⟨full, source, rendered⟩).rendered = (Run.advance fuel ⟨part, source, rendered⟩).rendered ∧
      (Run.advance fuel ⟨full, source, rendered⟩).session.Follows past places
        (Run.advance fuel ⟨part, source, rendered⟩).session := by
  induction fuel generalizing full part source rendered with
  | zero => exact ⟨rfl, follows⟩
  | succ fuel ih =>
      have ticked := tick_agrees follows
      rw [Run.advance, Run.advance]
      dsimp only
      rw [follows.frames.state]
      split
      · exact ⟨rfl, follows⟩
      · cases FrameSource.next? source with
        | none => exact ⟨rfl, follows⟩
        | some rest =>
            dsimp only
            rw [ticked.answer]
            exact ih rest _ ticked.follows

theorem dispatch_agrees (event : HostEvent) (follows : full.Follows past places part) :
    Agree past places (full.dispatch event) (part.dispatch event) := by
  cases event with
  | pointerDown => exact ⟨rfl, follows_controller Controller.pointerDown follows⟩
  | pointerUp => exact ⟨rfl, follows_controller Controller.pointerUp follows⟩
  | pointerMove deltaX deltaY => exact ⟨rfl, pointer_move_follows deltaX deltaY follows⟩
  | wheel deltaZ => exact ⟨rfl, wheel_follows deltaZ follows⟩
  | resize width height => exact resize_agrees ⟨width, height⟩ follows
  | frame => exact ⟨rfl, (tick_agrees follows).follows⟩

end Steps

theorem halted_echoes (places : List Nat) (full part : Session) (echoes : full.frames.Echoes places part.frames) :
    full.haltedLoop.Echoes places part.haltedLoop := by
  unfold haltedLoop
  rw [echoes.state]
  split
  · exact stop_echoes places full.frames part.frames echoes
  · exact echoes

theorem acquire_agrees (past : Journal) (places : List Nat) (full part : Session)
    (follows : full.Follows past places part) (larger : full.Coherent) (smaller : part.Coherent) :
    ∃ more, Agree past (places ++ more) full.acquire part.acquire := by
  have brought := bring_up_follows past places full.clearedPool part.clearedPool part.surface
    (cleared_follows follows larger smaller)
  generalize ahead : full.clearedPool.bringUp part.surface = first at brought
  generalize behind : part.clearedPool.bringUp part.surface = second at brought
  rw [← follows.surface] at ahead
  cases brought with
  | refused error fullPool partPool pools =>
      rw [acquire_refused full error fullPool ahead, acquire_refused part error partPool behind]
      refine ⟨[], rfl, ?_⟩
      rw [List.append_nil]
      exact { follows with
        frames := halted_echoes places full part follows.frames
        lease := .none
        pool := pools
        stored := rfl
        notices := congrArg (·.push ⟨.error, error.userMessage⟩) follows.notices }
  | opened place fullHandle partHandle fullPool partPool pools echoes =>
      rw [acquire_opened full fullHandle fullPool ahead, acquire_opened part partHandle partPool behind]
      refine ⟨[place], rfl, ?_⟩
      exact { follows with
        frames := ⟨rfl, .some echoes, congrArg (·.tuning.smoothingFactor) follows.config, rfl, rfl⟩
        controller := congrArg (fun config : Config => Controller.create config.tuning config.initialTarget) follows.config
        lease := .some echoes
        pool := pools
        stored := rfl }

theorem perform_agrees (past : Journal) (places : List Nat) (full part : Session) (operation : Operation)
    (follows : full.Follows past places part) (larger : full.Coherent) (smaller : part.Coherent) :
    ∃ more, Agree past (places ++ more) (full.perform operation) (part.perform operation) := by
  -- Only an acquisition can add a slot, and with it a place where the smaller pool is found.
  have stay : Agree past places (full.perform operation) (part.perform operation) →
      ∃ more, Agree past (places ++ more) (full.perform operation) (part.perform operation) := by
    intro agree
    exact ⟨[], by rwa [List.append_nil]⟩
  cases operation with
  | acquire =>
      obtain ⟨more, agree⟩ := acquire_agrees past places full part follows larger smaller
      exact ⟨more, congrArg Answer.ofResult agree.answer, agree.follows⟩
  | teardown => exact stay ⟨rfl, teardown_follows follows larger smaller⟩
  | pointerDown => exact stay ⟨rfl, follows_controller Controller.pointerDown follows⟩
  | pointerUp => exact stay ⟨rfl, follows_controller Controller.pointerUp follows⟩
  | pointerMove deltaX deltaY => exact stay ⟨rfl, pointer_move_follows deltaX deltaY follows⟩
  | wheel deltaZ => exact stay ⟨rfl, wheel_follows deltaZ follows⟩
  | resize viewport =>
      have agree := resize_agrees viewport follows
      exact stay ⟨congrArg Answer.ofResult agree.answer, agree.follows⟩
  | reload graph =>
      have agree := reload_agrees graph follows
      refine stay ⟨?_, ?_⟩
      · rw [perform_reload, perform_reload, agree.answer]
      · rw [perform_reload_next, perform_reload_next]
        exact agree.follows
  | tick =>
      have agree := tick_agrees follows
      exact stay ⟨congrArg Answer.outcome agree.answer, agree.follows⟩
  | runFrames frames =>
      have agree := advance_agrees frames.toNat (FrameBudget.mk frames) 0 follows
      exact stay ⟨congrArg Answer.rendered agree.1, agree.2⟩
  | runPaced frames =>
      have agree := advance_agrees frames.toNat (part.pace.limit frames) 0 follows
      have paces : full.pace = part.pace :=
        congrArg (fun config : Config => Pace.ofRate config.targetFrameRate) follows.config
      refine stay ⟨?_, ?_⟩
      all_goals rw [perform, paces]
      · exact congrArg Answer.rendered agree.1
      · exact agree.2
  | dispatch event =>
      have agree := dispatch_agrees event follows
      exact stay ⟨congrArg Answer.ofResult agree.answer, agree.follows⟩
  | drain =>
      refine stay ⟨congrArg (fun queue : NoticeQueue => Answer.notices queue.items) follows.notices, ?_⟩
      exact { follows with notices := congrArg (fun queue : NoticeQueue => queue.drain.2) follows.notices }

end Session

end Plotter
