import Plotter.Proofs.OneSurface

set_option autoImplicit false

namespace Plotter

def LoopState.place : LoopState → Nat
  | .idle => 0
  | .running => 1
  | .stopped => 2

def TickOutcome.isDrawn : TickOutcome → Bool
  | .rendered | .faulted _ => true
  | .skipped | .terminated => false

theorem is_drawn_iff (outcome : TickOutcome) :
    outcome.isDrawn = true ↔ outcome = .rendered ∨ ∃ fault, outcome = .faulted fault := by
  cases outcome <;> simp [TickOutcome.isDrawn]

theorem step_failed (rig : Rig) (target : Camera) (factor : Float32) (fault : EngineFault)
    (failed : (rig.step target factor).1 = .error fault) :
    (rig.step target factor).2.engine = { rig.engine with renderFault := none } := by
  cases pending : rig.engine.renderFault with
  | none =>
      rw [step_clear rig target factor pending] at failed
      cases failed
  | some other => rw [step_pending rig target factor other pending]

namespace FrameLoop

inductive Started (frames : FrameLoop) (pool : Pool) (handle : Handle) : Except Error Unit × FrameLoop → Prop where
  | opened (idle : frames.state = .idle) (live : pool.isLive handle = true) :
      Started frames pool handle (.ok (), { frames with handle := some handle, state := .running })
  | stale (idle : frames.state = .idle) (dead : pool.isLive handle = false) :
      Started frames pool handle (.error handle.stale, { frames with state := .stopped })
  | refused (busy : frames.state ≠ .idle) :
      Started frames pool handle (.error (.invalidData (.loopNotIdle frames.state)), frames)

theorem start_cases (frames : FrameLoop) (pool : Pool) (handle : Handle) :
    frames.Started pool handle (frames.start pool handle) := by
  by_cases idle : frames.state = .idle
  · cases live : pool.isLive handle with
    | true =>
        simp only [start, idle, live, ne_eq, not_true_eq_false, if_false, if_true]
        exact .opened idle live
    | false =>
        simp only [start, idle, live, ne_eq, not_true_eq_false, if_false, Bool.false_eq_true]
        exact .stale idle live
  · simp only [start, ne_eq, idle, not_false_eq_true, if_true]
    exact .refused idle

inductive Moves (frames : FrameLoop) : List TickOutcome → FrameLoop → Prop where
  | starts (pool : Pool) (handle : Handle) : Moves frames [] (frames.start pool handle).2
  | stops : Moves frames [] frames.stop
  | ticks (pool : Pool) (target : Camera) :
      Moves frames [(frames.tick pool target).1] (frames.tick pool target).2.1

/-- The pools that the steps meet need have nothing to do with each other: anything may happen to an engine meanwhile. -/
inductive Lives (frames : FrameLoop) : List TickOutcome → FrameLoop → Prop where
  | same : Lives frames [] frames
  | next (log outcomes : List TickOutcome) (middle last : FrameLoop) (before : Lives frames log middle)
      (step : middle.Moves outcomes last) : Lives frames (log ++ outcomes) last

theorem lives_step (frames next : FrameLoop) (outcomes : List TickOutcome) (step : frames.Moves outcomes next) :
    frames.Lives outcomes next :=
  .next [] outcomes frames next .same step

theorem lives_trans (first second : List TickOutcome) (frames middle last : FrameLoop)
    (before : frames.Lives first middle) (after : middle.Lives second last) : frames.Lives (first ++ second) last := by
  induction after with
  | same =>
      rw [List.append_nil]
      exact before
  | next log outcomes middle last _ step ih =>
      rw [← List.append_assoc]
      exact .next _ outcomes middle last ih step

def Bound (frames : FrameLoop) : Prop := frames.handle.isSome = true ↔ frames.state = .running

theorem create_bound (factor : Float32) : (create factor).Bound := by simp [Bound, create]

theorem stop_bound (frames : FrameLoop) (bound : frames.Bound) : frames.stop.Bound := by
  by_cases stopped : frames.state = .stopped
  · rw [stop, if_pos stopped]
    exact bound
  · rw [stop, if_neg stopped]
    simp [Bound]

theorem moves_bound (frames next : FrameLoop) (outcomes : List TickOutcome) (step : frames.Moves outcomes next)
    (bound : frames.Bound) : next.Bound := by
  cases step with
  | starts pool handle =>
      have outcome := start_cases frames pool handle
      generalize frames.start pool handle = result at outcome ⊢
      cases outcome with
      | opened idle live => simp [Bound]
      | stale idle dead => simpa [Bound, idle] using bound
      | refused busy => exact bound
  | stops => exact stop_bound frames bound
  | ticks pool target =>
      have outcome := tick_cases frames pool target
      generalize frames.tick pool target = result at outcome ⊢
      cases outcome with
      | skipped halted => exact bound
      | terminated running lost => exact stop_bound frames bound
      | settled running handle holding answer next done => cases answer <;> exact bound

theorem lives_bound (frames last : FrameLoop) (log : List TickOutcome) (lives : frames.Lives log last)
    (bound : frames.Bound) : last.Bound := by
  induction lives with
  | same => exact bound
  | next log outcomes middle last _ step ih => exact moves_bound middle last outcomes step ih

def Told (log : List TickOutcome) : LoopState → Prop
  | .idle => ∃ waits, log = List.replicate waits .skipped
  | .running => ∃ waits drawn, log = List.replicate waits .skipped ++ drawn ∧ ∀ outcome ∈ drawn, outcome.isDrawn = true
  | .stopped => ∃ waits drawn ended rests,
      log = List.replicate waits .skipped ++ drawn ++ ended ++ List.replicate rests .skipped ∧
        (∀ outcome ∈ drawn, outcome.isDrawn = true) ∧ (ended = [] ∨ ended = [.terminated])

theorem told_stopped (log : List TickOutcome) (state : LoopState) (told : Told log state) : Told log .stopped := by
  cases state with
  | idle =>
      obtain ⟨waits, same⟩ := told
      exact ⟨waits, [], [], 0, by simp [same], by simp, .inl rfl⟩
  | running =>
      obtain ⟨waits, drawn, same, good⟩ := told
      exact ⟨waits, drawn, [], 0, by simp [same], good, .inl rfl⟩
  | stopped => exact told

theorem told_skipped (log : List TickOutcome) (state : LoopState) (halted : state ≠ .running) (told : Told log state) :
    Told (log ++ [.skipped]) state := by
  cases state with
  | idle =>
      obtain ⟨waits, same⟩ := told
      exact ⟨waits + 1, by rw [same, List.replicate_succ']⟩
  | running => exact absurd rfl halted
  | stopped =>
      obtain ⟨waits, drawn, ended, rests, same, good, last⟩ := told
      exact ⟨waits, drawn, ended, rests + 1, by rw [same, List.replicate_succ', List.append_assoc], good, last⟩

theorem told_drawn (log : List TickOutcome) (outcome : TickOutcome) (good : outcome.isDrawn = true)
    (told : Told log .running) : Told (log ++ [outcome]) .running := by
  obtain ⟨waits, drawn, same, all⟩ := told
  refine ⟨waits, drawn ++ [outcome], by rw [same, List.append_assoc], ?_⟩
  intro other member
  rcases List.mem_append.mp member with before | new
  · exact all other before
  · rw [List.mem_singleton.mp new]
    exact good

theorem told_terminated (log : List TickOutcome) (told : Told log .running) : Told (log ++ [.terminated]) .stopped := by
  obtain ⟨waits, drawn, same, all⟩ := told
  exact ⟨waits, drawn, [.terminated], 0, by simp [same], all, .inr rfl⟩

theorem moves_on (frames next : FrameLoop) (log outcomes : List TickOutcome) (step : frames.Moves outcomes next)
    (told : Told log frames.state) : frames.state.place ≤ next.state.place ∧ Told (log ++ outcomes) next.state := by
  cases step with
  | starts pool handle =>
      have outcome := start_cases frames pool handle
      generalize frames.start pool handle = result at outcome ⊢
      rw [List.append_nil]
      cases outcome with
      | opened idle live =>
          rw [idle] at told ⊢
          obtain ⟨waits, same⟩ := told
          exact ⟨Nat.zero_le _, waits, [], by simp [same], by simp⟩
      | stale idle dead =>
          rw [idle]
          exact ⟨Nat.zero_le _, told_stopped log frames.state told⟩
      | refused busy => exact ⟨Nat.le_refl _, told⟩
  | stops =>
      simp only [List.append_nil, stop_state]
      exact ⟨by cases frames.state <;> decide, told_stopped log frames.state told⟩
  | ticks pool target =>
      have outcome := tick_cases frames pool target
      generalize frames.tick pool target = result at outcome ⊢
      cases outcome with
      | skipped halted => exact ⟨Nat.le_refl _, told_skipped log frames.state halted told⟩
      | terminated running lost =>
          rw [running] at told
          simp only [running, stop_state]
          exact ⟨by decide, told_terminated log told⟩
      | settled running handle holding answer next done =>
          rw [running] at told
          cases answer with
          | ok _ =>
              simp only [settle, running]
              exact ⟨Nat.le_refl _, told_drawn log .rendered rfl told⟩
          | error fault =>
              simp only [settle, running]
              exact ⟨Nat.le_refl _, told_drawn log (.faulted fault) rfl told⟩

theorem lives_on (frames last : FrameLoop) (earlier log : List TickOutcome) (lives : frames.Lives log last)
    (told : Told earlier frames.state) :
    frames.state.place ≤ last.state.place ∧ Told (earlier ++ log) last.state := by
  induction lives with
  | same =>
      rw [List.append_nil]
      exact ⟨Nat.le_refl _, told⟩
  | next log outcomes middle last _ step ih =>
      obtain ⟨forward, so_far⟩ := ih
      obtain ⟨further, all⟩ := moves_on middle last (earlier ++ log) outcomes step so_far
      rw [← List.append_assoc]
      exact ⟨Nat.le_trans forward further, all⟩

def Run.outcomes {σ : Type} [FrameSource σ] (targets : Nat → Camera) : Nat → Run σ → List TickOutcome
  | 0, _ => []
  | fuel + 1, run =>
    if run.frames.state ≠ .running then []
    else
      match FrameSource.next? run.source with
      | none => []
      | some source =>
        let (outcome, frames, pool) := run.frames.tick run.pool (targets run.asked)
        let rendered := if outcome = .rendered then run.rendered + 1 else run.rendered
        outcome :: Run.outcomes targets fuel ⟨frames, pool, source, run.asked + 1, rendered⟩

theorem advance_lives {σ : Type} [FrameSource σ] (targets : Nat → Camera) (fuel : Nat) (run : Run σ) :
    run.frames.Lives (run.outcomes targets fuel) (Run.advance targets fuel run).frames := by
  induction fuel generalizing run with
  | zero => exact .same
  | succ fuel ih =>
      rw [Run.outcomes, Run.advance]
      split
      · exact .same
      · cases FrameSource.next? run.source with
        | none => exact .same
        | some source =>
            have first := lives_step run.frames _ _ (.ticks run.pool (targets run.asked))
            dsimp only
            generalize run.frames.tick run.pool (targets run.asked) = result at first ⊢
            exact lives_trans _ _ _ _ _ first (ih ⟨result.2.1, result.2.2, source, run.asked + 1, _⟩)

theorem start_answers (frames : FrameLoop) (pool : Pool) (handle : Handle) :
    ((frames.start pool handle).1 = .ok () ↔ frames.state = .idle ∧ pool.isLive handle = true) ∧
    ((frames.start pool handle).1 = .ok () →
      (frames.start pool handle).2 = { frames with handle := some handle, state := .running }) ∧
    (frames.state = .idle → pool.isLive handle = false →
      frames.start pool handle = (.error (.staleHandle handle.surface.name), { frames with state := .stopped })) ∧
    (frames.state ≠ .idle →
      frames.start pool handle = (.error (.invalidData (.loopNotIdle frames.state)), frames)) := by
  have outcome := start_cases frames pool handle
  generalize frames.start pool handle = result at outcome ⊢
  cases outcome with
  | opened idle live => simp [idle, live]
  | stale idle dead => simp [idle, dead, Handle.stale]
  | refused busy => simp [busy]

theorem bound_holding (frames : FrameLoop) (bound : frames.Bound) (running : frames.state = .running) :
    ∃ handle, frames.handle = some handle :=
  Option.isSome_iff_exists.mp (bound.mpr running)

theorem tick_answers (frames : FrameLoop) (pool : Pool) (target : Camera) (bound : frames.Bound) :
    let outcome := (frames.tick pool target).1
    (outcome = .skipped ↔ frames.state ≠ .running) ∧
    (outcome = .terminated ↔
      frames.state = .running ∧ ∃ handle, frames.handle = some handle ∧ pool.isLive handle = false) ∧
    ((outcome = .rendered ∨ ∃ fault, outcome = .faulted fault) ↔
      frames.state = .running ∧ ∃ handle, frames.handle = some handle ∧ pool.isLive handle = true) := by
  have outcome := tick_cases frames pool target
  generalize frames.tick pool target = result at outcome ⊢
  cases outcome with
  | skipped halted => simp [halted]
  | terminated running lost =>
      obtain ⟨handle, holding⟩ := bound_holding frames bound running
      simp [running, holding, lost handle holding]
  | settled running handle holding answer next done =>
      obtain ⟨engine, found, _⟩ := with_engine_found pool next handle _ answer done
      have live : pool.isLive handle = true := by simp [Pool.isLive, found]
      cases answer <;> simp [settle, running, holding, live]

theorem tick_leaves (frames : FrameLoop) (pool : Pool) (target : Camera) :
    let (outcome, next, after) := frames.tick pool target
    (outcome = .skipped ∨ outcome = .terminated →
      after = pool ∧ next.ticksRendered = frames.ticksRendered ∧ next.tickFaults = frames.tickFaults) ∧
    (∀ fault, outcome = .faulted fault →
      next = { frames with tickFaults := frames.tickFaults + 1 } ∧
      ∀ handle engine, frames.handle = some handle → pool.engine? handle = some engine →
        after.engine? handle = some { engine with renderFault := none }) := by
  have outcome := tick_cases frames pool target
  generalize frames.tick pool target = result at outcome ⊢
  cases outcome with
  | skipped halted => simp
  | terminated running lost => simp
  | settled running handle holding answer next done =>
      cases answer with
      | ok _ => simp [settle]
      | error fault =>
          refine ⟨by simp [settle], ?_⟩
          intro other same
          cases same
          refine ⟨rfl, ?_⟩
          -- The failed step reached the engine the loop holds, so that is the one to look at.
          intro bound engine known found
          cases holding.symm.trans known
          obtain ⟨before, there, after⟩ := with_engine_found pool next handle _ _ done
          obtain ⟨_, rig, stored, stepped, _⟩ := with_engine_some pool next handle _ _ done
          cases found.symm.trans there
          cases found.symm.trans stored
          rw [after, step_failed _ target frames.smoothingFactor fault (congrArg Prod.fst stepped)]

end FrameLoop

namespace Bench

def Action.outcomes (index : Nat) (frames : FrameLoop) (pool : Pool) : Action → List TickOutcome
  | .tickLoop place target => if place = index then [(frames.tick pool target).1] else []
  | .runLoop place budget targets =>
    if place = index then
      FrameLoop.Run.outcomes (cycle targets) budget.toNat ⟨frames, pool, FrameBudget.mk budget, 0, 0⟩
    else []
  | _ => []

def outcomesOf (bench : Bench) (index : Nat) (action : Action) : List TickOutcome :=
  match bench.loops[index]? with
  | none => []
  | some frames => action.outcomes index frames bench.pool

def outcomes (index : Nat) : Bench → List Action → List TickOutcome
  | _, [] => []
  | bench, action :: rest => bench.outcomesOf index action ++ outcomes index (bench.perform action).2 rest

inductive Looped (bench : Bench) (action : Action) : List FrameLoop → Prop where
  | untouched (silent : ∀ index, bench.outcomesOf index action = []) : Looped bench action bench.loops
  | created (factor : Float32) (silent : ∀ index, bench.outcomesOf index action = []) :
      Looped bench action (bench.loops ++ [.create factor])
  | worked (place : Nat) (frames next : FrameLoop) (found : bench.loops[place]? = some frames)
      (lives : frames.Lives (bench.outcomesOf place action) next)
      (silent : ∀ index, index ≠ place → bench.outcomesOf index action = []) :
      Looped bench action (bench.loops.set place next)

theorem outcomes_of_silent (bench : Bench) (action : Action) (index : Nat)
    (silent : ∀ frames, action.outcomes index frames bench.pool = []) : bench.outcomesOf index action = [] := by
  rw [outcomesOf]
  split
  · rfl
  · exact silent _

theorem outcomes_of_found (bench : Bench) (action : Action) (index : Nat) (frames : FrameLoop)
    (found : bench.loops[index]? = some frames) : bench.outcomesOf index action = action.outcomes index frames bench.pool := by
  simp only [outcomesOf, found]

theorem looped_work (bench : Bench) (action : Action) (place : Nat) (frames next : FrameLoop)
    (found : bench.loops[place]? = some frames) (lives : frames.Lives (action.outcomes place frames bench.pool) next)
    (elsewhere : ∀ index frames, index ≠ place → action.outcomes index frames bench.pool = []) :
    bench.Looped action (bench.loops.set place next) := by
  refine .worked place frames next found ?_ ?_
  · rw [outcomes_of_found bench action place frames found]
    exact lives
  · intro index apart
    exact outcomes_of_silent bench action index fun frames => elsewhere index frames apart

theorem looped_missed (bench : Bench) (action : Action) (place : Nat) (missing : bench.loops[place]? = none)
    (elsewhere : ∀ index frames, index ≠ place → action.outcomes index frames bench.pool = []) :
    bench.Looped action bench.loops := by
  refine .untouched ?_
  intro index
  by_cases here : index = place
  · simp only [outcomesOf, here, missing]
  · exact outcomes_of_silent bench action index fun frames => elsewhere index frames here

theorem looped_at (bench : Bench) (action : Action) (place : Nat) (work : FrameLoop → Answer × Bench)
    (elsewhere : ∀ index frames, index ≠ place → action.outcomes index frames bench.pool = [])
    (worked : ∀ frames, ∃ next, (work frames).2.loops = bench.loops.set place next ∧
      frames.Lives (action.outcomes place frames bench.pool) next) :
    bench.Looped action (bench.withLoop place work).2.loops := by
  rw [withLoop]
  cases found : bench.loops[place]? with
  | none => exact looped_missed bench action place found elsewhere
  | some frames =>
      obtain ⟨next, written, lives⟩ := worked frames
      dsimp only
      rw [written]
      exact looped_work bench action place frames next found lives elsewhere

def Action.onLoops : Action → Bool
  | .createLoop _ | .startLoop _ _ | .stopLoop _ | .tickLoop _ _ | .runLoop _ _ _ => true
  | _ => false

theorem perform_loops (bench : Bench) (action : Action) (other : action.onLoops = false) :
    (bench.perform action).2.loops = bench.loops := by
  let same (next : Bench) : Prop := next.loops = bench.loops
  cases action with
  | acquire surface => exact managing_found same bench _ rfl fun _ => acquire_loops bench surface
  | releaseSurface surface => exact managing_found same bench _ rfl fun _ => rfl
  | askLive surface => exact managing_found same bench _ rfl fun _ => rfl
  | releaseAll => exact managing_found same bench _ rfl fun _ => rfl
  | retire => exact managing_found same bench _ rfl fun _ => rfl
  | releaseLease index => exact with_lease_found same bench index _ rfl fun _ _ => rfl
  | dropLease index => exact with_lease_found same bench index _ rfl fun _ _ => rfl
  | forgetLease index => exact with_lease_found same bench index _ rfl fun _ _ => rfl
  | share index => exact with_lease_found same bench index _ rfl fun _ _ => rfl
  | copyHandle index => exact with_handle_found same bench index _ rfl fun _ _ => rfl
  | releaseHandle index => exact with_handle_found same bench index _ rfl fun _ _ => rfl
  | command index command => exact command_found same bench index command rfl fun _ _ _ _ => rfl
  | sync index graph => exact with_handle_found same bench index _ rfl fun _ _ => rfl
  | createViewport viewport => rfl
  | resizeViewport index handle size =>
      exact with_handle_found same bench handle _ rfl fun target _ =>
        resize_viewport_found same bench index target size rfl fun _ => rfl
  | createLoop factor => cases other
  | startLoop place handle => cases other
  | stopLoop place => cases other
  | tickLoop place target => cases other
  | runLoop place budget targets => cases other

theorem perform_looped (bench : Bench) (action : Action) : bench.Looped action (bench.perform action).2.loops := by
  cases action with
  | createLoop factor => exact .created factor fun index => outcomes_of_silent bench _ index fun _ => rfl
  | startLoop place handle =>
      -- Two lookups, and the loop is not written when the second one fails.
      have same : bench.Looped (.startLoop place handle) bench.loops :=
        .untouched fun index => outcomes_of_silent bench _ index fun _ => rfl
      refine with_loop_found (fun next => bench.Looped _ next.loops) bench place _ same ?_
      intro frames found
      refine with_handle_found (fun next => bench.Looped _ next.loops) bench handle _ same ?_
      intro target _
      exact looped_work bench _ place frames _ found (FrameLoop.lives_step _ _ _ (.starts bench.pool target))
        fun _ _ _ => rfl
  | stopLoop place =>
      exact looped_at bench _ place _ (fun _ _ _ => rfl) fun frames =>
        ⟨frames.stop, rfl, FrameLoop.lives_step _ _ _ .stops⟩
  | tickLoop place target =>
      refine looped_at bench _ place _ (fun _ _ apart => if_neg apart.symm) ?_
      intro frames
      refine ⟨(frames.tick bench.pool target).2.1, rfl, ?_⟩
      rw [Action.outcomes, if_pos rfl]
      exact FrameLoop.lives_step _ _ _ (.ticks bench.pool target)
  | runLoop place budget targets =>
      refine looped_at bench _ place _ (fun _ _ apart => if_neg apart.symm) ?_
      intro frames
      refine ⟨(frames.run bench.pool (FrameBudget.mk budget) (cycle targets)).frames, rfl, ?_⟩
      rw [Action.outcomes, if_pos rfl]
      exact FrameLoop.advance_lives (cycle targets) _ ⟨frames, bench.pool, _, 0, 0⟩
  | _ =>
      rw [perform_loops bench _ rfl]
      exact .untouched fun index => outcomes_of_silent bench _ index fun _ => rfl

theorem looped_found (bench : Bench) (action : Action) (loops : List FrameLoop) (index : Nat) (frames : FrameLoop)
    (looped : bench.Looped action loops) (found : bench.loops[index]? = some frames) :
    ∃ next, loops[index]? = some next ∧ frames.Lives (bench.outcomesOf index action) next := by
  have bound := (List.getElem?_eq_some_iff.mp found).1
  cases looped with
  | untouched silent =>
      rw [silent]
      exact ⟨frames, found, .same⟩
  | created factor silent =>
      rw [silent, List.getElem?_append_left bound]
      exact ⟨frames, found, .same⟩
  | worked place other next there lives silent =>
      by_cases here : index = place
      · subst index
        cases there.symm.trans found
        exact ⟨next, List.getElem?_set_self bound, lives⟩
      · rw [silent index here, List.getElem?_set_ne (Ne.symm here)]
        exact ⟨frames, found, .same⟩

theorem looped_missing (bench : Bench) (action : Action) (loops : List FrameLoop) (index : Nat)
    (looped : bench.Looped action loops) (missing : bench.loops[index]? = none) :
    bench.outcomesOf index action = [] ∧ ∀ frames, loops[index]? = some frames → ∃ factor, frames = .create factor := by
  cases looped with
  | untouched silent => exact ⟨silent index, by simp [missing]⟩
  | created factor silent =>
      refine ⟨silent index, ?_⟩
      intro frames found
      rw [List.getElem?_append_right (List.getElem?_eq_none_iff.mp missing), List.getElem?_singleton] at found
      split at found
      · cases found
        exact ⟨factor, rfl⟩
      · cases found
  | worked place other next there lives silent =>
      have apart : index ≠ place := by
        rintro rfl
        rw [missing] at there
        cases there
      refine ⟨silent index apart, ?_⟩
      rw [List.getElem?_set_ne apart.symm, missing]
      simp

theorem history_lives (bench : Bench) (actions : List Action) (index : Nat) (frames : FrameLoop)
    (found : bench.loops[index]? = some frames) :
    ∃ last, (History.final perform bench actions).loops[index]? = some last ∧
      frames.Lives (bench.outcomes index actions) last := by
  induction actions generalizing bench frames with
  | nil => exact ⟨frames, found, .same⟩
  | cons action rest ih =>
      obtain ⟨next, there, step⟩ := looped_found bench action _ index frames (perform_looped bench action) found
      obtain ⟨last, ended, later⟩ := ih _ next there
      exact ⟨last, ended, FrameLoop.lives_trans _ _ frames next last step later⟩

theorem loop_life (bench : Bench) (actions : List Action) (index : Nat) (frames : FrameLoop)
    (missing : bench.loops[index]? = none) (found : (History.final perform bench actions).loops[index]? = some frames) :
    ∃ factor, (FrameLoop.create factor).Lives (bench.outcomes index actions) frames := by
  induction actions generalizing bench with
  | nil => simp [missing] at found
  | cons action rest ih =>
      obtain ⟨silent, fresh⟩ := looped_missing bench action _ index (perform_looped bench action) missing
      rw [outcomes, silent, List.nil_append]
      cases there : (bench.perform action).2.loops[index]? with
      | none => exact ih _ there found
      | some first =>
          obtain ⟨factor, rfl⟩ := fresh first there
          obtain ⟨last, ended, lives⟩ := history_lives (bench.perform action).2 rest index _ there
          cases found.symm.trans ended
          exact ⟨factor, lives⟩

end Bench

theorem loop_lives_once (plan : List Provision) (actions : List Bench.Action) (index : Nat) (frames : FrameLoop)
    (found : (History.final Bench.perform (.create plan) actions).loops[index]? = some frames) :
    let bench := History.final Bench.perform (.create plan) actions
    (∀ later, ∃ next, (History.final Bench.perform bench later).loops[index]? = some next ∧
      frames.state.place ≤ next.state.place) ∧
    (frames.handle.isSome = true ↔ frames.state = .running) ∧
    (∀ handle,
      let started := frames.start bench.pool handle
      (started.1 = .ok () ↔ frames.state = .idle ∧ bench.pool.isLive handle = true) ∧
      (started.1 = .ok () → started.2 = { frames with handle := some handle, state := .running }) ∧
      (frames.state = .idle → bench.pool.isLive handle = false →
        started = (.error (.staleHandle handle.surface.name), { frames with state := .stopped })) ∧
      (frames.state ≠ .idle → started = (.error (.invalidData (.loopNotIdle frames.state)), frames))) ∧
    (∀ target,
      let ticked := frames.tick bench.pool target
      (ticked.1 = .skipped ↔ frames.state ≠ .running) ∧
      (ticked.1 = .terminated ↔
        frames.state = .running ∧ ∃ handle, frames.handle = some handle ∧ bench.pool.isLive handle = false) ∧
      ((ticked.1 = .rendered ∨ ∃ fault, ticked.1 = .faulted fault) ↔
        frames.state = .running ∧ ∃ handle, frames.handle = some handle ∧ bench.pool.isLive handle = true) ∧
      (ticked.1 = .skipped ∨ ticked.1 = .terminated →
        ticked.2.2 = bench.pool ∧ ticked.2.1.ticksRendered = frames.ticksRendered ∧
          ticked.2.1.tickFaults = frames.tickFaults) ∧
      (∀ fault, ticked.1 = .faulted fault →
        ticked.2.1 = { frames with tickFaults := frames.tickFaults + 1 } ∧
        ∀ handle engine, frames.handle = some handle → bench.pool.engine? handle = some engine →
          ticked.2.2.engine? handle = some { engine with renderFault := none })) ∧
    ∃ waits drawn ended rests,
      Bench.outcomes index (.create plan) actions =
        List.replicate waits .skipped ++ drawn ++ ended ++ List.replicate rests .skipped ∧
      (∀ outcome ∈ drawn, outcome = .rendered ∨ ∃ fault, outcome = .faulted fault) ∧
      (ended = [] ∨ ended = [.terminated]) := by
  intro bench
  obtain ⟨factor, life⟩ := Bench.loop_life (.create plan) actions index frames rfl found
  have bound := FrameLoop.lives_bound _ frames _ life (FrameLoop.create_bound factor)
  obtain ⟨_, told⟩ := FrameLoop.lives_on _ frames [] _ life ⟨0, rfl⟩
  refine ⟨?_, bound, FrameLoop.start_answers frames bench.pool, ?_, ?_⟩
  · intro later
    obtain ⟨next, there, lives⟩ := Bench.history_lives bench later index frames found
    obtain ⟨forward, _⟩ := FrameLoop.lives_on frames next _ _ lives told
    exact ⟨next, there, forward⟩
  · intro target
    obtain ⟨skipped, terminated, drawn⟩ := FrameLoop.tick_answers frames bench.pool target bound
    exact ⟨skipped, terminated, drawn, FrameLoop.tick_leaves frames bench.pool target⟩
  · obtain ⟨waits, drawn, ended, rests, same, good, last⟩ := FrameLoop.told_stopped _ frames.state told
    exact ⟨waits, drawn, ended, rests, same, fun outcome member => (is_drawn_iff outcome).mp (good outcome member), last⟩

def Bench.spentLoop : List Bench.Action :=
  -- a loop that is ticked too early, fails once, loses its engine to the host between two runs and is ticked on.
  let surface := (Surface.create "#canvas" ⟨800, 600⟩).withCapability .webGl2
  [.acquire surface, .share 0, .createLoop 0.5, .tickLoop 0 Engine.initialCamera, .startLoop 0 0,
    .tickLoop 0 Engine.initialCamera, .command 0 (.failNextRender "lost"), .runLoop 0 2 [Engine.initialCamera],
    .releaseHandle 0, .runLoop 0 5 [Engine.initialCamera], .tickLoop 0 Engine.initialCamera, .startLoop 0 0]

theorem loop_lives_once_spent :
    Bench.outcomes 0 (.create []) Bench.spentLoop =
      [.skipped, .rendered, .faulted ⟨"lost"⟩, .rendered, .terminated, .skipped] ∧
    ∃ frames, (History.final Bench.perform (.create []) Bench.spentLoop).loops[0]? = some frames ∧
      frames.state = .stopped ∧ frames.ticksRendered = 2 ∧ frames.tickFaults = 1 ∧ frames.handle.isSome = false ∧
      ∀ target, (frames.tick (History.final Bench.perform (.create []) Bench.spentLoop).pool target).1 = .skipped := by
  obtain ⟨frames, found, stopped, rendered, faults⟩ :
      ∃ frames, (History.final Bench.perform (.create []) Bench.spentLoop).loops[0]? = some frames ∧
        frames.state = .stopped ∧ frames.ticksRendered = 2 ∧ frames.tickFaults = 1 := ⟨_, rfl, rfl, rfl, rfl⟩
  obtain ⟨_, bound, _, ticks, _⟩ := loop_lives_once [] Bench.spentLoop 0 frames found
  refine ⟨rfl, frames, found, stopped, rendered, faults, ?_, ?_⟩
  · rw [Bool.eq_false_iff, ne_eq, bound, stopped]
    decide
  · intro target
    rw [(ticks target).1, stopped]
    decide

end Plotter
