import Mathlib.Algebra.GroupWithZero.Nat
import Plotter.Proofs.OneSurface

/-!
Every frame that is drawn is counted once: by the loop that drew it or, if the host drew it by hand, in the answer that
the host got. Frames that failed are in the journal and in the faults of a loop, but no engine counts them.
-/

set_option autoImplicit false

namespace Plotter

def renders (journal : Journal) : Nat := journal.toList.count .renderFrame

@[simp] theorem renders_push (journal : Journal) (call : Call) (other : call ≠ .renderFrame) :
    renders (journal.push call) = renders journal := by
  simp [renders, List.count_append, other]

@[simp] theorem renders_render (journal : Journal) : renders (journal.push .renderFrame) = renders journal + 1 := by
  simp [renders, List.count_append]

theorem total_split {α : Type} (count : α → Nat) (items : List α) (index : Nat) (item : α)
    (found : items[index]? = some item) : ∃ others, (items.map count).sum = count item + others ∧
      ∀ new, ((items.set index new).map count).sum = count new + others := by
  induction items generalizing index with
  | nil => simp at found
  | cons first rest ih =>
      cases index with
      | zero =>
          cases found
          exact ⟨(rest.map count).sum, by simp, by simp⟩
      | succ index =>
          obtain ⟨others, now, later⟩ := ih index found
          refine ⟨count first + others, ?_, ?_⟩
          · simp only [List.map_cons, List.sum_cons, now]
            omega
          · intro new
            simp only [List.set_cons_succ, List.map_cons, List.sum_cons, later]
            omega

theorem counter_succ (counter : UInt64) (room : counter.toNat + 1 < UInt64.size) :
    (counter + 1).toNat = counter.toNat + 1 := by
  rw [UInt64.toNat_add]
  exact Nat.mod_eq_of_lt room

def Pool.framesDrawn (pool : Pool) : Nat := (pool.slots.map fun slot => slot.engine.frames.toNat).sum

def Undrawing {α : Type} (action : Rig → α × Rig) : Prop :=
  ∀ rig, renders (action rig).2.journal = renders rig.journal ∧ (action rig).2.engine.frames = rig.engine.frames

def Drawing (action : Rig → Except EngineFault Unit × Rig) : Prop :=
  ∀ rig, renders (action rig).2.journal = renders rig.journal + 1 ∧
    (action rig).2.engine.frames = if (action rig).1.isOk then rig.engine.frames + 1 else rig.engine.frames

theorem drawing_render : Drawing Rig.renderFrame := by
  intro rig
  cases pending : rig.engine.renderFault <;>
    simp [Rig.renderFrame, Rig.record, pending, Except.isOk, Except.toBool]

theorem drawing_step (target : Camera) (factor : Float32) : Drawing fun rig => rig.step target factor := by
  intro rig
  cases pending : rig.engine.renderFault with
  | some fault => simp [step_pending rig target factor fault pending, Except.isOk, Except.toBool]
  | none => simp [step_clear rig target factor pending, Except.isOk, Except.toBool]

theorem undrawing_viewport (viewport : Viewport) : Undrawing fun rig => ((), rig.setViewport viewport) := by
  intro rig
  simp [Rig.setViewport, Rig.record]

theorem undrawing_load (graph : Graph) : Undrawing fun rig => rig.load graph := by
  intro rig
  cases failing : rig.engine.animationFault with
  | some fault => simp [load_failing rig graph fault failing]
  | none =>
      cases flawed : Rig.firstFlaw 1 graph.payload with
      | some found => simp [load_flawed rig graph found.1 found.2 failing flawed]
      | none => simp [load_sound rig graph failing flawed]

theorem undrawing_command (command : Rig.Command) (other : command ≠ .renderFrame) :
    Undrawing fun rig => rig.perform command := by
  intro rig
  cases command with
  | renderFrame => exact absurd rfl other
  | start => simp [Rig.perform, Rig.start, Rig.record]
  | failNextRender message => exact ⟨rfl, rfl⟩
  | setCameraRotation x y => simp [Rig.perform, Rig.setCameraRotation, Rig.record]
  | setCameraZoom zoom => simp [Rig.perform, Rig.setCameraZoom, Rig.record]
  | setCamera camera => simp [Rig.perform, Rig.setCamera, Rig.setCameraRotation, Rig.setCameraZoom, Rig.record]
  | setViewport viewport => exact undrawing_viewport viewport rig
  | setAnimationEnabled enabled => simp [Rig.perform, Rig.setAnimationEnabled, Rig.record]
  | setEquations formulas =>
      obtain ⟨equations, next⟩ := set_equations_next rig formulas
      simp [Rig.perform, next]

structure Pool.Undrawn (next pool : Pool) : Prop where
  journal : renders next.journal = renders pool.journal
  frames : next.framesDrawn = pool.framesDrawn

theorem undrawn_refl (pool : Pool) : pool.Undrawn pool := ⟨rfl, rfl⟩

theorem undrawn_trans (last next pool : Pool) (later : last.Undrawn next) (first : next.Undrawn pool) :
    last.Undrawn pool :=
  ⟨later.journal.trans first.journal, later.frames.trans first.frames⟩

theorem release_undrawn (pool : Pool) (handle : Handle) : (pool.release handle).2.Undrawn pool := by
  cases live : pool.isLive handle with
  | false =>
      rw [release_dead pool handle live]
      exact undrawn_refl pool
  | true =>
      obtain ⟨engine, found, released⟩ := release_live pool handle live
      obtain ⟨same, again, stored⟩ := engine_of_live pool handle live
      cases found.symm.trans again
      obtain ⟨others, now, later⟩ := total_split (fun slot => slot.engine.frames.toNat) pool.slots handle.slot _ stored
      rw [released]
      exact ⟨by simp, (later _).trans now.symm⟩

theorem acquisition_undrawn (pool next : Pool) (surface : Surface) (answer : Except InitError Handle)
    (outcome : Acquisition pool surface (answer, next)) : next.Undrawn pool := by
  cases outcome with
  | unsupported lacking => exact undrawn_refl pool
  | rejected fault supported provision => exact ⟨rfl, rfl⟩
  | stillborn fault supported provision => exact ⟨by simp, rfl⟩
  | started fault supported provision => exact ⟨by simp, by simp [Pool.framesDrawn, Engine.create]⟩

theorem undrawn_turnover (pool : Pool) : Pool.Turnover (·.Undrawn pool) where
  release := fun next handle before => undrawn_trans _ _ _ (release_undrawn next handle) before
  forget := fun _ _ before => ⟨before.journal, before.frames⟩
  settle := fun next surface answer last outcome before =>
    undrawn_trans _ _ _ (acquisition_undrawn next last surface answer outcome) before

theorem with_engine_split {α : Type} (pool next : Pool) (handle : Handle) (action : Rig → α × Rig) (answer : α)
    (done : pool.withEngine handle action = some (answer, next)) : ∃ rig others, (action rig).1 = answer ∧
      rig.journal = pool.journal ∧ next.journal = (action rig).2.journal ∧
      pool.framesDrawn = rig.engine.frames.toNat + others ∧
      next.framesDrawn = (action rig).2.engine.frames.toNat + others := by
  obtain ⟨engine, rig, found, result, rfl⟩ := with_engine_some pool next handle action answer done
  obtain ⟨same, again, stored⟩ := engine_of_live pool handle (by rw [Pool.isLive, found]; rfl)
  cases found.symm.trans again
  obtain ⟨others, now, later⟩ := total_split (fun slot => slot.engine.frames.toNat) pool.slots handle.slot _ stored
  exact ⟨⟨engine, pool.journal⟩, others, by rw [result], rfl, by rw [result], now, by rw [result]; exact later _⟩

theorem with_engine_undrawn {α : Type} (pool next : Pool) (handle : Handle) (action : Rig → α × Rig) (answer : α)
    (undrawing : Undrawing action) (done : pool.withEngine handle action = some (answer, next)) :
    next.Undrawn pool := by
  obtain ⟨rig, others, _, same, journal, before, after⟩ := with_engine_split pool next handle action answer done
  obtain ⟨unwritten, uncounted⟩ := undrawing rig
  exact ⟨by rw [journal, unwritten, same], by rw [after, uncounted, before]⟩

theorem with_engine_rendered (pool next : Pool) (handle : Handle) (action : Rig → Except EngineFault Unit × Rig)
    (answer : Except EngineFault Unit) (drawing : Drawing action)
    (done : pool.withEngine handle action = some (answer, next)) : renders next.journal = renders pool.journal + 1 := by
  obtain ⟨rig, _, _, same, journal, _⟩ := with_engine_split pool next handle action answer done
  rw [journal, (drawing rig).1, same]

theorem with_engine_drawn (pool next : Pool) (handle : Handle) (action : Rig → Except EngineFault Unit × Rig)
    (answer : Except EngineFault Unit) (drawing : Drawing action)
    (done : pool.withEngine handle action = some (answer, next)) (room : pool.framesDrawn + 1 < UInt64.size) :
    next.framesDrawn = pool.framesDrawn + if answer.isOk then 1 else 0 := by
  obtain ⟨rig, others, result, _, _, before, after⟩ := with_engine_split pool next handle action answer done
  have counted := (drawing rig).2
  rw [result] at counted
  rw [after, counted, before]
  cases answer.isOk with
  | false => rfl
  | true =>
      have more := counter_succ rig.engine.frames (by omega)
      simp only [if_true, more]
      omega

theorem sync_undrawn (pool : Pool) (handle : Handle) (graph : Graph) : (pool.sync handle graph).2.Undrawn pool :=
  sync_found (·.Undrawn pool) pool handle graph (undrawn_refl pool) fun answer next done =>
    with_engine_undrawn pool next handle _ answer (undrawing_load graph) done

theorem resize_undrawn (recorded : Viewport) (pool : Pool) (handle : Handle) (viewport : Viewport) :
    (recorded.resize pool handle viewport).2.2.Undrawn pool :=
  resize_found (·.Undrawn pool) recorded pool handle viewport (undrawn_refl pool) fun answer next done =>
    with_engine_undrawn pool next handle _ answer (undrawing_viewport viewport) done

/-- The frames of a pool, as far as one loop accounts for them: `rest` of those in the journal, `others` of those that
the engines count, are not of this loop. Counters have 64 bits, so this is said of pools with fewer frames only. -/
def FrameLoop.Counted (frames : FrameLoop) (pool : Pool) (rest others : Nat) : Prop :=
  renders pool.journal < UInt64.size →
    renders pool.journal = frames.ticksRendered.toNat + frames.tickFaults.toNat + rest ∧
      pool.framesDrawn = frames.ticksRendered.toNat + others

theorem tick_counted (frames : FrameLoop) (pool : Pool) (target : Camera) (rest others : Nat) (fewer : others ≤ rest)
    (counted : frames.Counted pool rest others) :
    (frames.tick pool target).2.1.Counted (frames.tick pool target).2.2 rest others := by
  have outcome := tick_cases frames pool target
  generalize frames.tick pool target = result at outcome ⊢
  cases outcome with
  | skipped halted => exact counted
  | terminated running lost => simpa [FrameLoop.Counted] using counted
  | settled running handle holding answer next done =>
      have drawing := drawing_step target frames.smoothingFactor
      have written := with_engine_rendered pool next handle _ answer drawing done
      intro few
      change renders next.journal < UInt64.size at few
      -- One more frame still has room in every counter, since each of them is at most the number of frames.
      obtain ⟨before, drawn⟩ := counted (by omega)
      have after := with_engine_drawn pool next handle _ answer drawing done (by omega)
      cases answer with
      | ok _ =>
          have more := counter_succ frames.ticksRendered (by omega)
          change next.framesDrawn = pool.framesDrawn + 1 at after
          simp only [FrameLoop.settle, more]
          omega
      | error fault =>
          have more := counter_succ frames.tickFaults (by omega)
          change next.framesDrawn = pool.framesDrawn at after
          simp only [FrameLoop.settle, more]
          omega

theorem advance_counted {σ : Type} [FrameSource σ] (targets : Nat → Camera) (fuel : Nat) (run : FrameLoop.Run σ)
    (rest others : Nat) (fewer : others ≤ rest) (counted : run.frames.Counted run.pool rest others) :
    (FrameLoop.Run.advance targets fuel run).frames.Counted (FrameLoop.Run.advance targets fuel run).pool rest others :=
  loop_run_keeps (fun frames pool => frames.Counted pool rest others) targets
    (fun frames pool target => tick_counted frames pool target rest others fewer) fuel run counted

namespace Bench

def ticksRendered (bench : Bench) : Nat := (bench.loops.map fun frames => frames.ticksRendered.toNat).sum

def tickFaults (bench : Bench) : Nat := (bench.loops.map fun frames => frames.tickFaults.toNat).sum

def ownFrame : Action × Answer → Option (Except EngineFault Unit)
  | (.command _ .renderFrame, .engine answer) => some answer
  | _ => none

def ownFrames (actions : List Action) (answers : List Answer) : List (Except EngineFault Unit) :=
  (actions.zip answers).filterMap ownFrame

structure Undrawn (next bench : Bench) : Prop where
  pool : next.pool.Undrawn bench.pool
  rendered : next.ticksRendered = bench.ticksRendered
  faults : next.tickFaults = bench.tickFaults

theorem undrawn_same (bench : Bench) : bench.Undrawn bench := ⟨undrawn_refl bench.pool, rfl, rfl⟩

theorem undrawn_pool (next bench : Bench) (pool : next.pool.Undrawn bench.pool) (loops : next.loops = bench.loops) :
    next.Undrawn bench :=
  ⟨pool, by rw [ticksRendered, loops, ticksRendered], by rw [tickFaults, loops, tickFaults]⟩

theorem undrawn_loop (bench : Bench) (index : Nat) (frames next : FrameLoop) (found : bench.loops[index]? = some frames)
    (rendered : next.ticksRendered = frames.ticksRendered) (faults : next.tickFaults = frames.tickFaults) :
    Undrawn { bench with loops := bench.loops.set index next } bench := by
  obtain ⟨others, now, later⟩ := total_split (fun frames => frames.ticksRendered.toNat) bench.loops index frames found
  obtain ⟨more, nowFaults, laterFaults⟩ := total_split (fun frames => frames.tickFaults.toNat) bench.loops index frames found
  refine ⟨undrawn_refl bench.pool, ?_, ?_⟩
  · rw [ticksRendered, later, rendered, ticksRendered, now]
  · rw [tickFaults, laterFaults, faults, tickFaults, nowFaults]

theorem release_handle_undrawn (bench : Bench) (handle : Handle) : (bench.releaseHandle handle).2.Undrawn bench :=
  undrawn_pool _ bench (release_undrawn bench.pool handle) rfl

theorem start_undrawn (bench : Bench) (index : Nat) (frames : FrameLoop) (handle : Handle)
    (found : bench.loops[index]? = some frames) :
    Undrawn { bench with loops := bench.loops.set index (frames.start bench.pool handle).2 } bench := by
  have counters : (frames.start bench.pool handle).2.ticksRendered = frames.ticksRendered ∧
      (frames.start bench.pool handle).2.tickFaults = frames.tickFaults := by
    rw [FrameLoop.start]
    split
    · exact ⟨rfl, rfl⟩
    · split <;> exact ⟨rfl, rfl⟩
  exact undrawn_loop bench index frames _ found counters.1 counters.2

def Action.mayDraw : Action → Bool
  | .command _ .renderFrame | .tickLoop _ _ | .runLoop _ _ _ => true
  | _ => false

theorem perform_undrawn (bench : Bench) (action : Action) (other : action.mayDraw = false) :
    (bench.perform action).2.Undrawn bench := by
  have same := undrawn_same bench
  have turnover := undrawn_turnover bench.pool
  have still := undrawn_refl bench.pool
  cases action with
  | acquire surface =>
      refine managing_found (Undrawn · bench) bench _ same fun _ => undrawn_pool _ bench ?_ (acquire_loops bench surface)
      simpa using acquire_keeps _ turnover bench.pool surface still
  | releaseSurface surface =>
      exact managing_found (Undrawn · bench) bench _ same fun _ =>
        undrawn_pool _ bench (release_surface_keeps _ turnover bench.pool surface still) rfl
  | askLive surface => exact managing_found (Undrawn · bench) bench _ same fun _ => same
  | releaseAll =>
      exact managing_found (Undrawn · bench) bench _ same fun _ =>
        undrawn_pool _ bench (release_all_keeps _ turnover bench.pool still) rfl
  | retire =>
      exact managing_found (Undrawn · bench) bench _ same fun _ =>
        undrawn_pool _ bench (release_all_keeps _ turnover bench.pool still) rfl
  | releaseLease index =>
      exact with_lease_found (Undrawn · bench) bench index _ same fun lease _ => release_handle_undrawn bench lease
  | dropLease index =>
      exact with_lease_found (Undrawn · bench) bench index _ same fun lease _ =>
        undrawn_pool _ bench (release_undrawn bench.pool lease) rfl
  | forgetLease index =>
      exact with_lease_found (Undrawn · bench) bench index _ same fun _ _ =>
        undrawn_pool _ bench still rfl
  | share index =>
      exact with_lease_found (Undrawn · bench) bench index _ same fun _ _ =>
        undrawn_pool _ bench still rfl
  | copyHandle index =>
      exact with_handle_found (Undrawn · bench) bench index _ same fun _ _ =>
        undrawn_pool _ bench still rfl
  | releaseHandle index =>
      exact with_handle_found (Undrawn · bench) bench index _ same fun handle _ => release_handle_undrawn bench handle
  | command index command =>
      have undrawing : command ≠ .renderFrame := by
        rintro rfl
        cases other
      exact command_found (Undrawn · bench) bench index command same fun handle answer next done =>
        undrawn_pool _ bench
          (with_engine_undrawn bench.pool next handle _ answer (undrawing_command command undrawing) done) rfl
  | sync index graph =>
      exact with_handle_found (Undrawn · bench) bench index _ same fun handle _ =>
        undrawn_pool _ bench (sync_undrawn bench.pool handle graph) rfl
  | createLoop factor =>
      refine ⟨still, ?_, ?_⟩
      · simp [perform, ticksRendered, FrameLoop.create]
      · simp [perform, tickFaults, FrameLoop.create]
  | startLoop index handle =>
      refine with_loop_found (Undrawn · bench) bench index _ same ?_
      intro frames found
      exact with_handle_found (Undrawn · bench) bench handle _ same fun target _ =>
        start_undrawn bench index frames target found
  | stopLoop index =>
      refine with_loop_found (Undrawn · bench) bench index _ same ?_
      intro frames found
      exact undrawn_loop bench index frames _ found (stop_rendered frames) (stop_faults frames)
  | tickLoop index target => cases other
  | runLoop index budget targets => cases other
  | createViewport viewport => exact undrawn_pool _ bench still rfl
  | resizeViewport index handle size =>
      exact with_handle_found (Undrawn · bench) bench handle _ same fun target _ =>
        resize_viewport_found (Undrawn · bench) bench index target size same fun recorded =>
          undrawn_pool _ bench (resize_undrawn recorded bench.pool target size) rfl

def Counted (bench : Bench) (own : List (Except EngineFault Unit)) : Prop :=
  renders bench.pool.journal < UInt64.size →
    renders bench.pool.journal = bench.ticksRendered + bench.tickFaults + own.length ∧
      bench.pool.framesDrawn = bench.ticksRendered + own.countP Except.isOk

theorem undrawn_counted (next bench : Bench) (own : List (Except EngineFault Unit)) (undrawn : next.Undrawn bench)
    (counted : bench.Counted own) : next.Counted own := by
  rw [Counted, undrawn.pool.journal, undrawn.pool.frames, undrawn.rendered, undrawn.faults]
  exact counted

theorem loop_counted (bench : Bench) (index : Nat) (frames next : FrameLoop) (pool : Pool)
    (own : List (Except EngineFault Unit)) (found : bench.loops[index]? = some frames) (counted : bench.Counted own)
    (step : ∀ rest others, others ≤ rest → frames.Counted bench.pool rest others → next.Counted pool rest others) :
    Counted { bench with pool := pool, loops := bench.loops.set index next } own := by
  obtain ⟨others, now, later⟩ := total_split (fun frames => frames.ticksRendered.toNat) bench.loops index frames found
  obtain ⟨more, nowFaults, laterFaults⟩ := total_split (fun frames => frames.tickFaults.toNat) bench.loops index frames found
  -- For the step the other loops and the frames drawn by hand are one constant.
  have fewer : own.countP Except.isOk ≤ own.length := List.countP_le_length
  have after := step (others + more + own.length) (others + own.countP Except.isOk) (by omega) (by
    intro few
    obtain ⟨written, drawn⟩ := counted few
    rw [ticksRendered, tickFaults, now, nowFaults] at written
    rw [ticksRendered, now] at drawn
    omega)
  intro few
  obtain ⟨written, drawn⟩ := after few
  rw [ticksRendered, tickFaults, later, laterFaults]
  dsimp only at written drawn ⊢
  omega

theorem own_frame_counted (bench : Bench) (pool : Pool) (handle : Handle) (answer : Except EngineFault Unit)
    (own : List (Except EngineFault Unit))
    (done : bench.pool.withEngine handle Rig.renderFrame = some (answer, pool)) (counted : bench.Counted own) :
    Counted { bench with pool := pool } (own ++ [answer]) := by
  have written := with_engine_rendered bench.pool pool handle _ answer drawing_render done
  have fewer : own.countP Except.isOk ≤ own.length := List.countP_le_length
  intro few
  change renders pool.journal < UInt64.size at few
  obtain ⟨before, drawn⟩ := counted (by omega)
  have after := with_engine_drawn bench.pool pool handle _ answer drawing_render done (by omega)
  change renders pool.journal = bench.ticksRendered + bench.tickFaults + _ ∧
    pool.framesDrawn = bench.ticksRendered + _
  rw [List.length_append, List.countP_append, List.countP_singleton, List.length_singleton]
  omega

theorem perform_counted (bench : Bench) (action : Action) (own : List (Except EngineFault Unit))
    (counted : bench.Counted own) :
    (bench.perform action).2.Counted (own ++ (ownFrame (action, (bench.perform action).1)).toList) := by
  -- Three actions can draw, and only a command of the holder adds to the frames of its own.
  by_cases draws : action.mayDraw = true
  · cases action with
    | command index command =>
        cases command with
        | renderFrame =>
            cases found : bench.handles[index]? with
            | none => simpa [perform, withHandle, found, ownFrame] using counted
            | some handle =>
                cases done : bench.pool.withEngine handle Rig.renderFrame with
                | none => simpa [perform, withHandle, found, Rig.perform, done, ownFrame] using counted
                | some result =>
                    have after := own_frame_counted bench result.2 handle result.1 own done counted
                    simpa [perform, withHandle, found, Rig.perform, done, ownFrame] using after
        | _ => cases draws
    | tickLoop index target =>
        rw [show ownFrame (.tickLoop index target, _) = none from rfl, Option.toList_none, List.append_nil]
        refine with_loop_found (Counted · own) bench index _ counted ?_
        intro frames found
        exact loop_counted bench index frames _ _ own found counted (tick_counted frames bench.pool target)
    | runLoop index budget targets =>
        rw [show ownFrame (.runLoop index budget targets, _) = none from rfl, Option.toList_none, List.append_nil]
        refine with_loop_found (Counted · own) bench index _ counted ?_
        intro frames found
        exact loop_counted bench index frames _ _ own found counted fun rest others =>
          advance_counted (cycle targets) _ ⟨frames, bench.pool, _, 0, 0⟩ rest others
    | _ => cases draws
  · have silent : ownFrame (action, (bench.perform action).1) = none := by
      cases action with
      | command index command =>
          cases command with
          | renderFrame => exact absurd rfl draws
          | _ => rfl
      | _ => rfl
    rw [silent, Option.toList_none, List.append_nil]
    exact undrawn_counted _ bench own (perform_undrawn bench action (by simpa using draws)) counted

theorem history_counted (bench : Bench) (actions : List Action) (own : List (Except EngineFault Unit))
    (counted : bench.Counted own) :
    (History.run perform bench actions).2.Counted (own ++ ownFrames actions (History.run perform bench actions).1) := by
  induction actions generalizing bench own with
  | nil => simpa [ownFrames] using counted
  | cons action rest ih =>
      have later := ih _ _ (perform_counted bench action own counted)
      cases own : ownFrame (action, (bench.perform action).1) <;> simpa [ownFrames, own] using later

end Bench

theorem every_frame_is_counted (plan : List Provision) (actions : List Bench.Action)
    (few : renders (History.final Bench.perform (.create plan) actions).pool.journal < UInt64.size) :
    let run := History.run Bench.perform (.create plan) actions
    let bench := run.2
    let own := Bench.ownFrames actions run.1
    renders bench.pool.journal = bench.ticksRendered + bench.tickFaults + own.length ∧
      bench.pool.framesDrawn = bench.ticksRendered + own.countP Except.isOk :=
  Bench.history_counted (.create plan) actions [] (fun _ => ⟨rfl, rfl⟩) few

def Bench.sharedEngine : List Bench.Action :=
  -- two loops share an engine. The fault that is meant for the host's frame hits a loop, a loop outlives the engine, and
  -- the host still tries its stale handle when the surface has a new engine.
  let surface := (Surface.create "#canvas" ⟨800, 600⟩).withCapability .webGl2
  [.acquire surface, .share 0, .createLoop 0.5, .createLoop 0.25, .startLoop 0 0, .startLoop 1 0,
    .tickLoop 0 Engine.initialCamera, .command 0 (.failNextRender "lost"), .tickLoop 1 Engine.initialCamera,
    .command 0 .renderFrame, .command 0 (.failNextRender "lost"), .command 0 .renderFrame,
    .runLoop 1 3 [Engine.initialCamera], .acquire surface, .share 1, .runLoop 0 2 [Engine.initialCamera],
    .command 0 .renderFrame, .command 1 .renderFrame]

theorem every_frame_is_counted_shared :
    let run := History.run Bench.perform (.create []) Bench.sharedEngine
    let own := Bench.ownFrames Bench.sharedEngine run.1
    renders run.2.pool.journal = 8 ∧ run.2.loops.map FrameLoop.ticksRendered = [1, 3] ∧
      run.2.loops.map FrameLoop.tickFaults = [0, 1] ∧ own.length = 3 ∧ own.countP Except.isOk = 2 ∧
      run.2.pool.slots.map (fun slot => slot.engine.frames) = [5, 1] ∧
      renders run.2.pool.journal = run.2.ticksRendered + run.2.tickFaults + own.length ∧
      run.2.pool.framesDrawn = run.2.ticksRendered + own.countP Except.isOk := by
  have few : renders (History.final Bench.perform (.create []) Bench.sharedEngine).pool.journal < UInt64.size := by
    decide +kernel
  have counted := every_frame_is_counted [] Bench.sharedEngine few
  refine ⟨?_, ?_, ?_, ?_, ?_, ?_, counted⟩
  all_goals decide +kernel

end Plotter
