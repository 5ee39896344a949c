import Plotter.Proofs.Coherence

set_option autoImplicit false

namespace Plotter

def TickOutcome.isFaulted : TickOutcome → Bool
  | .faulted _ => true
  | _ => false

namespace Session

def tickTimes : Nat → Session → List TickOutcome × Session
  | 0, session => ([], session)
  | count + 1, session =>
    let (outcome, next) := session.tick
    let (outcomes, last) := tickTimes count next
    (outcome :: outcomes, last)

@[simp] theorem tick_times_zero (session : Session) : session.tickTimes 0 = ([], session) := rfl

@[simp] theorem tick_times_succ (count : Nat) (session : Session) :
    session.tickTimes (count + 1) =
      (session.tick.1 :: (session.tick.2.tickTimes count).1, (session.tick.2.tickTimes count).2) := rfl

@[simp] theorem tick_times_length (count : Nat) (session : Session) :
    (session.tickTimes count).1.length = count := by
  induction count generalizing session with
  | zero => rfl
  | succ count ih => simp [ih]

theorem tick_times_add (first second : Nat) (session : Session) :
    session.tickTimes (first + second) =
      ((session.tickTimes first).1 ++ ((session.tickTimes first).2.tickTimes second).1,
        ((session.tickTimes first).2.tickTimes second).2) := by
  induction first generalizing session with
  | zero => simp
  | succ first ih => simp [Nat.add_right_comm, ih]

theorem tick_halted (session : Session) (halted : session.frames.state ≠ .running) :
    session.tick = (.skipped, session) := by
  have outcome := tick_cases session
  generalize session.tick = result at outcome ⊢
  cases outcome with
  | skipped => rfl
  | terminated running lost => exact absurd running halted
  | rendered running handle holding next done => exact absurd running halted
  | faulted running handle holding fault next done => exact absurd running halted

theorem tick_times_halted (count : Nat) (session : Session) (halted : session.frames.state ≠ .running) :
    session.tickTimes count = (List.replicate count .skipped, session) := by
  induction count with
  | zero => rfl
  | succ count ih => simp [tick_halted session halted, ih, List.replicate_succ]

@[simp] theorem tick_controller (session : Session) : session.tick.2.controller = session.controller := by
  have outcome := tick_cases session
  generalize session.tick = result at outcome ⊢
  cases outcome with
  | skipped halted => rfl
  | terminated running lost => rw [forget_next]
  | rendered running handle holding next done => rfl
  | faulted running handle holding fault next done => rfl

theorem tick_faults (session : Session) :
    session.tick.2.frames.tickFaults =
      session.frames.tickFaults + if session.tick.1.isFaulted then 1 else 0 := by
  have outcome := tick_cases session
  generalize session.tick = result at outcome ⊢
  cases outcome with
  | skipped halted => simp [TickOutcome.isFaulted]
  | terminated running lost => simp [forget_next, TickOutcome.isFaulted]
  | rendered running handle holding next done => simp [TickOutcome.isFaulted]
  | faulted running handle holding fault next done => simp [TickOutcome.isFaulted]

theorem work_keeps_live {α : Type} (session next : Session) (handle : Handle) (action : Rig → α × Rig) (answer : α)
    (done : session.pool.withEngine handle action = some (answer, next.pool)) (lease : next.lease = session.lease)
    (alive : session.engineIsLive = true) : next.engineIsLive = true := by
  obtain ⟨held, leased, live⟩ := (engine_is_live_iff session).mp alive
  refine (engine_is_live_iff next).mpr ⟨held, lease.trans leased, ?_⟩
  rw [is_live_at, with_engine_live_at session.pool next.pool handle action answer done, ← is_live_at]
  exact live

theorem tick_live (session : Session) (coherent : session.Coherent) (alive : session.engineIsLive = true) :
    session.tick.2.engineIsLive = true ∧
      (session.tick.1 = .rendered ∨ ∃ fault, session.tick.1 = .faulted fault) := by
  obtain ⟨handle, held, live⟩ := (engine_is_live_iff session).mp alive
  have bound := (coherent.bound handle held).1
  have outcome := tick_cases session
  generalize session.tick = result at outcome ⊢
  cases outcome with
  | skipped halted => exact absurd (coherent.running.mpr (by simp [held])) halted
  | terminated running lost =>
      rw [lost handle bound] at live
      cases live
  -- A tick draws and moves the camera, and neither can release the engine.
  | rendered running other holding next done =>
      exact ⟨work_keeps_live session _ other _ _ done rfl alive, .inl rfl⟩
  | faulted running other holding fault next done =>
      exact ⟨work_keeps_live session _ other _ _ done rfl alive, .inr ⟨fault, rfl⟩⟩

theorem tick_lost (session : Session) (coherent : session.Coherent) (running : session.frames.state = .running)
    (dead : session.engineIsLive = false) : session.tick = (.terminated, session.forgetReleasedEngine) := by
  obtain ⟨handle, held⟩ := Option.isSome_iff_exists.mp (coherent.running.mp running)
  have bound := (coherent.bound handle held).1
  have gone : session.pool.isLive handle = false := by simpa [engineIsLive, held] using dead
  have outcome := tick_cases session
  generalize session.tick = result at outcome ⊢
  cases outcome with
  | skipped halted => exact absurd running halted
  | terminated running lost => rfl
  | rendered running other holding next done =>
      cases bound.symm.trans holding
      rw [with_engine_dead session.pool handle _ gone] at done
      cases done
  | faulted running other holding fault next done =>
      cases bound.symm.trans holding
      rw [with_engine_dead session.pool handle _ gone] at done
      cases done

theorem tick_times_live (count : Nat) (session : Session) (coherent : session.Coherent)
    (alive : session.engineIsLive = true) :
    (session.tickTimes count).1.count .rendered + (session.tickTimes count).1.countP TickOutcome.isFaulted = count := by
  induction count generalizing session with
  | zero => rfl
  | succ count ih =>
      obtain ⟨stays, outcome⟩ := tick_live session coherent alive
      have rest := ih session.tick.2 (tick_coherent session coherent) stays
      have one : (if session.tick.1 == .rendered then 1 else 0) + (if session.tick.1.isFaulted then 1 else 0) = 1 := by
        rcases outcome with rendered | ⟨fault, faulted⟩
        · rw [rendered]
          rfl
        · rw [faulted]
          rfl
      simp only [tick_times_succ, List.count_cons, List.countP_cons]
      omega

theorem tick_times_faults (count : Nat) (session : Session) :
    (session.tickTimes count).2.frames.tickFaults =
      session.frames.tickFaults + UInt64.ofNat ((session.tickTimes count).1.countP TickOutcome.isFaulted) := by
  induction count generalizing session with
  | zero => exact (UInt64.add_zero _).symm
  | succ count ih =>
      cases faulted : session.tick.1.isFaulted <;> simp [ih, tick_faults, faulted, UInt64.add_assoc, UInt64.add_comm]

variable {σ τ : Type} [FrameSource σ] [FrameSource τ]

theorem advance_halted (fuel : Nat) (run : Run σ) (halted : run.session.frames.state ≠ .running) :
    Run.advance fuel run = run := by
  cases fuel with
  | zero => rfl
  | succ fuel => rw [Run.advance, if_pos halted]

theorem advance_running (fuel : Nat) (run : Run σ) (running : run.session.frames.state = .running)
    (enough : FrameSource.left run.source = fuel + 1) :
    ∃ rest, FrameSource.next? run.source = some rest ∧ FrameSource.left rest = fuel ∧
      Run.advance (fuel + 1) run =
        Run.advance fuel ⟨run.session.tick.2, rest,
          if run.session.tick.1 = .rendered then run.rendered + 1 else run.rendered⟩ := by
  have more : FrameSource.left run.source ≠ 0 := by omega
  obtain ⟨rest, taken⟩ := Option.isSome_iff_exists.mp (FrameSource.next?_of_left more)
  have shorter := FrameSource.left_next? taken
  refine ⟨rest, taken, by omega, ?_⟩
  rw [Run.advance, if_neg (not_not_intro running), taken]

/-- Ticks behind the end of a run are skipped, so it does not matter that the run leaves them out. -/
theorem advance_ticks (fuel : Nat) (run : Run σ) (enough : FrameSource.left run.source = fuel) :
    (Run.advance fuel run).session = (run.session.tickTimes fuel).2 ∧
      (Run.advance fuel run).rendered = run.rendered + UInt64.ofNat ((run.session.tickTimes fuel).1.count .rendered) := by
  induction fuel generalizing run with
  | zero => exact ⟨rfl, (UInt64.add_zero _).symm⟩
  | succ fuel ih =>
      by_cases running : run.session.frames.state = .running
      · obtain ⟨rest, _, shorter, step⟩ := advance_running fuel run running enough
        obtain ⟨session, rendered⟩ := ih ⟨run.session.tick.2, rest, _⟩ shorter
        rw [step, session, rendered]
        by_cases drawn : run.session.tick.1 = .rendered <;> simp [drawn, UInt64.add_assoc, UInt64.add_comm]
      · rw [advance_halted _ run running, tick_times_halted _ _ running]
        exact ⟨rfl, by simp [List.count_replicate]⟩

theorem advance_left_live (fuel : Nat) (run : Run σ) (coherent : run.session.Coherent)
    (alive : run.session.engineIsLive = true) (enough : FrameSource.left run.source = fuel) :
    FrameSource.left (Run.advance fuel run).source = 0 := by
  induction fuel generalizing run with
  | zero => exact enough
  | succ fuel ih =>
      obtain ⟨handle, held, _⟩ := (engine_is_live_iff run.session).mp alive
      have running := coherent.running.mpr (by simp [held])
      obtain ⟨rest, _, shorter, step⟩ := advance_running fuel run running enough
      rw [step]
      exact ih ⟨run.session.tick.2, rest, _⟩ (tick_coherent run.session coherent)
        (tick_live run.session coherent alive).1 shorter

theorem advance_left_lost (fuel : Nat) (run : Run σ) (coherent : run.session.Coherent)
    (running : run.session.frames.state = .running) (dead : run.session.engineIsLive = false)
    (enough : FrameSource.left run.source = fuel + 1) :
    FrameSource.left (Run.advance (fuel + 1) run).source = fuel := by
  obtain ⟨rest, _, shorter, step⟩ := advance_running fuel run running enough
  rw [step, tick_lost run.session coherent running dead, advance_halted]
  · exact shorter
  · simp [forget_next]

theorem advance_alike (fuel : Nat) (run : Run σ) (other : Run τ) (enough : FrameSource.left run.source = fuel)
    (also : FrameSource.left other.source = fuel) (session : run.session = other.session)
    (rendered : run.rendered = other.rendered) :
    (Run.advance fuel run).session = (Run.advance fuel other).session ∧
      (Run.advance fuel run).rendered = (Run.advance fuel other).rendered ∧
      FrameSource.left (Run.advance fuel run).source = FrameSource.left (Run.advance fuel other).source := by
  -- On the fuel, which both sources have left: the runs differ in the sources only.
  induction fuel generalizing run other with
  | zero => exact ⟨session, rendered, enough.trans also.symm⟩
  | succ fuel ih =>
      by_cases running : run.session.frames.state = .running
      · obtain ⟨rest, _, shorter, step⟩ := advance_running fuel run running enough
        obtain ⟨others, _, alsoShorter, alike⟩ := advance_running fuel other (session ▸ running) also
        rw [step, alike]
        exact ih _ _ shorter alsoShorter (by rw [session]) (by rw [session, rendered])
      · rw [advance_halted _ run running, advance_halted _ other (session ▸ running)]
        exact ⟨session, rendered, enough.trans also.symm⟩

theorem tick_in_loop (session : Session) (coherent : session.Coherent) :
    session.frames.tick session.pool session.controller.target =
      (session.tick.1, session.tick.2.frames, session.tick.2.pool) := by
  have outcome := Plotter.tick_cases session.frames session.pool session.controller.target
  rw [tick]
  generalize session.frames.tick session.pool session.controller.target = result at outcome ⊢
  cases outcome with
  | skipped halted => rfl
  | terminated running lost =>
      obtain ⟨handle, held⟩ := Option.isSome_iff_exists.mp (coherent.running.mp running)
      have gone := lost handle (coherent.bound handle held).1
      dsimp only
      rw [forget_stopped, forget_next, let_go_some session handle held, release_dead session.pool handle gone]
  | settled running handle holding answer next done => cases answer <;> rfl

structure InStep (frames : FrameLoop.Run σ) (run : Run σ) : Prop where
  loop : frames.frames = run.session.frames
  pool : frames.pool = run.session.pool
  source : frames.source = run.source
  rendered : frames.rendered = run.rendered

theorem loop_in_step (fuel : Nat) (frames : FrameLoop.Run σ) (run : Run σ) (coherent : run.session.Coherent)
    (before : InStep frames run) :
    InStep (FrameLoop.Run.advance (fun _ => run.session.controller.target) fuel frames) (Run.advance fuel run) := by
  induction fuel generalizing frames run with
  | zero => exact before
  | succ fuel ih =>
      rw [FrameLoop.Run.advance, Run.advance, before.loop, before.source]
      by_cases running : run.session.frames.state = .running
      · rw [if_neg (not_not_intro running), if_neg (not_not_intro running)]
        cases FrameSource.next? run.source with
        | none => exact before
        | some rest =>
            dsimp only
            -- No tick moves the target, so the loop may be given the one of the start for every frame.
            rw [before.pool, tick_in_loop run.session coherent, ← tick_controller run.session, before.rendered]
            refine ih _ ⟨run.session.tick.2, rest, _⟩ (tick_coherent run.session coherent) ?_
            exact ⟨rfl, rfl, rfl, rfl⟩
      · rw [if_pos running, if_pos running]
        exact before

theorem budget_ticks (session : Session) (frames : UInt64) :
    (session.runFrames (FrameBudget.mk frames)).session = (session.tickTimes frames.toNat).2 ∧
      (session.runFrames (FrameBudget.mk frames)).rendered.toNat = (session.tickTimes frames.toNat).1.count .rendered := by
  obtain ⟨last, rendered⟩ := advance_ticks frames.toNat (Run.mk session (FrameBudget.mk frames) 0) rfl
  have bound : (session.tickTimes frames.toNat).1.count .rendered ≤ frames.toNat :=
    Nat.le_trans List.count_le_length (by simp)
  have short := Nat.lt_of_le_of_lt bound frames.toNat_lt_size
  rw [UInt64.zero_add] at rendered
  exact ⟨last, (congrArg UInt64.toNat rendered).trans (UInt64.toNat_ofNat_of_lt' short)⟩

theorem budget_add (session : Session) (first second : UInt64) (short : first.toNat + second.toNat < UInt64.size) :
    let earlier := session.runFrames (FrameBudget.mk first)
    let later := earlier.session.runFrames (FrameBudget.mk second)
    let whole := session.runFrames (FrameBudget.mk (first + second))
    whole.session = later.session ∧ whole.rendered.toNat = earlier.rendered.toNat + later.rendered.toNat := by
  intro earlier later whole
  have total : (first + second).toNat = first.toNat + second.toNat := by
    rw [UInt64.toNat_add]
    exact Nat.mod_eq_of_lt short
  obtain ⟨middle, before⟩ := budget_ticks session first
  obtain ⟨last, after⟩ := budget_ticks earlier.session second
  obtain ⟨same, altogether⟩ := budget_ticks session (first + second)
  rw [total, tick_times_add, ← middle] at same altogether
  rw [List.count_append, ← before] at altogether
  exact ⟨same.trans last.symm, altogether.trans (congrArg (earlier.rendered.toNat + ·) after.symm)⟩

theorem budget_ext (budget other : FrameBudget) (same : budget.left = other.left) : budget = other := by
  obtain ⟨remaining⟩ := budget
  obtain ⟨others⟩ := other
  exact congrArg FrameBudget.mk (UInt64.toNat_inj.mp same)

theorem budget_left_halted (session : Session) (frames : UInt64) (halted : session.frames.state ≠ .running) :
    (session.runFrames (FrameBudget.mk frames)).source = ⟨frames⟩ :=
  congrArg Run.source (advance_halted _ (Run.mk session (FrameBudget.mk frames) 0) halted)

theorem budget_left_lost (session : Session) (frames : UInt64) (coherent : session.Coherent)
    (running : session.frames.state = .running) (dead : session.engineIsLive = false) (positive : frames ≠ 0) :
    (session.runFrames (FrameBudget.mk frames)).source = ⟨frames - 1⟩ := by
  have taken : (FrameBudget.mk frames).next? = some ⟨frames - 1⟩ := if_neg positive
  have shorter := FrameBudget.left_of_next? taken
  have left := advance_left_lost _ (Run.mk session (FrameBudget.mk frames) 0) coherent running dead shorter
  apply budget_ext
  rw [runFrames, show FrameSource.left (FrameBudget.mk frames) = _ from shorter]
  exact left

theorem budget_left_live (session : Session) (frames : UInt64) (coherent : session.Coherent)
    (alive : session.engineIsLive = true) : (session.runFrames (FrameBudget.mk frames)).source = ⟨0⟩ :=
  budget_ext _ ⟨0⟩ (advance_left_live _ (Run.mk session (FrameBudget.mk frames) 0) coherent alive rfl)

theorem paced_alike (session : Session) (pace : Pace) (frames : UInt64) :
    let paced := session.runFrames (pace.limit frames)
    let run := session.runFrames (FrameBudget.mk frames)
    paced.session = run.session ∧ paced.rendered = run.rendered ∧ paced.source.budget = run.source := by
  obtain ⟨last, rendered, left⟩ := advance_alike frames.toNat (Run.mk session (pace.limit frames) 0)
    (Run.mk session (FrameBudget.mk frames) 0) rfl rfl rfl rfl
  exact ⟨last, rendered, budget_ext _ _ left⟩

end Session

theorem frames_are_ticks (plan : List Provision) (surface : Surface) (config : Config) (session current : Session)
    (stage : Stage) (frames : UInt64) (created : Session.create plan surface config = .ok session)
    (reached : Stage.Reachable (.create session) stage) (playing : stage.play = .ok current) :
    let run := current.runFrames (FrameBudget.mk frames)
    let ticks := current.tickTimes frames.toNat
    (run.session = ticks.2 ∧ run.rendered.toNat = ticks.1.count .rendered) ∧
    (∀ first second : UInt64, first.toNat + second.toNat < UInt64.size →
      let earlier := current.runFrames (FrameBudget.mk first)
      let later := earlier.session.runFrames (FrameBudget.mk second)
      let whole := current.runFrames (FrameBudget.mk (first + second))
      whole.session = later.session ∧ whole.rendered.toNat = earlier.rendered.toNat + later.rendered.toNat) ∧
    ((current.frames.state ≠ .running → run.source.remaining = frames) ∧
      (current.frames.state = .running → frames ≠ 0 → current.engineIsLive = false →
        run.source.remaining = frames - 1) ∧
      (current.engineIsLive = true →
        run.source.remaining = 0 ∧ run.rendered.toNat + ticks.1.countP TickOutcome.isFaulted = frames.toNat ∧
        run.session.frames.tickFaults =
          current.frames.tickFaults + UInt64.ofNat (ticks.1.countP TickOutcome.isFaulted))) ∧
    (∀ pace : Pace,
      let paced := current.runFrames (pace.limit frames)
      paced.session = run.session ∧ paced.rendered = run.rendered ∧ paced.source.budget = run.source) ∧
    let loop := current.frames.run current.pool (FrameBudget.mk frames) (fun _ => current.controller.target)
    loop.pool = run.session.pool ∧ loop.frames = run.session.frames ∧ loop.rendered = run.rendered ∧
      loop.source = run.source := by
  intro run ticks
  have coherent := Stage.playing_coherent plan surface config session current stage created reached playing
  obtain ⟨last, rendered⟩ := Session.budget_ticks current frames
  refine ⟨⟨last, rendered⟩, Session.budget_add current, ⟨?_, ?_, ?_⟩,
    fun pace => Session.paced_alike current pace frames, ?_⟩
  · intro halted
    rw [show run.source = _ from Session.budget_left_halted current frames halted]
  · intro running positive dead
    rw [show run.source = _ from Session.budget_left_lost current frames coherent running dead positive]
  · intro alive
    rw [show run.source = _ from Session.budget_left_live current frames coherent alive,
      show run.session = _ from last, show run.rendered.toNat = _ from rendered]
    exact ⟨rfl, Session.tick_times_live frames.toNat current coherent alive,
      Session.tick_times_faults frames.toNat current⟩
  · have even := Session.loop_in_step frames.toNat ⟨current.frames, current.pool, FrameBudget.mk frames, 0, 0⟩
      (Session.Run.mk current (FrameBudget.mk frames) 0) coherent ⟨rfl, rfl, rfl, rfl⟩
    exact ⟨even.pool, even.loop, even.rendered, even.source⟩

def spoiledActions : List Stage.Action :=
  [.operate .acquire, .operate .acquire, .share, .operate .tick, .command 0 (.failNextRender "lost")]

theorem frames_are_ticks_spoiled :
    ∃ current, (sampleStage rejectedPlan spoiledActions).play = .ok current ∧
      (current.tickTimes 3).1 = [.faulted ⟨"lost"⟩, .rendered, .rendered] ∧
      (current.runFrames (FrameBudget.mk 3)).session = (current.tickTimes 3).2 ∧
      (current.runFrames (FrameBudget.mk 3)).rendered.toNat = 2 ∧
      (current.runFrames (FrameBudget.mk 3)).source.remaining = 0 ∧
      (current.runFrames (FrameBudget.mk 3)).session.frames.tickFaults = 1 := by
  obtain ⟨current, playing, alive, outcomes, sound⟩ :
      ∃ current, (sampleStage rejectedPlan spoiledActions).play = .ok current ∧ current.engineIsLive = true ∧
        (current.tickTimes 3).1 = [.faulted ⟨"lost"⟩, .rendered, .rendered] ∧ current.frames.tickFaults = 0 :=
    ⟨_, rfl, rfl, rfl, rfl⟩
  obtain ⟨⟨last, rendered⟩, _, ⟨_, _, live⟩, _, _⟩ :=
    frames_are_ticks rejectedPlan sampleSurface sampleConfig (Session.fresh rejectedPlan sampleSurface sampleConfig)
      current _ 3 rfl (sample_reachable _ _) playing
  obtain ⟨left, _, faults⟩ := live alive
  rw [show (3 : UInt64).toNat = 3 from rfl, outcomes] at rendered faults
  rw [sound] at faults
  exact ⟨current, playing, outcomes, last, rendered, left, faults⟩

end Plotter
