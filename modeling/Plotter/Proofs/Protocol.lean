import Mathlib.Computability.Language
import Plotter.Proofs.Coherence
import Plotter.Proofs.History

/-!
The order in which a session calls its engines: one engine after another, each started once, worked in
whole blocks of calls and released once before the next one starts.
-/

set_option autoImplicit false

open scoped Computability

namespace Plotter

inductive CallBlock : List Call → Prop where
  | fault : CallBlock [.renderFrame]
  | frame (x y zoom : Float32) : CallBlock [.renderFrame, .setCameraRotation x y, .setCameraZoom zoom]
  | size (viewport : Viewport) (wide : viewport.width ≠ 0) (high : viewport.height ≠ 0) :
      CallBlock [.setViewport viewport]
  | flag (enabled : Bool) : CallBlock [.setAnimationEnabled enabled]
  | load (enabled : Bool) (formulas : List Formula) :
      CallBlock [.setAnimationEnabled enabled, .setEquations formulas]

def blockCalls : Language Call := {calls | CallBlock calls}

def openLife : Language Call := {[.start]} * blockCalls∗

def wholeLife : Language Call := openLife * {[.release]}

theorem start_opens (calls : List Call) (closed : calls ∈ wholeLife∗) : calls ++ [.start] ∈ wholeLife∗ * openLife := by
  have opened : [Call.start] ++ [] ∈ openLife :=
    Language.append_mem_mul (Set.mem_singleton [Call.start]) (Language.nil_mem_kstar blockCalls)
  exact Language.append_mem_mul closed opened

theorem blocks_stay_open (calls body : List Call) (opened : calls ∈ wholeLife∗ * openLife)
    (blocks : body ∈ blockCalls∗) : calls ++ body ∈ wholeLife∗ * openLife := by
  have longer : calls ++ body ∈ wholeLife∗ * openLife * blockCalls∗ := Language.append_mem_mul opened blocks
  rwa [openLife, mul_assoc, mul_assoc, kstar_mul_kstar] at longer

theorem release_closes (calls : List Call) (opened : calls ∈ wholeLife∗ * openLife) :
    calls ++ [.release] ∈ wholeLife∗ := by
  have longer : calls ++ [.release] ∈ wholeLife∗ * openLife * {[.release]} :=
    Language.append_mem_mul opened (Set.mem_singleton [Call.release])
  rw [mul_assoc] at longer
  rw [← Language.one_add_kstar_mul_self_eq_kstar, Language.mem_add]
  exact .inr longer

theorem block_inner (body : List Call) (block : CallBlock body) :
    ∀ call ∈ body, call ≠ .start ∧ call ≠ .release := by
  cases block <;> simp

theorem blocks_inner (body : List Call) (blocks : body ∈ blockCalls∗) :
    ∀ call ∈ body, call ≠ .start ∧ call ≠ .release := by
  obtain ⟨words, rfl, each⟩ := Language.mem_kstar.mp blocks
  intro call member
  obtain ⟨word, inside, here⟩ := List.mem_flatten.mp member
  exact block_inner word (each word inside) call here

theorem open_life_shape (calls : List Call) (opened : calls ∈ openLife) :
    ∃ body ∈ blockCalls∗, calls = .start :: body := by
  obtain ⟨first, start, body, blocks, rfl⟩ := Language.mem_mul.mp opened
  cases Set.mem_singleton_iff.mp start
  exact ⟨body, blocks, rfl⟩

theorem whole_life_shape (calls : List Call) (whole : calls ∈ wholeLife) :
    ∃ body ∈ blockCalls∗, calls = .start :: body ++ [.release] := by
  obtain ⟨first, opened, last, release, rfl⟩ := Language.mem_mul.mp whole
  obtain ⟨body, blocks, rfl⟩ := open_life_shape first opened
  cases Set.mem_singleton_iff.mp release
  exact ⟨body, blocks, rfl⟩

def Follows (earlier later : Call) : Prop := earlier = .release ↔ later = .start

theorem inner_chain (first : Call) (body rest : List Call) (busy : first ≠ .release)
    (inner : ∀ call ∈ body, call ≠ .start ∧ call ≠ .release)
    (ending : ∀ call, call ≠ .release → List.IsChain Follows (call :: rest)) :
    List.IsChain Follows (first :: body ++ rest) := by
  induction body generalizing first with
  | nil => exact ending first busy
  | cons call body ih =>
      obtain ⟨running, kept⟩ := inner call (by simp)
      refine List.IsChain.cons_cons ?_ (ih call kept fun other member => inner other (by simp [member]))
      simp [Follows, busy, running]

theorem whole_lives_chain (calls rest : List Call) (closed : calls ∈ wholeLife∗)
    (ending : List.IsChain Follows (.release :: rest)) : List.IsChain Follows (.release :: (calls ++ rest)) := by
  obtain ⟨words, rfl, each⟩ := Language.mem_kstar.mp closed
  induction words with
  | nil => exact ending
  | cons word words ih =>
      obtain ⟨body, blocks, rfl⟩ := whole_life_shape word (each word (by simp))
      have later : ∀ other ∈ words, other ∈ wholeLife := fun other member => each other (by simp [member])
      have tail := ih later (Language.join_mem_kstar later)
      have whole : List.IsChain Follows (.start :: body ++ .release :: (words.flatten ++ rest)) := by
        apply inner_chain .start body _ (by simp) (blocks_inner body blocks)
        intro call busy
        exact List.IsChain.cons_cons (by simp [Follows, busy]) tail
      have step := List.IsChain.cons_cons (show Follows .release .start by simp [Follows]) whole
      simpa using step

theorem open_lives_chain (calls : List Call) (opened : calls ∈ wholeLife∗ * openLife) :
    List.IsChain Follows (.release :: calls) := by
  obtain ⟨before, closed, last, current, rfl⟩ := Language.mem_mul.mp opened
  obtain ⟨body, blocks, rfl⟩ := open_life_shape last current
  apply whole_lives_chain before _ closed
  have inside : List.IsChain Follows (.start :: body ++ []) :=
    inner_chain .start body [] (by simp) (blocks_inner body blocks) fun call _ => List.IsChain.singleton call
  rw [List.append_nil] at inside
  exact List.IsChain.cons_cons (by simp [Follows]) inside

theorem closed_last (calls : List Call) (closed : calls ∈ wholeLife∗) :
    (Call.release :: calls).getLast? = some .release := by
  rw [← Language.one_add_kstar_mul_self_eq_kstar, Language.mem_add] at closed
  rcases closed with empty | longer
  · cases (Language.mem_one calls).mp empty
    rfl
  · obtain ⟨before, _, last, whole, rfl⟩ := Language.mem_mul.mp longer
    obtain ⟨body, _, rfl⟩ := whole_life_shape last whole
    simp [List.getLast?_cons, List.getLast?_append]

theorem open_last (calls : List Call) (opened : calls ∈ wholeLife∗ * openLife) :
    (Call.release :: calls).getLast? ≠ some .release := by
  obtain ⟨before, _, last, current, rfl⟩ := Language.mem_mul.mp opened
  obtain ⟨body, blocks, rfl⟩ := open_life_shape last current
  have busy : ∀ call ∈ Call.start :: body, call ≠ .release := by
    intro call member
    rcases List.mem_cons.mp member with same | inside
    · simp [same]
    · exact (blocks_inner body blocks call inside).2
  rw [show Call.release :: (before ++ .start :: body) = (.release :: before) ++ (.start :: body) from rfl,
    List.getLast?_append_of_ne_nil _ (by simp)]
  intro last
  exact busy .release (List.mem_of_getLast? last) rfl

theorem closed_not_open (calls : List Call) (closed : calls ∈ wholeLife∗) : calls ∉ wholeLife∗ * openLife :=
  fun opened => open_last calls opened (closed_last calls closed)

def Writes {α : Type} (action : Rig → α × Rig) (language : Language Call) : Prop :=
  ∀ rig, ∃ calls ∈ language, (action rig).2.journal.toList = rig.journal.toList ++ calls

theorem writes_blocks {α : Type} (action : Rig → α × Rig)
    (block : ∀ rig, ∃ calls, CallBlock calls ∧ (action rig).2.journal.toList = rig.journal.toList ++ calls) :
    Writes action blockCalls∗ := by
  intro rig
  obtain ⟨calls, inside, written⟩ := block rig
  have single : [calls].flatten ∈ blockCalls∗ := by
    apply Language.join_mem_kstar
    intro word member
    rw [List.mem_singleton.mp member]
    exact inside
  rw [List.flatten_singleton] at single
  exact ⟨calls, single, written⟩

theorem writes_step (target : Camera) (factor : Float32) : Writes (fun rig => rig.step target factor) blockCalls∗ := by
  apply writes_blocks
  intro rig
  cases pending : rig.engine.renderFault with
  | some fault =>
      refine ⟨_, .fault, ?_⟩
      rw [step_pending rig target factor fault pending, Array.toList_push]
  | none =>
      refine ⟨_, .frame (rig.engine.camera.smoothedToward target factor).rotationX
        (rig.engine.camera.smoothedToward target factor).rotationY (rig.engine.camera.smoothedToward target factor).zoom, ?_⟩
      rw [step_clear rig target factor pending]
      simp

theorem writes_load (graph : Graph) : Writes (fun rig => rig.load graph) blockCalls∗ := by
  apply writes_blocks
  intro rig
  cases failing : rig.engine.animationFault with
  | some fault =>
      refine ⟨_, .flag graph.animate, ?_⟩
      rw [load_failing rig graph fault failing, Array.toList_push]
  | none =>
      refine ⟨_, .load graph.animate graph.payload, ?_⟩
      cases flawed : Rig.firstFlaw 1 graph.payload with
      | some found =>
          rw [load_flawed rig graph found.1 found.2 failing flawed]
          simp
      | none =>
          rw [load_sound rig graph failing flawed]
          simp

theorem writes_viewport (viewport : Viewport) (valid : viewport.isValid = true) :
    Writes (fun rig => ((), rig.setViewport viewport)) blockCalls∗ := by
  obtain ⟨wide, high⟩ := not_or.mp ((viewport_valid_iff viewport).mp valid)
  apply writes_blocks
  intro rig
  refine ⟨_, .size viewport wide high, ?_⟩
  simp [Rig.setViewport, Rig.record]

/-- With at most one live engine, the journal is open exactly while there is one. -/
structure Pool.Written (pool : Pool) : Prop where
  closed : pool.Quiet → pool.journal.toList ∈ wholeLife∗
  opened : ∀ slot, pool.liveAt slot = true → pool.journal.toList ∈ wholeLife∗ * openLife

theorem written_quiet (pool : Pool) (quiet : pool.Quiet) (closed : pool.journal.toList ∈ wholeLife∗) : pool.Written where
  closed := fun _ => closed
  opened := fun slot live => absurd ⟨slot, live⟩ ((quiet_iff pool).mp quiet)

theorem written_live (pool : Pool) (slot : Nat) (live : pool.liveAt slot = true)
    (opened : pool.journal.toList ∈ wholeLife∗ * openLife) : pool.Written where
  closed := fun quiet => absurd ⟨slot, live⟩ ((quiet_iff pool).mp quiet)
  opened := fun _ _ => opened

theorem with_engine_written {α : Type} (pool next : Pool) (handle : Handle) (action : Rig → α × Rig) (answer : α)
    (writes : Writes action blockCalls∗) (written : pool.Written)
    (done : pool.withEngine handle action = some (answer, next)) : next.Written := by
  have kept := with_engine_live_at pool next handle action answer done handle.slot
  obtain ⟨engine, rig, found, result, rfl⟩ := with_engine_some pool next handle action answer done
  have live := live_of_engine pool handle engine found
  obtain ⟨calls, blocks, journal⟩ := writes ⟨engine, pool.journal⟩
  rw [result] at journal
  apply written_live _ handle.slot (kept.trans live)
  change rig.journal.toList ∈ _
  rw [journal]
  exact blocks_stay_open _ calls (written.opened handle.slot live) blocks

theorem release_written (pool : Pool) (handle : Handle) (lone : ∀ slot, pool.liveAt slot = true → slot = handle.slot)
    (written : pool.Written) : (pool.release handle).2.Written := by
  cases live : pool.isLive handle with
  | false =>
      rw [release_dead pool handle live]
      exact written
  | true =>
      -- It was the only live engine, so its release ends the life that was open.
      have quiet : (pool.release handle).2.Quiet := by
        intro slot
        by_cases before : pool.liveAt slot = true
        · simp [lone slot before]
        · simp [before]
      apply written_quiet _ quiet
      obtain ⟨engine, _, released⟩ := release_live pool handle live
      rw [is_live_at] at live
      rw [released, Array.toList_push]
      exact release_closes _ (written.opened handle.slot live)

theorem release_surface_written (pool : Pool) (surface : SurfaceId) (quiet : pool.Quiet) (written : pool.Written) :
    (pool.releaseSurface surface).2.Written := by
  rw [release_surface_next_quiet pool surface quiet]
  exact written_quiet _ (fun slot => quiet slot) (written.closed quiet)

theorem acquisition_written (pool next : Pool) (surface : Surface) (answer : Except InitError Handle)
    (quiet : pool.Quiet) (written : pool.Written) (outcome : Acquisition pool surface (answer, next)) : next.Written := by
  have closed := written.closed quiet
  cases outcome with
  | unsupported lacking => exact written
  | rejected fault supported provision => exact written_quiet _ quiet closed
  | stillborn fault supported provision =>
      refine written_quiet _ (fun slot => quiet slot) ?_
      rw [Array.toList_push, Array.toList_push]
      exact release_closes _ (start_opens _ closed)
  | started fault supported provision =>
      apply written_live _ pool.slots.length (by simp)
      change (pool.journal.push .start).toList ∈ _
      rw [Array.toList_push]
      exact start_opens _ closed

namespace Session

theorem let_go_written (session : Session) (coherent : session.Coherent) (written : session.pool.Written) :
    session.letGo.Written := by
  cases held : session.lease with
  | none =>
      rw [let_go_none session held]
      exact written
  | some handle =>
      rw [let_go_some session handle held]
      apply release_written session.pool handle _ written
      intro slot live
      obtain ⟨other, alsoHeld, same⟩ := coherent.sole slot live
      cases held.symm.trans alsoHeld
      exact same.symm

theorem cleared_written (session : Session) (coherent : session.Coherent) (written : session.pool.Written) :
    session.clearedPool.Written :=
  release_surface_written session.letGo session.surface.id (let_go_quiet session coherent.sole)
    (let_go_written session coherent written)

theorem forget_written (session : Session) (coherent : session.Coherent) (written : session.pool.Written) :
    session.forgetReleasedEngine.pool.Written := by
  rw [forget_next]
  exact let_go_written session coherent written

theorem teardown_written (session : Session) (coherent : session.Coherent) (written : session.pool.Written) :
    session.teardown.pool.Written := by
  rw [teardown_next]
  exact cleared_written session coherent written

theorem acquire_written (session : Session) (coherent : session.Coherent) (written : session.pool.Written) :
    session.acquire.2.pool.Written := by
  have quiet := cleared_quiet session coherent
  have cleared := cleared_written session coherent written
  have outcome := acquire_cases session
  generalize session.acquire = result at outcome ⊢
  cases outcome with
  | refused error pool outcome => exact acquisition_written _ pool session.surface _ quiet cleared outcome
  | opened handle pool outcome => exact acquisition_written _ pool session.surface _ quiet cleared outcome

theorem tick_written (session : Session) (coherent : session.Coherent) (written : session.pool.Written) :
    session.tick.2.pool.Written := by
  have outcome := tick_cases session
  generalize session.tick = result at outcome ⊢
  cases outcome with
  | skipped halted => exact written
  | terminated running lost => exact forget_written session coherent written
  | rendered running handle holding next done =>
      exact with_engine_written session.pool next handle _ _ (writes_step _ _) written done
  | faulted running handle holding fault next done =>
      exact with_engine_written session.pool next handle _ _ (writes_step _ _) written done

theorem resize_written (session : Session) (viewport : Viewport) (coherent : session.Coherent)
    (written : session.pool.Written) : (session.resize viewport).2.pool.Written := by
  have outcome := resize_cases session viewport
  generalize session.resize viewport = result at outcome ⊢
  cases outcome with
  | invalid zero => exact written
  | recorded valid unheld => exact written
  | forwarded valid handle held next done =>
      exact with_engine_written session.pool next handle _ _ (writes_viewport viewport valid) written done
  | lost valid handle held dead =>
      have recorded : ({ session with viewport := viewport } : Session).Coherent :=
        keeps_coherent _ session ⟨rfl, rfl, rfl, rfl, rfl, fades_refl session.pool⟩ coherent
      exact forget_written { session with viewport := viewport } recorded written

theorem reload_written (session : Session) (graph : Graph) (coherent : session.Coherent)
    (written : session.pool.Written) : (session.reload graph).2.pool.Written := by
  have outcome := reload_cases session graph
  generalize session.reload graph = result at outcome ⊢
  cases outcome with
  | absent unheld => exact written
  | misplaced handle held defect flawed => exact written
  | lost handle held dense dead => exact forget_written session coherent written
  | loaded handle held dense next done =>
      exact with_engine_written session.pool next handle _ _ (writes_load graph) written done
  | refused handle held dense fault next done =>
      exact with_engine_written session.pool next handle _ _ (writes_load graph) written done

def Recorded (session : Session) : Prop := session.Coherent ∧ session.pool.Written

theorem recorded_preserved : Preserved Recorded where
  forget := fun session _ _ _ kept => ⟨forget_coherent session kept.1, forget_written session kept.1 kept.2⟩
  tick := fun session kept => ⟨tick_coherent session kept.1, tick_written session kept.1 kept.2⟩
  resize := fun session viewport kept =>
    ⟨resize_coherent session viewport kept.1, resize_written session viewport kept.1 kept.2⟩
  reload := fun session graph kept => ⟨reload_coherent session graph kept.1, reload_written session graph kept.1 kept.2⟩
  press := fun session kept => ⟨controller_coherent session _ kept.1, kept.2⟩
  lift := fun session kept => ⟨controller_coherent session _ kept.1, kept.2⟩
  drag := fun session _ _ _ _ kept => ⟨controller_coherent session _ kept.1, kept.2⟩
  zoom := fun session _ _ _ kept => ⟨controller_coherent session _ kept.1, kept.2⟩

theorem perform_recorded (session : Session) (operation : Operation) (kept : session.Recorded) :
    (session.perform operation).2.Recorded := by
  apply perform_keeps Recorded recorded_preserved session operation _ _ _ kept
  · intro _
    exact ⟨acquire_coherent session kept.1, acquire_written session kept.1 kept.2⟩
  · intro _
    exact ⟨teardown_coherent session kept.1, teardown_written session kept.1 kept.2⟩
  · intro _
    exact ⟨drain_coherent session kept.1, kept.2⟩

theorem close_written (session : Session) (kept : session.Recorded) : session.close.Written := by
  have quiet := teardown_quiet session kept.1
  have written := teardown_written session kept.1 kept.2
  rw [close, release_all_quiet _ quiet]
  exact written_quiet _ (fun slot => quiet slot) (written.closed quiet)

end Session

namespace Stage

/-- The host only releases engines and spoils frames; all other calls are those of the session. -/
def Action.isDiscreet : Action → Bool
  | .command _ (.failNextRender _) => true
  | .command _ _ => false
  | _ => true

def engineIsLive (stage : Stage) : Bool :=
  match stage.play with
  | .ok session => session.engineIsLive
  | .error _ => false

def Recorded (stage : Stage) : Prop := stage.Coherent ∧ stage.pool.Written

theorem fresh_recorded (plan : List Provision) (surface : Surface) (config : Config) :
    (create (Session.fresh plan surface config)).Recorded := by
  have coherent := Session.fresh_coherent plan surface config
  exact ⟨coherent, written_quiet _ (Session.coherent_unheld_quiet _ coherent rfl) (Language.nil_mem_kstar wholeLife)⟩

theorem coherent_lone (stage : Stage) (slot other : Nat) (coherent : stage.Coherent)
    (live : stage.pool.liveAt slot = true) (also : stage.pool.liveAt other = true) : other = slot := by
  obtain ⟨play, handles⟩ := stage
  cases play with
  | error ended =>
      rw [show (Stage.mk (.error ended) handles).pool = ended from rfl, coherent slot] at live
      cases live
  | ok session =>
      obtain ⟨handle, held, first⟩ := (show session.Coherent from coherent).sole slot live
      obtain ⟨again, alsoHeld, second⟩ := (show session.Coherent from coherent).sole other also
      cases held.symm.trans alsoHeld
      rw [← first, ← second]

theorem engine_live_iff (stage : Stage) (coherent : stage.Coherent) :
    stage.engineIsLive = true ↔ ∃ slot, stage.pool.liveAt slot = true := by
  obtain ⟨play, handles⟩ := stage
  cases play with
  | error ended =>
      have quiet : ended.Quiet := coherent
      simp [engineIsLive, pool, quiet _]
  | ok session => exact Session.engine_live_iff session coherent

theorem recorded_session (stage : Stage) (session : Session) (playing : stage.play = .ok session)
    (kept : stage.Recorded) : session.Recorded := by
  have written := kept.2
  rw [pool, playing] at written
  exact ⟨coherent_session stage session playing kept.1, written⟩

theorem released_written (stage : Stage) (handle : Handle) (kept : stage.Recorded) :
    (stage.pool.release handle).2.Written := by
  cases live : stage.pool.isLive handle with
  | false =>
      rw [release_dead stage.pool handle live]
      exact kept.2
  | true =>
      rw [is_live_at] at live
      exact release_written stage.pool handle (fun slot also => coherent_lone stage _ slot kept.1 live also) kept.2

theorem discreet_writes (index : Nat) (command : Rig.Command)
    (discreet : (Action.command index command).isDiscreet = true) : Writes (fun rig => rig.perform command) blockCalls∗ := by
  cases command with
  | failNextRender message => exact fun rig => ⟨[], Language.nil_mem_kstar blockCalls, (List.append_nil _).symm⟩
  | _ => cases discreet

theorem perform_recorded (stage : Stage) (action : Action) (discreet : action.isDiscreet = true)
    (kept : stage.Recorded) : (stage.perform action).2.Recorded := by
  refine ⟨perform_coherent stage action kept.1, ?_⟩
  have outcome := perform_cases stage action
  generalize (stage.perform action).2 = next at outcome ⊢
  cases outcome with
  | unchanged => exact kept.2
  | operated session operation playing =>
      exact (Session.perform_recorded session operation (recorded_session stage session playing kept)).2
  | shared session handle playing held => exact kept.2
  | released index handle held => simpa using released_written stage handle kept
  | commanded index command handle held answer pool done =>
      simpa using with_engine_written stage.pool pool handle _ answer (discreet_writes index command discreet) kept.2 done
  | closed session playing => exact Session.close_written session (recorded_session stage session playing kept)

end Stage

theorem session_call_protocol (plan : List Provision) (surface : Surface) (config : Config) (session : Session)
    (actions : List Stage.Action) (created : Session.create plan surface config = .ok session)
    (discreet : ∀ action ∈ actions, action.isDiscreet = true) :
    let stage := History.final Stage.perform (.create session) actions
    let calls := stage.pool.journal.toList
    calls ∈ wholeLife∗ * (1 + openLife) ∧
    (calls ∈ wholeLife∗ * openLife ↔ stage.engineIsLive = true) ∧
    (calls ∈ wholeLife∗ ↔ stage.engineIsLive = false) ∧
    (∀ pool, stage.play = .error pool → calls ∈ wholeLife∗) ∧
    List.IsChain Follows (.release :: calls) := by
  intro stage calls
  have start : (Stage.create session).Recorded := by
    rw [Session.create_fresh plan surface config session created]
    exact Stage.fresh_recorded plan surface config
  have kept : stage.Recorded :=
    History.final_keeps Stage.perform Stage.Recorded (fun action => action.isDiscreet = true) Stage.perform_recorded
      (.create session) start actions discreet
  have live := Stage.engine_live_iff stage kept.1
  cases shown : stage.engineIsLive with
  | true =>
      obtain ⟨slot, alive⟩ := live.mp shown
      have opened : calls ∈ wholeLife∗ * openLife := kept.2.opened slot alive
      have unclosed : calls ∉ wholeLife∗ := fun closed => closed_not_open calls closed opened
      refine ⟨?_, by simp [opened], by simp [unclosed], ?_, open_lives_chain calls opened⟩
      · rw [mul_add, Language.mem_add]
        exact .inr opened
      · intro pool ended
        simp [Stage.engineIsLive, ended] at shown
  | false =>
      have quiet : stage.pool.Quiet := by
        rw [quiet_iff, ← live, shown]
        simp
      have closed : calls ∈ wholeLife∗ := kept.2.closed quiet
      have unopened := closed_not_open calls closed
      refine ⟨?_, by simp [unopened], by simp [closed], fun _ _ => closed, ?_⟩
      · rw [mul_add, mul_one, Language.mem_add]
        exact .inl closed
      · have chain := whole_lives_chain calls [] closed (List.IsChain.singleton _)
        rwa [List.append_nil] at chain

def samplePlan : List Provision :=
  [.rejected ⟨"no context"⟩, .failingStart ⟨"no shader"⟩, .failingAnimation ⟨"no timer"⟩]

def sampleActions : List Stage.Action :=
  -- two acquisitions fail, the third engine loses a frame and a reload before the host releases it, and the
  -- fourth is left running.
  [.operate .acquire, .operate .acquire, .operate .acquire, .share, .operate .tick,
    .command 0 (.failNextRender "lost"), .operate .tick, .operate (.reload .standard),
    .operate (.resize ⟨640, 480⟩), .release 0, .operate .tick, .release 0, .operate .acquire, .operate .tick]

theorem session_call_protocol_fourth_engine :
    (sampleStage samplePlan sampleActions).pool.journal.toList ∈ wholeLife∗ * openLife ∧
    (sampleStage samplePlan (sampleActions ++ [.close])).pool.journal.toList ∈ wholeLife∗ := by
  obtain ⟨_, openIff, _⟩ :=
    session_call_protocol samplePlan sampleSurface sampleConfig (Session.fresh samplePlan sampleSurface sampleConfig)
      sampleActions rfl (by decide)
  obtain ⟨_, _, closedIff, _⟩ :=
    session_call_protocol samplePlan sampleSurface sampleConfig (Session.fresh samplePlan sampleSurface sampleConfig)
      (sampleActions ++ [.close]) rfl (by decide)
  exact ⟨openIff.mpr rfl, closedIff.mpr rfl⟩

end Plotter
