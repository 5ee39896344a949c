import Plotter.Proofs.Lockstep

set_option autoImplicit false

namespace Plotter

namespace Stage

/-- A stale handle is reported by its surface; the number of its slot is nobody's to see. -/
def Answer.plain : Answer → Answer
  | .stale handle => .stale ⟨handle.surface, 0⟩
  | answer => answer

structure Sight where
  answer : Answer
  calls : List Call
  snapshot : Option Snapshot
  leased : Option Engine
  shared : List (Option Engine)

def session? (stage : Stage) : Option Session :=
  match stage.play with
  | .ok session => some session
  | .error _ => none

def watch (stage : Stage) (action : Action) : Sight × Stage :=
  let (answer, next) := stage.perform action
  (⟨answer.plain, next.pool.journal.toList.drop stage.pool.journal.size, next.session?.map Session.snapshot,
    next.session?.bind Session.engine?, next.handles.map next.pool.engine?⟩, next)

inductive Follows (past : Journal) (places : List Nat) : Stage → Stage → Prop where
  | playing (full part : Session) (larger smaller : List Handle) (sessions : full.Follows past places part)
      (handles : List.Forall₂ (Handle.Echoes places) larger smaller) :
      Follows past places ⟨.ok full, larger⟩ ⟨.ok part, smaller⟩
  | ended (full part : Pool) (larger smaller : List Handle) (pools : full.Follows past places part)
      (handles : List.Forall₂ (Handle.Echoes places) larger smaller) :
      Follows past places ⟨.error full, larger⟩ ⟨.error part, smaller⟩

section Steps

variable {past : Journal} {places : List Nat} {full part : Stage}

theorem follows_handles (follows : full.Follows past places part) :
    List.Forall₂ (Handle.Echoes places) full.handles part.handles := by
  cases follows <;> assumption

theorem follows_pools (follows : full.Follows past places part) : full.pool.Follows past places part.pool := by
  cases follows with
  | playing full part larger smaller sessions handles => exact sessions.pool
  | ended full part larger smaller pools handles => exact pools

theorem follows_with_pool (fullNext partNext : Pool) (follows : full.Follows past places part)
    (abreast : Pool.Abreast places full.pool part.pool fullNext partNext) :
    (full.withPool fullNext).Follows past places (part.withPool partNext) := by
  have pools := abreast_follows past places _ _ fullNext partNext (follows_pools follows) abreast
  cases follows with
  | playing full part larger smaller sessions handles =>
      exact .playing _ _ larger smaller (Session.follows_pool fullNext partNext sessions abreast) handles
  | ended full part larger smaller _ handles => exact .ended _ _ larger smaller pools handles

theorem operate_follows (operation : Session.Operation) (follows : full.Follows past places part)
    (ahead : full.Coherent) (behind : part.Coherent) :
    (full.perform (.operate operation)).1 = (part.perform (.operate operation)).1 ∧
      ∃ more, (full.perform (.operate operation)).2.Follows past (places ++ more) (part.perform (.operate operation)).2 := by
  cases follows with
  | playing full part larger smaller sessions handles =>
      obtain ⟨more, agree⟩ := Session.perform_agrees past places full part operation sessions ahead behind
      refine ⟨congrArg Answer.session agree.answer, more, ?_⟩
      exact .playing _ _ _ _ agree.follows (handles.imp fun larger smaller => echoes_more places more larger smaller)
  | ended full part larger smaller pools handles =>
      refine ⟨rfl, [], ?_⟩
      rw [List.append_nil]
      exact .ended full part larger smaller pools handles

theorem share_follows (follows : full.Follows past places part) :
    (full.perform .share).1 = (part.perform .share).1 ∧
      (full.perform .share).2.Follows past places (part.perform .share).2 := by
  cases follows with
  | ended full part larger smaller pools handles => exact ⟨rfl, .ended full part larger smaller pools handles⟩
  | playing full part larger smaller sessions handles =>
      rcases rel_cases _ _ _ sessions.lease with ⟨ahead, behind⟩ | ⟨first, second, ahead, behind, echoes⟩
      · simp only [perform, ahead, behind]
        exact ⟨trivial, .playing full part larger smaller sessions handles⟩
      · simp only [perform, ahead, behind, handles.length_eq]
        exact ⟨trivial, .playing full part _ _ sessions (List.rel_append handles (.cons echoes .nil))⟩

theorem release_follows (index : Nat) (follows : full.Follows past places part) :
    (full.perform (.release index)).1 = (part.perform (.release index)).1 ∧
      (full.perform (.release index)).2.Follows past places (part.perform (.release index)).2 := by
  rcases forall_cases _ _ _ (follows_handles follows) index with ⟨ahead, behind⟩ | ⟨larger, smaller, ahead, behind, echoes⟩
  · simp only [perform, ahead, behind]
    exact ⟨trivial, follows⟩
  · obtain ⟨flags, abreast⟩ :=
      release_abreast places full.pool part.pool larger smaller (follows_pools follows).toMirrors echoes
    simp only [perform, ahead, behind, flags]
    exact ⟨trivial, follows_with_pool _ _ follows abreast⟩

theorem command_follows (index : Nat) (command : Rig.Command) (follows : full.Follows past places part) :
    (full.perform (.command index command)).1.plain = (part.perform (.command index command)).1.plain ∧
      (full.perform (.command index command)).2.Follows past places (part.perform (.command index command)).2 := by
  rcases forall_cases _ _ _ (follows_handles follows) index with ⟨ahead, behind⟩ | ⟨larger, smaller, ahead, behind, echoes⟩
  · simp only [perform, ahead, behind]
    exact ⟨trivial, follows⟩
  · have worked := with_engine_worked places full.pool part.pool larger smaller _ (appending_command command)
      (follows_pools follows).toMirrors echoes
    simp only [perform, ahead, behind]
    generalize full.pool.withEngine larger _ = first at worked ⊢
    generalize part.pool.withEngine smaller _ = second at worked ⊢
    cases worked with
    | missed =>
        refine ⟨?_, follows⟩
        -- The two answers differ in the number of the slot, which the plain answer leaves out.
        simp only [Answer.plain, echoes.surface]
    | done answer fullNext partNext abreast => exact ⟨rfl, follows_with_pool fullNext partNext follows abreast⟩

theorem close_follows (follows : full.Follows past places part) (ahead : full.Coherent) (behind : part.Coherent) :
    (full.perform .close).1 = (part.perform .close).1 ∧
      (full.perform .close).2.Follows past places (part.perform .close).2 := by
  cases follows with
  | playing full part larger smaller sessions handles =>
      exact ⟨rfl, .ended _ _ larger smaller (Session.close_follows sessions ahead behind) handles⟩
  | ended full part larger smaller pools handles => exact ⟨rfl, .ended full part larger smaller pools handles⟩

theorem perform_follows (action : Action) (follows : full.Follows past places part) (ahead : full.Coherent)
    (behind : part.Coherent) :
    (full.perform action).1.plain = (part.perform action).1.plain ∧
      ∃ more, (full.perform action).2.Follows past (places ++ more) (part.perform action).2 := by
  have stay : (full.perform action).2.Follows past places (part.perform action).2 →
      ∃ more, (full.perform action).2.Follows past (places ++ more) (part.perform action).2 := by
    intro next
    exact ⟨[], by rwa [List.append_nil]⟩
  cases action with
  | operate operation =>
      obtain ⟨answers, next⟩ := operate_follows operation follows ahead behind
      exact ⟨congrArg Answer.plain answers, next⟩
  | share =>
      obtain ⟨answers, next⟩ := share_follows follows
      exact ⟨congrArg Answer.plain answers, stay next⟩
  | release index =>
      obtain ⟨answers, next⟩ := release_follows index follows
      exact ⟨congrArg Answer.plain answers, stay next⟩
  | command index command =>
      obtain ⟨answers, next⟩ := command_follows index command follows
      exact ⟨answers, stay next⟩
  | close =>
      obtain ⟨answers, next⟩ := close_follows follows ahead behind
      exact ⟨congrArg Answer.plain answers, stay next⟩

end Steps

def InStep (past : Journal) (full part : Stage) : Prop :=
  full.Coherent ∧ part.Coherent ∧ ∃ places, full.Follows past places part

theorem follows_shown (past : Journal) (places : List Nat) (full part : Stage) (follows : full.Follows past places part) :
    full.session?.map Session.snapshot = part.session?.map Session.snapshot ∧
      full.session?.bind Session.engine? = part.session?.bind Session.engine? ∧
      full.handles.map full.pool.engine? = part.handles.map part.pool.engine? := by
  have mirrors := (follows_pools follows).toMirrors
  have shared : full.handles.map full.pool.engine? = part.handles.map part.pool.engine? := by
    rw [← List.forall₂_eq_eq_eq, List.forall₂_map_left_iff, List.forall₂_map_right_iff]
    exact (follows_handles follows).imp fun larger smaller => mirrors_engine places _ _ larger smaller mirrors
  refine ⟨?_, ?_, shared⟩
  all_goals cases follows with
    | playing full part larger smaller sessions handles =>
        first
        | exact congrArg some (Session.follows_snapshot sessions)
        | exact Session.follows_engine sessions
    | ended full part larger smaller pools handles => rfl

theorem watch_in_step (past : Journal) (full part : Stage) (action : Action) (together : InStep past full part) :
    (full.watch action).1 = (part.watch action).1 ∧ InStep past (full.watch action).2 (part.watch action).2 := by
  obtain ⟨ahead, behind, places, follows⟩ := together
  obtain ⟨answers, more, next⟩ := perform_follows action follows ahead behind
  obtain ⟨snapshots, leased, shared⟩ := follows_shown past _ _ _ next
  refine ⟨?_, perform_coherent full action ahead, perform_coherent part action behind, _, next⟩
  have calls : (full.perform action).2.pool.journal.toList.drop full.pool.journal.size =
      (part.perform action).2.pool.journal.toList.drop part.pool.journal.size := by
    rw [(follows_pools next).journal, (follows_pools follows).journal, Array.toList_append, Array.size_append,
      ← Array.length_toList, ← List.drop_drop, List.drop_left]
  simp only [watch, answers, calls, snapshots, leased, shared]

theorem history_in_step (past : Journal) (full part : Stage) (actions : List Action) (together : InStep past full part) :
    (History.run watch full actions).1 = (History.run watch part actions).1 := by
  have runs := History.run_refines watch watch (InStep past) id
    (fun state shadow action => watch_in_step past state shadow action) full part together actions
  simpa using runs.1

end Stage

namespace Session

def Reached (session : Session) : Prop :=
  ∃ plan surface config start stage, Session.create plan surface config = .ok start ∧
    Stage.Reachable (.create start) stage ∧ stage.play = .ok session

def Roomy (session : Session) : Prop := session.notices.capacity = max session.config.notificationCapacity.toNat 1

theorem roomy_detached : Detached Roomy where
  apart := by
    intro session next roomy configured _ told
    rw [Roomy, configured, told]
    exact roomy
  tell := fun _ _ roomy => roomy
  empty := fun _ roomy => roomy
  renew := fun _ roomy => roomy
  press := fun _ roomy => roomy
  lift := fun _ roomy => roomy
  drag := fun _ _ _ _ roomy => roomy
  zoom := fun _ _ _ roomy => roomy

theorem reached_coherent (session : Session) (reached : session.Reached) : session.Coherent := by
  obtain ⟨plan, surface, config, start, stage, created, reachable, playing⟩ := reached
  exact Stage.playing_coherent plan surface config start session stage created reachable playing

theorem reached_drained (session : Session) (reached : session.Reached) (drained : session.notices.items = []) :
    session.notices = .create session.config.notificationCapacity.toNat := by
  obtain ⟨plan, surface, config, start, stage, created, reachable, playing⟩ := reached
  have initial : (Stage.create start).Playing Roomy := by
    intro session same
    cases same
    rw [create_fresh plan surface config start created]
    rfl
  have roomy := Stage.reachable_detached Roomy roomy_detached _ stage reachable initial session playing
  rw [NoticeQueue.create, ← roomy, ← drained]

@[simp] theorem cleared_plan (session : Session) : session.clearedPool.plan = session.pool.plan := by
  cases held : session.lease with
  | none => simp [clearedPool, let_go_none session held]
  | some handle => simp [clearedPool, let_go_some session handle held]

def untouched (plan : List Provision) (surface : Surface) (config : Config) (viewport : Viewport) : Session :=
  { fresh plan surface config with viewport := viewport }

theorem untouched_coherent (plan : List Provision) (surface : Surface) (config : Config) (viewport : Viewport) :
    (untouched plan surface config viewport).Coherent :=
  keeps_coherent _ (fresh plan surface config) ⟨rfl, rfl, rfl, rfl, rfl, fades_refl _⟩ (fresh_coherent plan surface config)

theorem acquire_anew (session : Session) (plan : List Provision)
    (queue : session.notices = .create session.config.notificationCapacity.toNat)
    (alike : PlansAlike session.pool.plan plan) :
    let other := untouched plan session.surface session.config session.viewport
    (session.acquire.1 = .ok () ↔ other.acquire.1 = .ok ()) ∧
      (session.acquire.1 = .ok () →
        ∃ places, session.acquire.2.Follows session.clearedPool.journal places other.acquire.2) := by
  intro other
  have cleared : other.clearedPool = .create plan := rfl
  -- Nothing of the cleared pool is mirrored yet: its whole journal is past, and no place is taken.
  have follows : session.clearedPool.Follows session.clearedPool.journal [] other.clearedPool := by
    refine ⟨⟨List.nodup_nil, rfl⟩, ?_, ?_⟩
    · rw [cleared]
      exact Array.append_empty.symm
    · simpa [cleared, Pool.create] using alike
  have brought := bring_up_follows session.clearedPool.journal [] _ _ session.surface follows
  generalize ahead : session.clearedPool.bringUp session.surface = first at brought
  generalize behind : other.clearedPool.bringUp session.surface = second at brought
  cases brought with
  | refused error full part pools =>
      rw [acquire_refused session error full ahead, acquire_refused other error part behind]
      exact ⟨by simp, by simp⟩
  | opened place larger smaller full part pools echoes =>
      rw [acquire_opened session larger full ahead, acquire_opened other smaller part behind]
      refine ⟨by simp, fun _ => ⟨[place], ?_⟩⟩
      exact ⟨rfl, rfl, pools, .some echoes, ⟨rfl, .some echoes, rfl, rfl, rfl⟩, rfl, rfl, queue, rfl⟩

theorem acquire_engine (session : Session) (opened : session.acquire.1 = .ok ()) :
    session.acquire.2.engine?.isSome = true := by
  have outcome := acquire_cases session
  generalize session.acquire = result at outcome opened ⊢
  cases outcome with
  | refused error pool outcome => cases opened
  | opened handle pool outcome =>
      cases outcome with
      | started fault supported next =>
          change (Pool.isLive _ _) = true
          simp [is_live_at]

end Session

theorem acquire_forgets_history (left right : Session) (leftReached : left.Reached) (rightReached : right.Reached)
    (config : left.config = right.config) (surface : left.surface = right.surface)
    (viewport : left.viewport = right.viewport) (leftDrained : left.notices.items = [])
    (rightDrained : right.notices.items = []) (alike : PlansAlike left.pool.plan right.pool.plan)
    (opened : left.acquire.1 = .ok ()) :
    right.acquire.1 = .ok () ∧
      left.acquire.2.snapshot = right.acquire.2.snapshot ∧
      (left.acquire.2.engine?.isSome = true ∧ left.acquire.2.engine? = right.acquire.2.engine?) ∧
      ∀ actions, (History.run Stage.watch (.create left.acquire.2) actions).1 =
        (History.run Stage.watch (.create right.acquire.2) actions).1 := by
  -- Both follow one session without a past.
  let other := Session.untouched right.pool.plan right.surface right.config right.viewport
  have leftAnew := Session.acquire_anew left right.pool.plan (Session.reached_drained left leftReached leftDrained) alike
  obtain ⟨rightSame, rightAnew⟩ :=
    Session.acquire_anew right right.pool.plan (Session.reached_drained right rightReached rightDrained) fun _ => rfl
  rw [config, surface, viewport] at leftAnew
  obtain ⟨leftSame, leftAnew⟩ := leftAnew
  have succeeded := rightSame.mpr (leftSame.mp opened)
  obtain ⟨leftPlaces, leftFollows⟩ := leftAnew opened
  obtain ⟨rightPlaces, rightFollows⟩ := rightAnew succeeded
  have leased := (Session.follows_engine leftFollows).trans (Session.follows_engine rightFollows).symm
  refine ⟨succeeded, ?_, ⟨Session.acquire_engine left opened, leased⟩, ?_⟩
  · rw [Session.follows_snapshot leftFollows, Session.follows_snapshot rightFollows]
  · intro actions
    have otherCoherent := Session.acquire_coherent other (Session.untouched_coherent _ _ _ _)
    have leftCoherent := Session.acquire_coherent left (Session.reached_coherent left leftReached)
    have rightCoherent := Session.acquire_coherent right (Session.reached_coherent right rightReached)
    have leftRun := Stage.history_in_step left.clearedPool.journal (.create left.acquire.2) (.create other.acquire.2) actions
      ⟨leftCoherent, otherCoherent, leftPlaces, .playing _ _ _ _ leftFollows .nil⟩
    have rightRun := Stage.history_in_step right.clearedPool.journal (.create right.acquire.2)
      (.create other.acquire.2) actions
      ⟨rightCoherent, otherCoherent, rightPlaces, .playing _ _ _ _ rightFollows .nil⟩
    rw [leftRun, rightRun]

def eventfulActions : List Stage.Action :=
  -- a first acquisition was refused; the engine of the second was used, and the host released it without a word.
  [.operate .acquire, .operate .acquire, .operate .pointerDown, .operate (.pointerMove 3 4), .share, .operate .tick,
    .release 0, .operate .drain]

def eventfulStage : Stage := sampleStage rejectedPlan eventfulActions

theorem acquire_forgets_history_eventful :
    ∃ left, eventfulStage.play = .ok left ∧ left.frames.ticksRendered = 1 ∧ left.pool.slots.length = 1 ∧
      left.acquire.2.snapshot = (Session.fresh [] sampleSurface sampleConfig).acquire.2.snapshot ∧
      ∀ actions, (History.run Stage.watch (.create left.acquire.2) actions).1 =
        (History.run Stage.watch (.create (Session.fresh [] sampleSurface sampleConfig).acquire.2) actions).1 := by
  let right := Session.fresh [] sampleSurface sampleConfig
  obtain ⟨left, playing, config, surface, viewport, drained, plan, ticks, slots, opened⟩ :
      ∃ left, eventfulStage.play = .ok left ∧ left.config = right.config ∧ left.surface = right.surface ∧
        left.viewport = right.viewport ∧ left.notices.items = [] ∧ left.pool.plan = [] ∧ left.frames.ticksRendered = 1 ∧
        left.pool.slots.length = 1 ∧ left.acquire.1 = .ok () :=
    ⟨_, rfl, rfl, rfl, rfl, rfl, rfl, rfl, rfl, rfl⟩
  have leftReached : left.Reached :=
    ⟨rejectedPlan, sampleSurface, sampleConfig, _, eventfulStage, rfl, sample_reachable _ _, playing⟩
  have rightReached : right.Reached := ⟨[], sampleSurface, sampleConfig, right, .create right, rfl, .start, rfl⟩
  obtain ⟨_, snapshots, _, runs⟩ := acquire_forgets_history left right leftReached rightReached config surface viewport
    drained rfl (by rw [plan]; exact fun _ => rfl) opened
  exact ⟨left, playing, ticks, slots, snapshots, runs⟩

end Plotter
