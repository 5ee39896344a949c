import Mathlib.Data.List.DropRight
import Plotter.Proofs.Coherence

set_option autoImplicit false

namespace Plotter

namespace NoticeQueue

def Window (queue : NoticeQueue) (log : List Notice) : Prop := queue.items = log.rtake queue.capacity

theorem window_empty (queue : NoticeQueue) (empty : queue.items = []) : queue.Window [] := by
  rw [Window, empty, List.rtake, List.drop_nil]

theorem window_size (queue : NoticeQueue) (log : List Notice) (window : queue.Window log) :
    queue.size = min queue.capacity log.length := by
  rw [size, window, List.rtake, List.length_drop]
  omega

theorem push_window (queue : NoticeQueue) (log : List Notice) (notice : Notice) (room : 0 < queue.capacity)
    (window : queue.Window log) : (queue.push notice).Window (log ++ [notice]) := by
  have size : queue.items.length = min queue.capacity log.length := window_size queue log window
  have items : queue.items = log.drop (log.length - queue.capacity) := window
  change (if queue.items.length = queue.capacity then queue.items.drop 1 else queue.items) ++ [notice] =
    (log ++ [notice]).drop ((log ++ [notice]).length - queue.capacity)
  rw [List.length_append, List.length_singleton]
  by_cases full : queue.items.length = queue.capacity
  · have moved : log.length + 1 - queue.capacity = log.length - queue.capacity + 1 := by omega
    rw [if_pos full, moved, List.drop_append_of_le_length (by omega), items, List.drop_drop]
  · have whole : log.length + 1 - queue.capacity = 0 := by omega
    have start : log.length - queue.capacity = 0 := by omega
    rw [if_neg full, whole, List.drop_zero, items, start, List.drop_zero]

@[simp] theorem push_each_capacity (queue : NoticeQueue) (notices : List Notice) :
    (notices.foldl push queue).capacity = queue.capacity := by
  induction notices generalizing queue with
  | nil => rfl
  | cons notice rest ih => exact ih (queue.push notice)

theorem push_each_window (queue : NoticeQueue) (log notices : List Notice) (room : 0 < queue.capacity)
    (window : queue.Window log) : (notices.foldl push queue).Window (log ++ notices) := by
  induction notices generalizing queue log with
  | nil =>
      rw [List.append_nil]
      exact window
  | cons notice rest ih =>
      rw [List.append_cons]
      exact ih (queue.push notice) (log ++ [notice]) room (push_window queue log notice room window)

theorem window_latest (queue : NoticeQueue) (log : List Notice) (room : 0 < queue.capacity)
    (window : queue.Window log) : queue.latest? = log.getLast? := by
  rw [latest?, window, List.rtake, List.getLast?_drop]
  by_cases empty : log.length ≤ log.length - queue.capacity
  · have none : log = [] := List.length_eq_zero_iff.mp (by omega)
    simp [none]
  · rw [if_neg empty]

inductive Move where
  | push (notice : Notice)
  | drain
deriving DecidableEq

def perform (queue : NoticeQueue) : Move → Option (List Notice) × NoticeQueue
  | .push notice => (none, queue.push notice)
  | .drain => (some queue.drain.1, queue.drain.2)

def Move.pushed? : Move → Option Notice
  | .push notice => some notice
  | .drain => none

def sinceDrain (moves : List Move) : List Notice :=
  (moves.rtakeWhile fun move => move ≠ .drain).filterMap Move.pushed?

@[simp] theorem since_drain_pushed (moves : List Move) (notice : Notice) :
    sinceDrain (moves ++ [.push notice]) = sinceDrain moves ++ [notice] := by
  rw [sinceDrain, List.rtakeWhile_concat_pos _ _ _ (by simp), List.filterMap_append]
  rfl

@[simp] theorem since_drain_drained (moves : List Move) : sinceDrain (moves ++ [.drain]) = [] := by
  rw [sinceDrain, List.rtakeWhile_concat_neg _ _ _ (by simp)]
  rfl

theorem perform_window (queue : NoticeQueue) (moves : List Move) (move : Move) (room : 0 < queue.capacity)
    (window : queue.Window (sinceDrain moves)) :
    (queue.perform move).2.capacity = queue.capacity ∧
      (queue.perform move).2.Window (sinceDrain (moves ++ [move])) := by
  cases move with
  | push notice => exact ⟨rfl, by simpa [perform] using push_window queue _ notice room window⟩
  | drain => exact ⟨rfl, by simpa [perform] using window_empty _ rfl⟩

theorem history_window (capacity : Nat) (moves : List Move) :
    (History.final perform (create capacity) moves).capacity = max capacity 1 ∧
      (History.final perform (create capacity) moves).Window (sinceDrain moves) := by
  induction moves using List.reverseRecOn with
  | nil => exact ⟨rfl, window_empty _ rfl⟩
  | append_singleton moves move ih =>
      obtain ⟨size, window⟩ := ih
      obtain ⟨kept, shown⟩ := perform_window _ moves move (by omega) window
      simpa using ⟨kept.trans size, shown⟩

end NoticeQueue

theorem queue_shows_end_of_log (capacity : Nat) (moves : List NoticeQueue.Move) :
    let queue := History.final NoticeQueue.perform (.create capacity) moves
    let log := NoticeQueue.sinceDrain moves
    let window := log.rtake (min log.length (max capacity 1))
    queue.items = window ∧
    queue.size = min log.length (max capacity 1) ∧ queue.size ≤ max capacity 1 ∧
    queue.latest? = log.getLast? ∧
    queue.perform .drain = (some window, .create capacity) := by
  intro queue log window
  obtain ⟨room, shown⟩ : queue.capacity = max capacity 1 ∧ queue.Window log :=
    NoticeQueue.history_window capacity moves
  have items : queue.items = window := by
    rw [shown, room]
    exact congrArg log.drop (by omega)
  have counted : queue.size = min queue.capacity log.length := NoticeQueue.window_size queue log shown
  have latest := NoticeQueue.window_latest queue log (by omega) shown
  have drained : queue.drain = (window, .create capacity) := by
    rw [NoticeQueue.drain, items, room]
    rfl
  refine ⟨items, by omega, by omega, latest, ?_⟩
  rw [NoticeQueue.perform, drained]

example (first second third : Notice) :
    (History.run NoticeQueue.perform (.create 2)
      [.push first, .push second, .push third, .drain, .push first, .drain]).1 =
        [none, none, none, some [second, third], none, some [first]] := rfl

def TickOutcome.failures : TickOutcome → List Notice
  | .faulted fault => [⟨.warning, fault.message⟩]
  | _ => []

namespace Session

def acquireFailures : Except Error Unit → List Notice
  | .ok _ => []
  | .error (.initialization error) => [⟨.error, error.userMessage⟩]
  | .error error => [⟨.error, error.message⟩]

def reloadFailures : Except Error Bool → List Notice
  | .error (.sync fault) => [⟨.error, fault.message⟩]
  | _ => []

def Tick.failures (tick : Tick) : List Notice := tick.outcome.failures

/-- The failures of an operation, read off its results and not off the queue. -/
def failures (session : Session) : Operation → List Notice
  | .acquire => acquireFailures session.acquire.1
  | .reload graph => reloadFailures (session.reload graph).1
  | operation => (session.ticksOf operation).flatMap Tick.failures

@[simp] theorem forget_notices (session : Session) : session.forgetReleasedEngine.notices = session.notices := by
  rw [forget_next]

theorem acquire_notices (session : Session) :
    session.acquire.2.notices = (acquireFailures session.acquire.1).foldl NoticeQueue.push session.notices := by
  have outcome := acquire_cases session
  generalize session.acquire = result at outcome ⊢
  cases outcome with
  | refused error pool outcome => rfl
  | opened handle pool outcome => rfl

theorem tick_notices (session : Session) :
    session.tick.2.notices = session.tick.1.failures.foldl NoticeQueue.push session.notices := by
  have outcome := tick_cases session
  generalize session.tick = result at outcome ⊢
  cases outcome with
  | skipped halted => rfl
  | terminated running lost => exact forget_notices session
  | rendered running handle holding next done => rfl
  | faulted running handle holding fault next done => rfl

theorem reload_notices (session : Session) (graph : Graph) :
    (session.reload graph).2.notices =
      (reloadFailures (session.reload graph).1).foldl NoticeQueue.push session.notices := by
  have outcome := reload_cases session graph
  generalize session.reload graph = result at outcome ⊢
  cases outcome with
  | absent unheld => rfl
  | misplaced handle held defect flawed => rfl
  | lost handle held dense dead => exact forget_notices session
  | loaded handle held dense next done => rfl
  | refused handle held dense fault next done => rfl

theorem resize_notices (session : Session) (viewport : Viewport) :
    (session.resize viewport).2.notices = session.notices := by
  have outcome := resize_cases session viewport
  generalize session.resize viewport = result at outcome ⊢
  cases outcome with
  | invalid zero => rfl
  | recorded valid unheld => rfl
  | forwarded valid handle held next done => rfl
  | lost valid handle held dead => exact forget_notices { session with viewport := viewport }

theorem pointer_move_notices (session : Session) (deltaX deltaY : Float32) :
    (session.pointerMove deltaX deltaY).notices = session.notices :=
  pointer_move_keeps (·.notices = session.notices) session deltaX deltaY (fun _ _ _ => forget_notices session)
    (fun _ _ => rfl) rfl

theorem wheel_notices (session : Session) (deltaZ : Float32) : (session.wheel deltaZ).notices = session.notices :=
  wheel_keeps (·.notices = session.notices) session deltaZ (fun _ _ _ => forget_notices session) (fun _ _ => rfl) rfl

theorem advance_notices {σ : Type} [FrameSource σ] (fuel : Nat) (run : Run σ) :
    (Run.advance fuel run).session.notices =
      ((run.session.runTicks fuel run.source).flatMap Tick.failures).foldl NoticeQueue.push run.session.notices := by
  have step (log : List Tick) (session : Session)
      (told : session.notices = (log.flatMap Tick.failures).foldl NoticeQueue.push run.session.notices) :
      session.tick.2.notices =
        ((log ++ [session.nextTick]).flatMap Tick.failures).foldl NoticeQueue.push run.session.notices := by
    rw [tick_notices, told, List.flatMap_append, List.foldl_append, List.flatMap_singleton]
    rfl
  exact advance_logs _ step fuel [] run rfl

theorem perform_notices (session : Session) (operation : Operation) (kept : operation ≠ .drain) :
    (session.perform operation).2.notices = (session.failures operation).foldl NoticeQueue.push session.notices := by
  have ticked : session.tick.2.notices =
      ([session.nextTick].flatMap Tick.failures).foldl NoticeQueue.push session.notices := by
    rw [List.flatMap_singleton]
    exact tick_notices session
  cases operation with
  | drain => exact absurd rfl kept
  | acquire => exact acquire_notices session
  | teardown =>
      change session.teardown.notices = session.notices
      rw [teardown_next]
  | pointerDown => rfl
  | pointerUp => rfl
  | pointerMove deltaX deltaY => exact pointer_move_notices session deltaX deltaY
  | wheel deltaZ => exact wheel_notices session deltaZ
  | resize viewport => exact resize_notices session viewport
  | reload graph =>
      rw [perform_reload_next]
      exact reload_notices session graph
  | tick => exact ticked
  | runFrames frames => exact advance_notices _ ⟨session, (⟨frames⟩ : FrameBudget), 0⟩
  | runPaced frames => exact advance_notices _ ⟨session, session.pace.limit frames, 0⟩
  | dispatch event =>
      cases event with
      | pointerDown => rfl
      | pointerUp => rfl
      | pointerMove deltaX deltaY => exact pointer_move_notices session deltaX deltaY
      | wheel deltaZ => exact wheel_notices session deltaZ
      | resize width height => exact resize_notices session ⟨width, height⟩
      | frame => exact ticked

def Told (capacity : Nat) (log : List Notice) (session : Session) : Prop :=
  session.notices.capacity = capacity ∧ session.notices.Window log

theorem operate_told (capacity : Nat) (session : Session) (operation : Operation) (log : List Notice)
    (room : 0 < capacity) (told : session.Told capacity log) :
    (session.perform operation).2.Told capacity
      (if operation = .drain then [] else log ++ session.failures operation) := by
  obtain ⟨size, window⟩ := told
  by_cases drained : operation = .drain
  · subst operation
    rw [if_pos rfl]
    exact ⟨size, NoticeQueue.window_empty _ rfl⟩
  · rw [if_neg drained, Told, perform_notices session operation drained]
    exact ⟨by simpa using size, NoticeQueue.push_each_window _ log _ (size ▸ room) window⟩

end Session

namespace Stage

def failures (stage : Stage) : Action → List Notice
  | .operate operation =>
    match stage.play with
    | .ok session => session.failures operation
    | .error _ => []
  | _ => []

def unseen : List Notice → Stage → List Action → List Notice
  | log, _, [] => log
  | log, stage, action :: rest =>
    unseen (if action = .operate .drain then [] else log ++ stage.failures action) (stage.perform action).2 rest

theorem perform_told (capacity : Nat) (stage : Stage) (action : Action) (log : List Notice) (room : 0 < capacity)
    (told : stage.Playing (Session.Told capacity log)) :
    (stage.perform action).2.Playing
      (Session.Told capacity (if action = .operate .drain then [] else log ++ stage.failures action)) := by
  -- The host itself queues nothing; only what the session is told to do can fail.
  by_cases host : ∀ operation, action ≠ .operate operation
  · have silent : stage.failures action = [] := by
      cases action with
      | operate operation => exact absurd rfl (host operation)
      | share | release | command | close => rfl
    rw [if_neg (host .drain), silent, List.append_nil]
    exact perform_playing _ stage action (fun _ operation same => absurd same (host operation))
      (fun _ _ before => before) (fun _ _ _ _ _ _ _ _ before => before) told
  · obtain ⟨operation, rfl⟩ : ∃ operation, action = .operate operation := by simpa using host
    refine operate_playing (Session.Told capacity log) _ stage operation ?_ told
    intro session playing before
    simpa only [failures, playing, Action.operate.injEq] using
      Session.operate_told capacity session operation log room before

theorem history_told (capacity : Nat) (stage : Stage) (actions : List Action) (log : List Notice) (room : 0 < capacity)
    (told : stage.Playing (Session.Told capacity log)) :
    (History.final perform stage actions).Playing (Session.Told capacity (unseen log stage actions)) := by
  induction actions generalizing stage log with
  | nil => exact told
  | cons action rest ih => exact ih _ _ (perform_told capacity stage action log room told)

end Stage

theorem notices_window (plan : List Provision) (surface : Surface) (config : Config) (session current : Session)
    (actions : List Stage.Action) (created : Session.create plan surface config = .ok session)
    (playing : (History.final Stage.perform (.create session) actions).play = .ok current) :
    let log := Stage.unseen [] (.create session) actions
    let capacity := max config.notificationCapacity.toNat 1
    let waiting := log.rtake capacity
    current.notices.items = waiting ∧ waiting.length = min capacity log.length ∧
    (current.perform .drain).1 = .notices waiting ∧ (current.perform .drain).2.notices.items = [] ∧
    current.pendingNotices = waiting.length ∧ current.snapshot.pendingNotifications.toNat = waiting.length := by
  intro log capacity waiting
  have start : (Stage.create session).Playing (Session.Told capacity []) := by
    intro first same
    cases same
    rw [Session.create_fresh plan surface config session created]
    exact ⟨rfl, NoticeQueue.window_empty _ rfl⟩
  have room : 0 < capacity := by omega
  obtain ⟨size, window⟩ := Stage.history_told capacity (.create session) actions [] room start current playing
  have items : current.notices.items = waiting := by
    rw [window, size]
  have counted : waiting.length = min capacity log.length := by
    rw [← size, ← NoticeQueue.window_size current.notices log window, NoticeQueue.size, items]
  have pending : current.pendingNotices = waiting.length := congrArg List.length items
  -- The room of the queue is that of a machine word, so the count in the snapshot is the whole count.
  have small : waiting.length < 2 ^ 64 := by
    have word := config.notificationCapacity.toNat_lt
    omega
  refine ⟨items, counted, congrArg Session.Answer.notices items, rfl, pending, ?_⟩
  change (UInt64.ofNat current.pendingNotices).toNat = waiting.length
  rw [pending]
  exact UInt64.toNat_ofNat_of_lt' small

def narrowConfig : Config := sampleConfig.withNotificationCapacity 2

def crowdedPlan : List Provision :=
  -- the first notice is drained; the other two and a lost frame crowd a queue with room for two
  [.rejected ⟨"no driver"⟩, .rejected ⟨"no context"⟩, .failingAnimation ⟨"no timer"⟩]

def crowdedActions : List Stage.Action :=
  [.operate .acquire, .operate .drain, .operate .acquire, .operate .acquire, .share,
    .command 0 (.failNextRender "lost"), .operate (.runFrames 3), .operate (.resize ⟨0, 480⟩),
    .operate (.reload .standard)]

theorem notices_window_crowded :
    ∃ current, (History.final Stage.perform (.create (Session.fresh crowdedPlan sampleSurface narrowConfig))
        crowdedActions).play = .ok current ∧
      Stage.unseen [] (.create (Session.fresh crowdedPlan sampleSurface narrowConfig)) crowdedActions =
        [⟨.error, "no context"⟩, ⟨.warning, "lost"⟩, ⟨.error, "no timer"⟩] ∧
      (current.perform .drain).1 = .notices [⟨.warning, "lost"⟩, ⟨.error, "no timer"⟩] ∧
      current.snapshot.pendingNotifications.toNat = 2 := by
  obtain ⟨current, playing⟩ :
      ∃ current, (History.final Stage.perform (.create (Session.fresh crowdedPlan sampleSurface narrowConfig))
        crowdedActions).play = .ok current := ⟨_, rfl⟩
  have log : Stage.unseen [] (.create (Session.fresh crowdedPlan sampleSurface narrowConfig)) crowdedActions =
      [⟨.error, "no context"⟩, ⟨.warning, "lost"⟩, ⟨.error, "no timer"⟩] := rfl
  obtain ⟨_, _, drained, _, _, pending⟩ :=
    notices_window crowdedPlan sampleSurface narrowConfig (Session.fresh crowdedPlan sampleSurface narrowConfig)
      current crowdedActions rfl playing
  rw [log] at drained pending
  exact ⟨current, playing, log, drained, pending⟩

end Plotter
