import Plotter.Proofs.LiveEngines

/-!
An accepted size stays: the session, the descriptor of its surface and every engine that is live have it
until another one is accepted, however many engines come and go meanwhile. A refused size changes nothing.
Before the first accepted size the session has that of its configuration and the engines have that of the
descriptor, whether the two agree or not.
-/

set_option autoImplicit false

namespace Plotter

@[simp] theorem step_viewport (rig : Rig) (target : Camera) (factor : Float32) :
    (rig.step target factor).2.engine.viewport = rig.engine.viewport := by
  cases pending : rig.engine.renderFault with
  | some fault => rw [step_pending rig target factor fault pending]
  | none => rw [step_clear rig target factor pending]

@[simp] theorem load_viewport (rig : Rig) (graph : Graph) :
    (rig.load graph).2.engine.viewport = rig.engine.viewport := by
  obtain ⟨equations, same⟩ := load_engine rig graph
  rw [same]

theorem command_viewport (rig : Rig) (command : Rig.Command) (other : ∀ viewport, command ≠ .setViewport viewport) :
    (rig.perform command).2.engine.viewport = rig.engine.viewport := by
  cases command with
  | setViewport viewport => exact absurd rfl (other viewport)
  | renderFrame => cases pending : rig.engine.renderFault <;> simp [Rig.perform, Rig.renderFrame, Rig.record, pending]
  | setEquations formulas =>
      obtain ⟨equations, next⟩ := set_equations_next rig formulas
      rw [Rig.perform, next]
  | start => rfl
  | failNextRender message => rfl
  | setCameraRotation x y => rfl
  | setCameraZoom zoom => rfl
  | setCamera camera => rfl
  | setAnimationEnabled enabled => rfl

namespace Session

/-- The session keeps a size of its own beside the one that new engines take from the surface. -/
structure Measured (size offer : Viewport) (session : Session) : Prop where
  recorded : session.viewport = size
  offered : session.surface.viewport = offer
  shown : session.pool.Every fun engine => engine.viewport = offer

abbrev Sized (viewport : Viewport) (session : Session) : Prop := session.Measured viewport viewport

theorem forget_measured (size offer : Viewport) (session : Session) (measured : session.Measured size offer) :
    session.forgetReleasedEngine.Measured size offer := by
  have shown := every_forget session _ measured.shown
  rw [forget_next] at shown ⊢
  exact ⟨measured.recorded, measured.offered, shown⟩

theorem tick_measured (size offer : Viewport) (session : Session) (measured : session.Measured size offer) :
    session.tick.2.Measured size offer := by
  have shown := every_tick session _ (fun rig same => by simpa using same) measured.shown
  have outcome := tick_cases session
  generalize session.tick = result at outcome shown ⊢
  cases outcome with
  | skipped halted => exact measured
  | terminated running lost => exact forget_measured size offer session measured
  | rendered running handle holding next done => exact ⟨measured.recorded, measured.offered, shown⟩
  | faulted running handle holding fault next done => exact ⟨measured.recorded, measured.offered, shown⟩

theorem reload_measured (size offer : Viewport) (session : Session) (graph : Graph)
    (measured : session.Measured size offer) : (session.reload graph).2.Measured size offer := by
  have shown := every_reload session _ graph (fun rig same => by simpa using same) measured.shown
  have outcome := reload_cases session graph
  generalize session.reload graph = result at outcome shown ⊢
  cases outcome with
  | absent unheld => exact measured
  | misplaced handle held defect flawed => exact measured
  | lost handle held dense dead => exact forget_measured size offer session measured
  | loaded handle held dense next done => exact ⟨measured.recorded, measured.offered, shown⟩
  | refused handle held dense fault next done => exact ⟨measured.recorded, measured.offered, shown⟩

theorem measured_carried (size offer : Viewport) : Carried (Measured size offer) where
  forget := fun session _ _ _ => forget_measured size offer session
  tick := tick_measured size offer
  reload := reload_measured size offer
  press := fun _ measured => ⟨measured.recorded, measured.offered, measured.shown⟩
  lift := fun _ measured => ⟨measured.recorded, measured.offered, measured.shown⟩
  drag := fun _ _ _ _ _ measured => ⟨measured.recorded, measured.offered, measured.shown⟩
  zoom := fun _ _ _ _ measured => ⟨measured.recorded, measured.offered, measured.shown⟩

theorem teardown_measured (size offer : Viewport) (session : Session) (measured : session.Measured size offer) :
    session.teardown.Measured size offer := by
  have shown := every_teardown session _ measured.shown
  rw [teardown_next] at shown ⊢
  exact ⟨measured.recorded, measured.offered, shown⟩

theorem acquire_measured (size offer : Viewport) (session : Session) (measured : session.Measured size offer) :
    session.acquire.2.Measured size offer := by
  have shown := every_acquire session _ (fun _ => measured.offered) measured.shown
  have outcome := acquire_cases session
  generalize session.acquire = result at outcome shown ⊢
  cases outcome with
  | refused error pool outcome => exact ⟨measured.recorded, measured.offered, shown⟩
  | opened handle pool outcome => exact ⟨measured.recorded, measured.offered, shown⟩

theorem resize_refused (session : Session) (viewport : Viewport) (error : Error)
    (refused : (session.resize viewport).1 = .error error) : (session.resize viewport).2 = session := by
  have outcome := resize_cases session viewport
  generalize session.resize viewport = result at outcome refused ⊢
  cases outcome with
  | invalid zero => rfl
  | recorded valid unheld => cases refused
  | forwarded valid handle held next done => cases refused
  | lost valid handle held dead => cases refused

theorem resize_accepted (session : Session) (viewport : Viewport) (coherent : session.Coherent)
    (accepted : (session.resize viewport).1 = .ok ()) :
    viewport.isValid = true ∧ (session.resize viewport).2.Sized viewport := by
  have outcome := resize_cases session viewport
  have after := resize_coherent session viewport coherent
  generalize session.resize viewport = result at outcome accepted after ⊢
  cases outcome with
  | invalid zero => cases accepted
  | recorded valid unheld =>
      exact ⟨valid, rfl, rfl, every_quiet _ _ (coherent_unheld_quiet session coherent unheld)⟩
  | forwarded valid handle held next done =>
      refine ⟨valid, rfl, rfl, every_leased _ _ after ?_⟩
      intro leased engine same found
      cases held.symm.trans same
      obtain ⟨before, _, now⟩ := with_engine_found session.pool next handle _ _ done
      cases found.symm.trans now
      rfl
  | lost valid handle held dead =>
      refine ⟨valid, ?_⟩
      -- With the lost engine forgotten no engine is live that could have another size.
      rw [forget_next] at after ⊢
      exact ⟨rfl, rfl, every_quiet _ _ (coherent_unheld_quiet _ after rfl)⟩

@[simp] theorem of_result_done (result : Except Error Unit) : Answer.ofResult result = .done ↔ result = .ok () := by
  cases result <;> simp [Answer.ofResult]

@[simp] theorem of_result_failed (result : Except Error Unit) (error : Error) :
    Answer.ofResult result = .failed error ↔ result = .error error := by
  cases result <;> simp [Answer.ofResult]

theorem perform_size (session : Session) (operation : Operation) (viewport : Viewport)
    (sizing : operation.size? = some viewport) :
    session.perform operation = (.ofResult (session.resize viewport).1, (session.resize viewport).2) := by
  cases operation with
  | resize size =>
      cases sizing
      rfl
  | dispatch event =>
      cases event with
      | resize width height =>
          cases sizing
          rfl
      | _ => cases sizing
  | _ => cases sizing

theorem perform_measured (size offer : Viewport) (session : Session) (operation : Operation)
    (unsized : operation.size?.isSome = true → (session.perform operation).1 ≠ .done)
    (measured : session.Measured size offer) : (session.perform operation).2.Measured size offer := by
  apply perform_carries (Measured size offer) (measured_carried size offer) session operation _ _ _ _ measured
  -- A size that is asked for here is refused, and a refusal changes nothing.
  · intro other sizing
    have refused := unsized (by simp [sizing])
    rw [perform_size session operation other sizing, Ne, of_result_done] at refused
    cases answer : (session.resize other).1 with
    | ok _ => exact absurd answer refused
    | error error =>
        rw [resize_refused session other error answer]
        exact measured
  · intro _
    exact acquire_measured size offer session measured
  · intro _
    exact teardown_measured size offer session measured
  · intro _
    exact ⟨measured.recorded, measured.offered, measured.shown⟩

end Session

namespace Stage

def changesSize (stage : Stage) : Action → Bool
  | .operate operation =>
    match stage.play with
    | .ok session => operation.size?.isSome && decide ((session.perform operation).1 = .done)
    | .error _ => false
  | .command _ (.setViewport _) => true
  | _ => false

def Undisturbed : Stage → List Action → Prop :=
  History.Along perform fun stage action => stage.changesSize action = false

theorem undisturbed_measured (size offer : Viewport) (stage : Stage) (action : Action)
    (undisturbed : stage.changesSize action = false) (measured : stage.Playing (Session.Measured size offer)) :
    (stage.perform action).2.Playing (Session.Measured size offer) := by
  apply perform_playing (Session.Measured size offer) stage action _ _ _ measured
  · intro session operation same playing before
    subst action
    apply Session.perform_measured size offer session operation _ before
    intro sizing accepted
    simp [changesSize, playing, sizing, accepted] at undisturbed
  · intro session handle before
    exact ⟨before.recorded, before.offered, every_release session.pool _ handle before.shown⟩
  · intro session index command handle answer pool same done before
    subst action
    have other : ∀ viewport, command ≠ .setViewport viewport := by
      intro viewport same
      subst command
      cases undisturbed
    exact ⟨before.recorded, before.offered, every_with_engine session.pool pool _ handle _ answer done
      (fun rig shown => (command_viewport rig command other).trans shown) before.shown⟩

theorem undisturbed_sized (viewport : Viewport) (stage : Stage) (action : Action)
    (undisturbed : stage.changesSize action = false) (sized : stage.Playing (Session.Sized viewport)) :
    (stage.perform action).2.Playing (Session.Sized viewport) :=
  undisturbed_measured viewport viewport stage action undisturbed sized

end Stage

theorem accepted_size_stays (plan : List Provision) (surface : Surface) (config : Config) (session current : Session)
    (stage : Stage) (operation : Session.Operation) (viewport : Viewport)
    (created : Session.create plan surface config = .ok session)
    (reached : Stage.Reachable (.create session) stage) (playing : stage.play = .ok current)
    (sizing : operation.size? = some viewport) :
    let answer := (current.perform operation).1
    let resized : Stage := { stage with play := .ok (current.perform operation).2 }
    (answer = .done → ∀ (later : List Stage.Action) (last : Session), resized.Undisturbed later →
      (History.final Stage.perform resized later).play = .ok last →
      viewport.width ≠ 0 ∧ viewport.height ≠ 0 ∧ last.viewport = viewport ∧ last.surface.viewport = viewport ∧
      ∀ slot ∈ last.pool.slots, slot.live = true → slot.engine.viewport = viewport) ∧
    (∀ error, answer = .failed error → (current.perform operation).2 = current) := by
  intro answer resized
  have coherent := Stage.playing_coherent plan surface config session current stage created reached playing
  simp only [answer, resized, Session.perform_size current operation viewport sizing, Session.of_result_done,
    Session.of_result_failed]
  refine ⟨?_, Session.resize_refused current viewport⟩
  · intro accepted later last undisturbed ended
    obtain ⟨valid, sized⟩ := Session.resize_accepted current viewport coherent accepted
    obtain ⟨wide, high⟩ := not_or.mp ((viewport_valid_iff viewport).mp valid)
    have start : Stage.Playing (Session.Sized viewport) { stage with play := .ok (current.resize viewport).2 } := by
      intro first same
      cases same
      exact sized
    have kept := History.along_keeps Stage.perform _ _ (Stage.undisturbed_sized viewport) _ start later undisturbed
      last ended
    exact ⟨wide, high, kept.recorded, kept.offered, kept.shown⟩

def laterActions : List Stage.Action :=
  -- the session learns from the resize that its engine is gone; the size reaches the engine that comes after
  -- the next acquisition, which follows a teardown and a refused size.
  [.operate .teardown, .operate (.resize ⟨0, 480⟩), .operate .acquire, .share, .command 1 (.setCameraZoom 3),
    .operate .tick]

theorem accepted_size_stays_lost :
    ∃ current last, (sampleStage rejectedPlan unnoticedRelease).play = .ok current ∧
      current.lease.isSome = true ∧ current.engineIsLive = false ∧
      (History.final Stage.perform { sampleStage rejectedPlan unnoticedRelease with
        play := .ok (current.perform (.resize ⟨640, 480⟩)).2 } laterActions).play = .ok last ∧
      last.isReady = true ∧ last.surface.viewport = ⟨640, 480⟩ ∧
      ∀ slot ∈ last.pool.slots, slot.live = true → slot.engine.viewport = ⟨640, 480⟩ := by
  obtain ⟨current, last, playing, held, dead, done, undisturbed, ended, ready⟩ :
      ∃ current last, (sampleStage rejectedPlan unnoticedRelease).play = .ok current ∧
        current.lease.isSome = true ∧ current.engineIsLive = false ∧
        (current.perform (.resize ⟨640, 480⟩)).1 = .done ∧
        Stage.Undisturbed { sampleStage rejectedPlan unnoticedRelease with
          play := .ok (current.perform (.resize ⟨640, 480⟩)).2 } laterActions ∧
        (History.final Stage.perform { sampleStage rejectedPlan unnoticedRelease with
          play := .ok (current.perform (.resize ⟨640, 480⟩)).2 } laterActions).play = .ok last ∧
        last.isReady = true :=
    ⟨_, _, rfl, rfl, rfl, rfl, ⟨rfl, rfl, rfl, rfl, rfl, rfl, trivial⟩, rfl, rfl⟩
  obtain ⟨stays, _⟩ :=
    accepted_size_stays rejectedPlan sampleSurface sampleConfig
      (Session.fresh rejectedPlan sampleSurface sampleConfig) current _ (.resize ⟨640, 480⟩) ⟨640, 480⟩ rfl
      (sample_reachable _ _) playing rfl
  obtain ⟨_, _, _, offered, shown⟩ := stays done laterActions last undisturbed ended
  exact ⟨current, last, playing, held, dead, ended, ready, offered, shown⟩

theorem create_viewport_valid (plan : List Provision) (surface : Surface) (config : Config) (session : Session)
    (created : Session.create plan surface config = .ok session) : config.viewport.isValid = true := by
  cases valid : config.viewport.isValid with
  | true => rfl
  | false => simp [Session.create, Config.validate, valid] at created

theorem fresh_measured (plan : List Provision) (surface : Surface) (config : Config) :
    (Session.fresh plan surface config).Measured config.viewport surface.viewport :=
  ⟨rfl, rfl, every_quiet _ _ (Session.coherent_unheld_quiet _ (Session.fresh_coherent plan surface config) rfl)⟩

theorem initial_sizes_stay (plan : List Provision) (surface : Surface) (config : Config) (session current : Session)
    (actions : List Stage.Action) (created : Session.create plan surface config = .ok session)
    (undisturbed : (Stage.create session).Undisturbed actions)
    (playing : (History.final Stage.perform (.create session) actions).play = .ok current) :
    (config.viewport.width ≠ 0 ∧ config.viewport.height ≠ 0 ∧ current.viewport = config.viewport) ∧
    current.surface.viewport = surface.viewport ∧
    (∀ slot ∈ current.pool.slots, slot.live = true → slot.engine.viewport = surface.viewport) ∧
    ((current.viewport = current.surface.viewport ∧
      ∀ slot ∈ current.pool.slots, slot.live = true →
        slot.engine.viewport = current.viewport ∧ slot.engine.viewport.isValid = true) ↔
      surface.viewport = config.viewport) := by
  have valid := create_viewport_valid plan surface config session created
  obtain ⟨wide, high⟩ := not_or.mp ((viewport_valid_iff config.viewport).mp valid)
  have start : (Stage.create session).Playing (Session.Measured config.viewport surface.viewport) := by
    intro first same
    cases same
    rw [Session.create_fresh plan surface config session created]
    exact fresh_measured plan surface config
  have kept := History.along_keeps Stage.perform _ _ (Stage.undisturbed_measured config.viewport surface.viewport) _
    start actions undisturbed current playing
  refine ⟨⟨wide, high, kept.recorded⟩, kept.offered, kept.shown, ?_⟩
  rw [kept.recorded, kept.offered]
  constructor
  · intro agreed
    exact agreed.1.symm
  · intro same
    refine ⟨same.symm, ?_⟩
    intro slot member live
    rw [kept.shown slot member live, same]
    exact ⟨rfl, valid⟩

def narrowSurface : Surface := (Surface.create "#canvas" ⟨640, 480⟩).withCapability .webGl2

def unresizedActions : List Stage.Action :=
  [.operate .acquire, .share, .operate (.resize ⟨0, 480⟩), .release 0, .operate .acquire, .operate .tick]

theorem initial_sizes_stay_apart :
    ∃ current, (History.final Stage.perform (.create (Session.fresh [] narrowSurface sampleConfig))
        unresizedActions).play = .ok current ∧
      current.isReady = true ∧ current.viewport = ⟨800, 600⟩ ∧ current.surface.viewport = ⟨640, 480⟩ ∧
      ∀ slot ∈ current.pool.slots, slot.live = true → slot.engine.viewport = ⟨640, 480⟩ := by
  obtain ⟨current, playing, undisturbed, ready⟩ :
      ∃ current, (History.final Stage.perform (.create (Session.fresh [] narrowSurface sampleConfig))
          unresizedActions).play = .ok current ∧
        (Stage.create (Session.fresh [] narrowSurface sampleConfig)).Undisturbed unresizedActions ∧
        current.isReady = true := ⟨_, rfl, ⟨rfl, rfl, rfl, rfl, rfl, rfl, trivial⟩, rfl⟩
  obtain ⟨⟨_, _, recorded⟩, offered, shown, _⟩ :=
    initial_sizes_stay [] narrowSurface sampleConfig (Session.fresh [] narrowSurface sampleConfig) current
      unresizedActions rfl undisturbed playing
  exact ⟨current, playing, ready, recorded, offered, shown⟩

def emptySurface : Surface := (Surface.create "#canvas" ⟨0, 0⟩).withCapability .webGl2

theorem engine_comes_up_empty :
    ∃ session current handle engine, Session.create [] emptySurface sampleConfig = .ok session ∧
      (History.final Stage.perform (.create session) [.operate .acquire]).play = .ok current ∧
      current.lease = some handle ∧ current.pool.engine? handle = some engine ∧
      current.viewport = ⟨800, 600⟩ ∧ current.surface.viewport ≠ current.viewport ∧
      engine.viewport ≠ current.viewport ∧ engine.viewport.isValid = false :=
  ⟨_, _, _, _, rfl, rfl, rfl, rfl, rfl, by decide, by decide, rfl⟩

end Plotter
