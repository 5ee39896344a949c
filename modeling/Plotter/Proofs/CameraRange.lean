import Plotter.Proofs.LiveEngines
import Plotter.Proofs.Singles

/-!
Cameras that stay in range. An input that moves the target by half of the last place of `2 ^ power` at most
cannot carry a camera beyond `2 ^ power`, in however many steps, for rounding takes every such step back; nor
can the easing of the live camera. A larger input can: a finite one may even take the target to infinity.
-/

set_option autoImplicit false

namespace Plotter

namespace Binary

def Within (power : Int) (number : Float32) : Prop :=
  number.isFinite = true ∧ (units number).natAbs ≤ 2 ^ (power + 149).toNat

instance (power : Int) (number : Float32) : Decidable (Within power number) := inferInstanceAs (Decidable (_ ∧ _))

theorem nearest_nonneg (low : Nat) (exact : Int) (nonneg : 0 ≤ exact) :
    exact.sign * (rounded low exact.natAbs : Int) = rounded low exact.natAbs := by
  by_cases zero : exact = 0
  · simp [zero]
  · rw [Int.sign_eq_one_of_pos (by omega), Int.one_mul]

theorem nearest_nonpos (low : Nat) (exact : Int) (nonpos : exact ≤ 0) :
    exact.sign * (rounded low exact.natAbs : Int) = -rounded low exact.natAbs := by
  by_cases zero : exact = 0
  · simp [zero]
  · rw [Int.sign_eq_neg_one_of_neg (by omega), Int.neg_mul, Int.one_mul]

@[simp] theorem nearest_size (low : Nat) (exact : Int) :
    (exact.sign * (rounded low exact.natAbs : Int)).natAbs = rounded low exact.natAbs := by
  rcases Int.le_total 0 exact with nonneg | nonpos
  · rw [nearest_nonneg low exact nonneg, Int.natAbs_natCast]
  · rw [nearest_nonpos low exact nonpos, Int.natAbs_neg, Int.natAbs_natCast]

/-- Half of the last place may be added to a power of two, and the sum is the power again. -/
theorem add_bounded (place : Nat) (left right : Float32) (wide : 24 ≤ place) (narrow : place ≤ 275)
    (leftFinite : left.isFinite = true) (rightFinite : right.isFinite = true)
    (bounded : (units left + units right).natAbs ≤ 2 ^ place + 2 ^ (place - 24)) :
    (left + right).isFinite = true ∧ (units (left + right)).natAbs ≤ 2 ^ place := by
  have limited := rounded_le_power place _ wide bounded
  have small := Nat.lt_of_le_of_lt limited (power_small place (by omega))
  obtain ⟨finite, value⟩ := add_units left right leftFinite rightFinite small
  rw [value, nearest_size]
  exact ⟨finite, limited⟩

theorem mul_fraction (number factor : Float32) (finite : number.isFinite = true)
    (small : (units number).natAbs < ceiling) (positive : 0 < factor) (limited : factor ≤ 1) :
    (number * factor).isFinite = true ∧
      (0 ≤ units number → 0 ≤ units (number * factor) ∧ units (number * factor) ≤ units number) ∧
      (units number ≤ 0 → units number ≤ units (number * factor) ∧ units (number * factor) ≤ 0) := by
  obtain ⟨fractional, nonneg, least⟩ := fraction_units factor positive limited
  obtain ⟨significand, scale, short, size⟩ := units_short number
  -- The number is a float itself, so a product that is no larger does not round past it.
  have part : (units number * units factor).natAbs ≤ significand * 2 ^ (scale + 149) := by
    have factorSize : (units factor).natAbs ≤ 2 ^ 149 := by omega
    rw [Int.natAbs_mul, size, Nat.pow_add, ← Nat.mul_assoc]
    exact Nat.mul_le_mul_left _ factorSize
  have bounded : rounded 149 (units number * units factor).natAbs ≤ (units number).natAbs := by
    have := rounded_le 149 _ significand (scale + 149) (Nat.le_of_lt short) (Nat.le_add_left _ _) part
    rwa [Nat.add_sub_cancel, ← size] at this
  obtain ⟨result, value⟩ := mul_units number factor finite fractional (Nat.lt_of_le_of_lt bounded small)
  rw [value]
  refine ⟨result, ?_, ?_⟩
  · intro above
    rw [nearest_nonneg 149 _ (Int.mul_nonneg above nonneg)]
    omega
  · intro below
    rw [nearest_nonpos 149 _ (Int.mul_nonpos_of_nonpos_of_nonneg below nonneg)]
    omega

theorem within_place (power : Int) (low : -125 ≤ power) (high : power ≤ 126) :
    ∃ place : Nat, power + 149 = place ∧ 24 ≤ place ∧ place ≤ 275 := ⟨(power + 149).toNat, by omega⟩

theorem add_within (power : Int) (number shift : Float32) (low : -125 ≤ power) (high : power ≤ 126)
    (numberWithin : Within power number) (slight : Within (power - 24) shift) : Within power (number + shift) := by
  obtain ⟨place, level, wide, narrow⟩ := within_place power low high
  obtain ⟨numberFinite, size⟩ := numberWithin
  obtain ⟨shiftFinite, half⟩ := slight
  rw [show (power - 24 + 149).toNat = place - 24 by omega] at half
  rw [level, Int.toNat_natCast] at size
  rw [Within, level]
  exact add_bounded place number shift wide narrow numberFinite shiftFinite (by omega)

theorem neg_within (power : Int) (number : Float32) (within : Within power number) : Within power (-number) := by
  obtain ⟨finite, value⟩ := neg_units number
  rw [Within, finite, value, Int.natAbs_neg]
  exact within

theorem sub_within (power : Int) (number shift : Float32) (low : -125 ≤ power) (high : power ≤ 126)
    (numberWithin : Within power number) (slight : Within (power - 24) shift) : Within power (number - shift) := by
  rw [sub_as_add]
  exact add_within power number (-shift) low high numberWithin (neg_within _ shift slight)

theorem abs_within (power : Int) (number : Float32) (within : Within power number) : Within power number.abs := by
  obtain ⟨finite, value⟩ := abs_units number
  rw [Within, finite, value, Int.natAbs_natCast]
  exact within

theorem larger_within (power : Int) (left right : Float32) (leftWithin : Within power left)
    (rightWithin : Within power right) : Within power (larger left right) := by
  rw [larger]
  split
  · exact rightWithin
  · exact leftWithin

theorem lerp_within (power : Int) (start target factor : Float32) (low : -125 ≤ power) (high : power ≤ 126)
    (startWithin : Within power start) (targetWithin : Within power target) (positive : 0 < factor)
    (limited : factor ≤ 1) : Within power (lerp start target factor) := by
  obtain ⟨place, level, wide, narrow⟩ := within_place power low high
  obtain ⟨startFinite, startSize⟩ := startWithin
  obtain ⟨targetFinite, targetSize⟩ := targetWithin
  obtain ⟨backFinite, back⟩ := neg_units start
  rw [level, Int.toNat_natCast] at startSize targetSize
  have double : 2 ^ (place + 1) = 2 * 2 ^ place := Nat.pow_succ'
  have apart : (units target + units (-start)).natAbs ≤ 2 ^ (place + 1) := by omega
  -- The whole way is at most twice the range, which is finite and has an error of half a place at most.
  have limit := rounded_le 0 (units target + units (-start)).natAbs 1 (place + 1) (by decide) (Nat.zero_le _)
    (by rwa [Nat.one_mul])
  rw [Nat.one_mul, Nat.sub_zero] at limit
  have small := Nat.lt_of_le_of_lt limit (power_small (place + 1) (by omega))
  have error := rounded_le_add place _ wide apart
  obtain ⟨wayFinite, way⟩ := add_units target (-start) targetFinite (backFinite.trans startFinite) small
  have waySmall : (units (target + -start)).natAbs < ceiling := by
    rw [way, nearest_size]
    exact small
  obtain ⟨partFinite, forward, backward⟩ := mul_fraction (target + -start) factor wayFinite waySmall positive limited
  -- The step never leaves the way, so its sign says on which side of the start the sum lies.
  have half := Nat.two_pow_pos (place - 24)
  have bounded : (units start + units ((target + -start) * factor)).natAbs ≤ 2 ^ place + 2 ^ (place - 24) := by
    rcases Int.le_total 0 (units target + units (-start)) with ahead | behind
    · rw [nearest_nonneg 0 _ ahead] at way
      obtain ⟨_, _⟩ := forward (by omega)
      omega
    · rw [nearest_nonpos 0 _ behind] at way
      obtain ⟨_, _⟩ := backward (by omega)
      omega
  rw [lerp, sub_as_add, Within, level]
  exact add_bounded place _ _ wide narrow startFinite partFinite bounded

end Binary

namespace Camera

def Within (power : Int) (camera : Camera) : Prop :=
  Binary.Within power camera.rotationX ∧ Binary.Within power camera.rotationY ∧ Binary.Within power camera.zoom

instance (power : Int) (camera : Camera) : Decidable (camera.Within power) := inferInstanceAs (Decidable (_ ∧ _))

theorem within_finite (power : Int) (camera : Camera) (within : camera.Within power) : camera.isFinite = true := by
  obtain ⟨⟨first, _⟩, ⟨second, _⟩, ⟨third, _⟩⟩ := within
  simp only [isFinite, first, second, third, Bool.and_self]

theorem smoothed_within (power : Int) (camera target : Camera) (factor : Float32) (low : -125 ≤ power)
    (high : power ≤ 126) (positive : 0 < factor) (limited : factor ≤ 1) (cameraWithin : camera.Within power)
    (targetWithin : target.Within power) : (camera.smoothedToward target factor).Within power :=
  ⟨Binary.lerp_within power _ _ factor low high cameraWithin.1 targetWithin.1 positive limited,
    Binary.lerp_within power _ _ factor low high cameraWithin.2.1 targetWithin.2.1 positive limited,
    Binary.lerp_within power _ _ factor low high cameraWithin.2.2 targetWithin.2.2 positive limited⟩

end Camera

theorem initial_camera_within (power : Int) (wide : 3 ≤ power) : Engine.initialCamera.Within power := by
  have zero : Binary.Within power 0 := ⟨rfl, Nat.zero_le _⟩
  have eight : (Binary.units Engine.initialCamera.zoom).natAbs = 2 ^ 152 := rfl
  refine ⟨zero, zero, rfl, ?_⟩
  rw [eight]
  exact Nat.pow_le_pow_right (by decide) (by omega)

namespace Controller

theorem create_within (power : Int) (tuning : Tuning) (initial : Camera) (aimed : initial.Within power)
    (floored : Binary.Within power tuning.minZoom) : (create tuning initial).target.Within power :=
  ⟨aimed.1, aimed.2.1, Binary.larger_within power _ _ aimed.2.2 floored⟩

theorem pointer_move_within (power : Int) (controller : Controller) (live : Camera) (deltaX deltaY : Float32)
    (low : -125 ≤ power) (high : power ≤ 126)
    (slight : (controller.pointerMove live deltaX deltaY).1 = true →
      Binary.Within (power - 24) (deltaX * controller.tuning.panSensitivity) ∧
      Binary.Within (power - 24) (deltaY * controller.tuning.panSensitivity))
    (shown : live.Within power) (aimed : controller.target.Within power) :
    (controller.pointerMove live deltaX deltaY).2.tuning = controller.tuning ∧
      (controller.pointerMove live deltaX deltaY).2.target.Within power := by
  rw [pointerMove] at slight ⊢
  split at slight
  · rename_i effective
    obtain ⟨slightX, slightY⟩ := slight rfl
    rw [if_pos effective]
    exact ⟨rfl, Binary.sub_within power _ _ low high shown.1 slightY,
      Binary.sub_within power _ _ low high shown.2.1 slightX, aimed.2.2⟩
  · rename_i dropped
    rw [if_neg dropped]
    exact ⟨rfl, aimed⟩

theorem wheel_within (power : Int) (controller : Controller) (live : Camera) (deltaZ : Float32)
    (low : -125 ≤ power) (high : power ≤ 126)
    (slight : (controller.wheel live deltaZ).1 = true →
      Binary.Within (power - 24) (deltaZ * controller.tuning.zoomSensitivity))
    (floored : Binary.Within power controller.tuning.minZoom) (shown : live.Within power)
    (aimed : controller.target.Within power) :
    (controller.wheel live deltaZ).2.tuning = controller.tuning ∧
      (controller.wheel live deltaZ).2.target.Within power := by
  rw [wheel] at slight ⊢
  split at slight
  · rename_i effective
    have zoom := Binary.add_within power _ _ low high shown.2.2 (slight rfl)
    rw [if_pos effective]
    exact ⟨rfl, aimed.1, aimed.2.1, Binary.larger_within power _ _ (Binary.abs_within power _ zoom) floored⟩
  · rename_i dropped
    rw [if_neg dropped]
    exact ⟨rfl, aimed⟩

end Controller

def Rig.Command.movesCamera : Rig.Command → Bool
  | .setCameraRotation _ _ | .setCameraZoom _ | .setCamera _ => true
  | _ => false

theorem command_camera (rig : Rig) (command : Rig.Command) (other : command.movesCamera = false) :
    (rig.perform command).2.engine.camera = rig.engine.camera := by
  cases command with
  | setCameraRotation x y => cases other
  | setCameraZoom zoom => cases other
  | setCamera camera => cases other
  | renderFrame => cases pending : rig.engine.renderFault <;> simp [Rig.perform, Rig.renderFrame, Rig.record, pending]
  | setEquations formulas =>
      obtain ⟨equations, next⟩ := set_equations_next rig formulas
      rw [Rig.perform, next]
  | start => rfl
  | failNextRender message => rfl
  | setViewport viewport => rfl
  | setAnimationEnabled enabled => rfl

structure Config.Ranged (power : Int) (config : Config) : Prop where
  wide : 3 ≤ power
  narrow : power ≤ 126
  positive : 0 < config.tuning.smoothingFactor
  limited : config.tuning.smoothingFactor ≤ 1
  aimed : config.initialTarget.Within power
  floored : Binary.Within power config.tuning.minZoom

namespace Session

structure Ranged (power : Int) (config : Config) (session : Session) : Prop where
  configured : session.config = config
  tuned : session.controller.tuning = config.tuning
  paced : session.frames.smoothingFactor = config.tuning.smoothingFactor
  aimed : session.controller.target.Within power
  shown : session.pool.Every fun engine => engine.camera.Within power

theorem fresh_ranged (power : Int) (plan : List Provision) (surface : Surface) (config : Config)
    (ranged : config.Ranged power) : (fresh plan surface config).Ranged power config where
  configured := rfl
  tuned := rfl
  paced := rfl
  aimed := Controller.create_within power config.tuning config.initialTarget ranged.aimed ranged.floored
  shown := by
    intro slot member
    cases member

theorem live_camera_within (power : Int) (config : Config) (session : Session) (camera : Camera)
    (ranged : session.Ranged power config) (shown : session.liveCamera = some camera) : camera.Within power := by
  obtain ⟨engine, found, rfl⟩ := Option.map_eq_some_iff.mp shown
  obtain ⟨handle, _, stored⟩ := Option.bind_eq_some_iff.mp found
  exact every_engine session.pool _ handle engine stored ranged.shown

theorem step_within (power : Int) (config : Config) (rig : Rig) (target : Camera) (ranged : config.Ranged power)
    (aimed : target.Within power) (shown : rig.engine.camera.Within power) :
    (rig.step target config.tuning.smoothingFactor).2.engine.camera.Within power := by
  cases pending : rig.engine.renderFault with
  | some fault =>
      rw [step_pending rig target _ fault pending]
      exact shown
  | none =>
      have := ranged.wide
      rw [step_clear rig target _ pending]
      exact Camera.smoothed_within power _ target _ (by omega) ranged.narrow ranged.positive ranged.limited shown aimed

theorem forget_ranged (power : Int) (config : Config) (session : Session) (ranged : session.Ranged power config) :
    session.forgetReleasedEngine.Ranged power config := by
  have shown := every_forget session _ ranged.shown
  rw [forget_next] at shown ⊢
  exact ⟨ranged.configured, ranged.tuned, by simpa using ranged.paced, ranged.aimed, shown⟩

theorem tick_ranged (power : Int) (config : Config) (moderate : config.Ranged power) (session : Session)
    (ranged : session.Ranged power config) : session.tick.2.Ranged power config := by
  have keeps : ∀ rig : Rig, rig.engine.camera.Within power →
      (rig.step session.controller.target session.frames.smoothingFactor).2.engine.camera.Within power := by
    intro rig shown
    rw [ranged.paced]
    exact step_within power config rig session.controller.target moderate ranged.aimed shown
  have shown := every_tick session _ keeps ranged.shown
  have outcome := tick_cases session
  generalize session.tick = result at outcome shown ⊢
  cases outcome with
  | skipped halted => exact ranged
  | terminated running lost => exact forget_ranged power config session ranged
  | rendered running handle holding next done =>
      exact ⟨ranged.configured, ranged.tuned, ranged.paced, ranged.aimed, shown⟩
  | faulted running handle holding fault next done =>
      exact ⟨ranged.configured, ranged.tuned, ranged.paced, ranged.aimed, shown⟩

theorem reload_ranged (power : Int) (config : Config) (session : Session) (graph : Graph)
    (ranged : session.Ranged power config) : (session.reload graph).2.Ranged power config := by
  have keeps : ∀ rig : Rig, rig.engine.camera.Within power → (rig.load graph).2.engine.camera.Within power := by
    intro rig shown
    obtain ⟨equations, same⟩ := load_engine rig graph
    rw [same]
    exact shown
  -- The live cameras first: the outcomes below forget which pool they came from.
  have shown := every_reload session _ graph keeps ranged.shown
  have outcome := reload_cases session graph
  generalize session.reload graph = result at outcome shown ⊢
  cases outcome with
  | absent unheld => exact ranged
  | misplaced handle held defect flawed => exact ranged
  | lost handle held dense dead => exact forget_ranged power config session ranged
  | loaded handle held dense next done =>
      exact ⟨ranged.configured, ranged.tuned, ranged.paced, ranged.aimed, shown⟩
  | refused handle held dense fault next done =>
      exact ⟨ranged.configured, ranged.tuned, ranged.paced, ranged.aimed, shown⟩

theorem ranged_steady (power : Int) (config : Config) (moderate : config.Ranged power) :
    Steady (Ranged power config) where
  forget := fun session _ _ _ => forget_ranged power config session
  tick := tick_ranged power config moderate
  reload := reload_ranged power config
  press := fun _ ranged => ⟨ranged.configured, ranged.tuned, ranged.paced, ranged.aimed, ranged.shown⟩
  lift := fun _ ranged => ⟨ranged.configured, ranged.tuned, ranged.paced, ranged.aimed, ranged.shown⟩

theorem resize_ranged (power : Int) (config : Config) (session : Session) (viewport : Viewport)
    (ranged : session.Ranged power config) : (session.resize viewport).2.Ranged power config := by
  have outcome := resize_cases session viewport
  generalize session.resize viewport = result at outcome ⊢
  cases outcome with
  | invalid zero => exact ranged
  | recorded valid unheld => exact ⟨ranged.configured, ranged.tuned, ranged.paced, ranged.aimed, ranged.shown⟩
  | forwarded valid handle held next done =>
      exact ⟨ranged.configured, ranged.tuned, ranged.paced, ranged.aimed,
        every_with_engine session.pool next _ handle _ _ done (fun _ shown => shown) ranged.shown⟩
  | lost valid handle held dead =>
      have forgotten := forget_ranged power config { session with viewport := viewport }
        ⟨ranged.configured, ranged.tuned, ranged.paced, ranged.aimed, ranged.shown⟩
      exact ⟨forgotten.configured, forgotten.tuned, forgotten.paced, forgotten.aimed, forgotten.shown⟩

theorem teardown_ranged (power : Int) (config : Config) (session : Session) (ranged : session.Ranged power config) :
    session.teardown.Ranged power config := by
  have shown := every_teardown session _ ranged.shown
  rw [teardown_next] at shown ⊢
  exact ⟨ranged.configured, ranged.tuned, by simpa using ranged.paced, ranged.aimed, shown⟩

theorem acquire_ranged (power : Int) (config : Config) (moderate : config.Ranged power) (session : Session)
    (ranged : session.Ranged power config) : session.acquire.2.Ranged power config := by
  have shown := every_acquire session (fun engine => engine.camera.Within power)
    (fun _ => initial_camera_within power moderate.wide) ranged.shown
  have halted : session.haltedLoop.smoothingFactor = config.tuning.smoothingFactor := by
    rw [haltedLoop]
    split
    · simpa using ranged.paced
    · exact ranged.paced
  have outcome := acquire_cases session
  generalize session.acquire = result at outcome shown ⊢
  cases outcome with
  | refused error pool outcome => exact ⟨ranged.configured, ranged.tuned, halted, ranged.aimed, shown⟩
  | opened handle pool outcome =>
      refine ⟨ranged.configured, ?_, ?_, ?_, shown⟩
      all_goals rw [ranged.configured]
      · rfl
      · exact Controller.create_within power _ _ moderate.aimed moderate.floored

def Slight (power : Int) (session : Session) (operation : Operation) : Prop :=
  ∀ live ∈ session.liveCamera,
    (∀ deltas ∈ operation.drag?, (session.controller.pointerMove live deltas.1 deltas.2).1 = true →
      Binary.Within (power - 24) (deltas.1 * session.config.tuning.panSensitivity) ∧
      Binary.Within (power - 24) (deltas.2 * session.config.tuning.panSensitivity)) ∧
    ∀ delta ∈ operation.wheel?, (session.controller.wheel live delta).1 = true →
      Binary.Within (power - 24) (delta * session.config.tuning.zoomSensitivity)

instance (power : Int) (session : Session) (operation : Operation) : Decidable (session.Slight power operation) :=
  inferInstanceAs (Decidable (∀ live ∈ session.liveCamera, _ ∧ _))

theorem perform_ranged (power : Int) (config : Config) (moderate : config.Ranged power) (session : Session)
    (operation : Operation) (slight : session.Slight power operation) (ranged : session.Ranged power config) :
    (session.perform operation).2.Ranged power config := by
  have low : -125 ≤ power := by
    have := moderate.wide
    omega
  have tuned : session.config.tuning = session.controller.tuning := by rw [ranged.configured, ranged.tuned]
  -- The controller works with the tuning of the configuration for as long as the session lives.
  have floored := moderate.floored
  rw [← ranged.tuned] at floored
  rw [Slight, tuned] at slight
  apply perform_steady (Ranged power config) (ranged_steady power config moderate) session operation _ _ _ _ _ _ ranged
  · intro deltaX deltaY camera dragging live
    obtain ⟨same, aimed⟩ := Controller.pointer_move_within power session.controller camera deltaX deltaY low
      moderate.narrow ((slight camera live).1 (deltaX, deltaY) dragging)
      (live_camera_within power config session camera ranged live) ranged.aimed
    exact ⟨ranged.configured, same.trans ranged.tuned, ranged.paced, aimed, ranged.shown⟩
  · intro deltaZ camera turning live
    obtain ⟨same, aimed⟩ := Controller.wheel_within power session.controller camera deltaZ low moderate.narrow
      ((slight camera live).2 deltaZ turning) floored (live_camera_within power config session camera ranged live)
      ranged.aimed
    exact ⟨ranged.configured, same.trans ranged.tuned, ranged.paced, aimed, ranged.shown⟩
  · intro viewport _
    exact resize_ranged power config session viewport ranged
  · intro _
    exact acquire_ranged power config moderate session ranged
  · intro _
    exact teardown_ranged power config session ranged
  · intro _
    exact ⟨ranged.configured, ranged.tuned, ranged.paced, ranged.aimed, ranged.shown⟩

end Session

namespace Stage

def Slight (power : Int) (stage : Stage) : Action → Prop
  | .operate operation => ∀ session ∈ stage.play.toOption, session.Slight power operation
  | .command _ command => command.movesCamera = false
  | _ => True

instance (power : Int) (stage : Stage) : ∀ action, Decidable (stage.Slight power action)
  | .operate operation => inferInstanceAs (Decidable (∀ session ∈ stage.play.toOption, session.Slight power operation))
  | .command _ command => inferInstanceAs (Decidable (command.movesCamera = false))
  | .share | .release _ | .close => .isTrue trivial

theorem perform_ranged (power : Int) (config : Config) (moderate : config.Ranged power) (stage : Stage)
    (action : Action) (slight : stage.Slight power action) (ranged : stage.Playing (Session.Ranged power config)) :
    (stage.perform action).2.Playing (Session.Ranged power config) := by
  apply perform_playing (Session.Ranged power config) stage action _ _ _ ranged
  · intro session operation same playing before
    subst action
    have member : session ∈ stage.play.toOption := by
      rw [playing]
      rfl
    exact Session.perform_ranged power config moderate session operation (slight session member) before
  · intro session handle before
    exact ⟨before.configured, before.tuned, before.paced, before.aimed,
      every_release session.pool _ handle before.shown⟩
  · intro session index command handle answer pool same done before
    subst action
    have keeps : ∀ rig : Rig, rig.engine.camera.Within power → (rig.perform command).2.engine.camera.Within power := by
      intro rig shown
      rw [command_camera rig command slight]
      exact shown
    exact ⟨before.configured, before.tuned, before.paced, before.aimed,
      every_with_engine session.pool pool _ handle _ answer done keeps before.shown⟩

end Stage

theorem tuning_valid (tuning : Tuning) (valid : tuning.validate = .ok ()) :
    (tuning.panSensitivity.isFinite = true ∧ tuning.zoomSensitivity.isFinite = true) ∧
      (0 < tuning.smoothingFactor ∧ tuning.smoothingFactor ≤ 1) ∧
      (tuning.minZoom.isFinite = true ∧ 0 < tuning.minZoom) := by
  rw [Tuning.validate] at valid
  split at valid
  · cases valid
  · rename_i sensitivities
    split at valid
    · cases valid
    · rename_i smooth
      split at valid
      · cases valid
      · rename_i floor
        exact ⟨by simpa using sensitivities, by simpa using smooth, by simpa using floor⟩

theorem tuning_smoothing (tuning : Tuning) (valid : tuning.validate = .ok ()) :
    0 < tuning.smoothingFactor ∧ tuning.smoothingFactor ≤ 1 := (tuning_valid tuning valid).2.1

theorem create_valid (plan : List Provision) (surface : Surface) (config : Config) (session : Session)
    (created : Session.create plan surface config = .ok session) : config.tuning.validate = .ok () := by
  cases checked : config.tuning.validate with
  | ok _ => rfl
  | error defect =>
      by_cases sized : config.viewport.isValid = true <;>
        simp [Session.create, Config.validate, checked, sized] at created

theorem slight_inputs_keep_cameras_finite (power : Int) (plan : List Provision) (surface : Surface) (config : Config)
    (session current : Session) (actions : List Stage.Action) (wide : 3 ≤ power) (narrow : power ≤ 126)
    (created : Session.create plan surface config = .ok session) (aimed : config.initialTarget.Within power)
    (floored : Binary.Within power config.tuning.minZoom)
    (slight : History.Along Stage.perform (Stage.Slight power) (.create session) actions)
    (playing : (History.final Stage.perform (.create session) actions).play = .ok current) :
    (current.controller.target.isFinite = true ∧ current.controller.target.Within power) ∧
    ∀ camera, current.liveCamera = some camera → camera.isFinite = true ∧ camera.Within power := by
  obtain ⟨positive, limited⟩ := tuning_smoothing config.tuning (create_valid plan surface config session created)
  have moderate : config.Ranged power := ⟨wide, narrow, positive, limited, aimed, floored⟩
  have start : (Stage.create session).Playing (Session.Ranged power config) := by
    intro first same
    cases same
    rw [Session.create_fresh plan surface config session created]
    exact Session.fresh_ranged power plan surface config moderate
  have ranged := History.along_keeps Stage.perform _ _ (Stage.perform_ranged power config moderate) _ start actions
    slight current playing
  refine ⟨⟨Camera.within_finite power _ ranged.aimed, ranged.aimed⟩, ?_⟩
  intro camera shown
  have within := Session.live_camera_within power config current camera ranged shown
  exact ⟨Camera.within_finite power camera within, within⟩

def greatest : Float32 := Float32.ofBits 0x7f7fffff

def slightActions : List Stage.Action :=
  -- drags of a hundred pixels over four frames, of which the host spoils one. A far movement is dropped while the
  -- pointer is up, and so is one that is half no number.
  [.operate .acquire, .operate .acquire, .share, .operate (.pointerMove greatest greatest), .operate .pointerDown,
    .operate (.pointerMove 100 (-50)), .operate .tick, .operate (.pointerMove (0 / 0) greatest),
    .operate (.dispatch (.wheel (-99))), .command 0 (.failNextRender "lost"), .operate (.runFrames 3),
    .operate (.pointerMove (-100) 100)]

theorem slight_inputs_keep_cameras_finite_standard :
    ∃ current, (sampleStage rejectedPlan slightActions).play = .ok current ∧ current.isReady = true ∧
      current.frames.ticksRendered = 3 ∧ current.controller.target.isFinite = true ∧
      current.controller.target.Within 24 := by
  obtain ⟨current, playing, ready, ticks⟩ :
      ∃ current, (sampleStage rejectedPlan slightActions).play = .ok current ∧ current.isReady = true ∧
        current.frames.ticksRendered = 3 := ⟨_, rfl, rfl, rfl⟩
  obtain ⟨⟨finite, within⟩, _⟩ :=
    slight_inputs_keep_cameras_finite 24 rejectedPlan sampleSurface sampleConfig
      (Session.fresh rejectedPlan sampleSurface sampleConfig) current slightActions (by decide) (by decide) rfl
      (by decide +kernel) (by decide +kernel) (by decide +kernel) playing
  exact ⟨current, playing, ready, ticks, finite, within⟩

def steepConfig : Config := sampleConfig.withTuning { Tuning.standard with panSensitivity := 2 }

theorem finite_input_overflows :
    greatest.isFinite = true ∧ ∃ session current camera, Session.create [] sampleSurface steepConfig = .ok session ∧
      (History.final Stage.perform (.create session)
        [.operate .acquire, .operate .pointerDown, .operate (.pointerMove greatest 0), .operate (.runFrames 2)]).play =
          .ok current ∧
      current.controller.target.isFinite = false ∧ current.liveCamera = some camera ∧
      camera.rotationY.isNaN = true := ⟨rfl, _, _, _, rfl, rfl, rfl, rfl, rfl⟩

end Plotter
