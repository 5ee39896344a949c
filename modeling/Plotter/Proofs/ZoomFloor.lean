import Plotter.Proofs.CameraRange
import Plotter.Proofs.LastInputs

set_option autoImplicit false

namespace Plotter

namespace Binary

open Float.Model (UnpackedFloat)

theorem compare_swapped (left right : UnpackedFloat) :
    right.compare left = (left.compare right).map Ordering.swap := by
  cases left with
  | notANumber => cases right <;> rfl
  | infinity sign =>
      cases right with
      | infinity other => cases sign <;> cases other <;> rfl
      | _ => cases sign <;> rfl
  | zero sign =>
      cases right with
      | infinity other => cases other <;> rfl
      | finite other significand exponent positive => cases other <;> rfl
      | _ => rfl
  | finite sign significand exponent positive =>
      cases right with
      | notANumber => cases sign <;> rfl
      | infinity other => cases other <;> rfl
      | zero other => cases sign <;> rfl
      | finite other addend place nonzero =>
          -- Of two numbers with the same sign the exponents decide, and then the significands.
          have back : (compare place exponent).then (compare addend significand) =
              ((compare exponent place).then (compare significand addend)).swap := by
            rw [Ordering.swap_then, ← Int.compare_swap, ← Nat.compare_swap]
          cases sign <;> cases other
          · simp only [UnpackedFloat.compare, Option.map_some, back]
          · rfl
          · rfl
          · simp only [UnpackedFloat.compare, Option.map_some, back]

theorem compare_numbers (left right : UnpackedFloat) (leftNumber : left.isNaN = false)
    (rightNumber : right.isNaN = false) : ∃ order, left.compare right = some order := by
  cases left with
  | notANumber => cases leftNumber
  | infinity sign =>
      cases right with
      | notANumber => cases rightNumber
      | _ => cases sign <;> exact ⟨_, rfl⟩
  | zero sign =>
      cases right with
      | notANumber => cases rightNumber
      | infinity other => cases other <;> exact ⟨_, rfl⟩
      | finite other significand exponent positive => cases other <;> exact ⟨_, rfl⟩
      | zero other => exact ⟨_, rfl⟩
  | finite sign significand exponent positive =>
      cases right with
      | notANumber => cases rightNumber
      | infinity other => cases other <;> exact ⟨_, rfl⟩
      | zero other => cases sign <;> exact ⟨_, rfl⟩
      | finite other addend place nonzero => cases sign <;> cases other <;> exact ⟨_, rfl⟩

theorem le_unpacked (left right : Float32) :
    left ≤ right ↔ left.toModel.unpack.le right.toModel.unpack = true :=
  ⟨fun ordered => of_decide_eq_true ordered, fun ordered => decide_eq_true ordered⟩

theorem numbers_ordered (left right : Float32) (leftNumber : left.isNaN = false) (rightNumber : right.isNaN = false) :
    left ≤ right ∨ right ≤ left := by
  obtain ⟨order, found⟩ := compare_numbers left.toModel.unpack right.toModel.unpack leftNumber rightNumber
  rw [le_unpacked, le_unpacked, UnpackedFloat.le, UnpackedFloat.le, compare_swapped left.toModel.unpack, found]
  cases order <;> simp

theorem finite_number (number : Float32) (finite : number.isFinite = true) : number.isNaN = false := by
  rw [Float32.isFinite, Float32.Model.isFinite] at finite
  rw [Float32.isNaN, Float32.Model.isNaN]
  cases unpacked : number.toModel.unpack with
  | notANumber =>
      rw [unpacked] at finite
      cases finite
  | _ => rfl

theorem larger_floor (number floor : Float32) (proper : floor.isNaN = false) :
    (larger number floor).isNaN = false ∧ floor ≤ larger number floor := by
  by_cases lower : (number.isNaN || decide (number ≤ floor)) = true
  · have self := numbers_ordered floor floor proper proper
    rw [larger, if_pos lower]
    exact ⟨proper, self.elim id id⟩
  · rw [larger, if_neg lower]
    simp only [Bool.or_eq_true, decide_eq_true_eq, not_or, Bool.not_eq_true] at lower
    obtain ⟨comparable, above⟩ := lower
    exact ⟨comparable, (numbers_ordered number floor comparable proper).resolve_left above⟩

end Binary

theorem steered_floor (tuning : Tuning) (initial : Camera) (inputs : List Controller.Input)
    (proper : tuning.minZoom.isNaN = false) :
    let zoom := (Controller.steered tuning initial inputs).target.zoom
    zoom.isNaN = false ∧ tuning.minZoom ≤ zoom := by
  dsimp only [Controller.steered]
  cases Controller.lastTurn? inputs with
  | none => exact Binary.larger_floor initial.zoom tuning.minZoom proper
  | some turn => exact Binary.larger_floor _ tuning.minZoom proper

theorem final_floor (tuning : Tuning) (initial : Camera) (inputs : List Controller.Input)
    (valid : tuning.validate = .ok ()) :
    let zoom := (History.final Controller.handle (.create tuning initial) inputs).target.zoom
    zoom.isNaN = false ∧ tuning.minZoom ≤ zoom ∧ 0 < tuning.minZoom := by
  obtain ⟨_, _, finite, positive⟩ := tuning_valid tuning valid
  obtain ⟨number, floor⟩ := steered_floor tuning initial inputs (Binary.finite_number tuning.minZoom finite)
  rw [Controller.final_steered]
  exact ⟨number, floor, positive⟩

namespace Session

def Steered (config : Config) (session : Session) : Prop :=
  session.config = config ∧ ∃ inputs, session.controller =
    History.final Controller.handle (.create config.tuning config.initialTarget) inputs

theorem steered_input (config : Config) (session : Session) (input : Controller.Input)
    (steered : session.Steered config) :
    Steered config { session with controller := (session.controller.handle input).2 } := by
  obtain ⟨configured, inputs, same⟩ := steered
  refine ⟨configured, inputs ++ [input], ?_⟩
  simp [← same]

theorem steered_detached (config : Config) : Detached (Steered config) where
  apart := by
    intro session next steered configured same _
    rw [Steered, configured, same]
    exact steered
  tell := fun _ _ steered => steered
  empty := fun _ steered => steered
  renew := by
    intro session steered
    refine ⟨steered.1, [], ?_⟩
    rw [steered.1]
    rfl
  press := fun session => steered_input config session .down
  lift := fun session => steered_input config session .up
  drag := fun session camera deltaX deltaY => steered_input config session (.move camera deltaX deltaY)
  zoom := fun session camera deltaZ => steered_input config session (.wheel camera deltaZ)

theorem reached_steered (plan : List Provision) (surface : Surface) (config : Config) (session current : Session)
    (stage : Stage) (created : Session.create plan surface config = .ok session)
    (reached : Stage.Reachable (.create session) stage) (playing : stage.play = .ok current) :
    current.Steered config := by
  have start : (Stage.create session).Playing (Steered config) := by
    intro first same
    cases same
    rw [create_fresh plan surface config session created]
    exact ⟨rfl, [], rfl⟩
  exact Stage.reachable_detached (Steered config) (steered_detached config) _ stage reached start current playing

end Session

theorem zoom_stays_above_floor :
    (∀ (tuning : Tuning) (initial : Camera) (inputs : List Controller.Input), tuning.validate = .ok () →
      let zoom := (History.final Controller.handle (.create tuning initial) inputs).target.zoom
      zoom.isNaN = false ∧ tuning.minZoom ≤ zoom ∧ 0 < tuning.minZoom) ∧
    (∀ (plan : List Provision) (surface : Surface) (config : Config) (session current : Session) (stage : Stage),
      Session.create plan surface config = .ok session → Stage.Reachable (.create session) stage →
      stage.play = .ok current →
      let zoom := current.controller.target.zoom
      zoom.isNaN = false ∧ config.tuning.minZoom ≤ zoom ∧ 0 < config.tuning.minZoom) := by
  refine ⟨final_floor, ?_⟩
  intro plan surface config session current stage created reached playing
  obtain ⟨_, inputs, same⟩ := Session.reached_steered plan surface config session current stage created reached playing
  rw [same]
  exact final_floor config.tuning config.initialTarget inputs (create_valid plan surface config session created)

def spoiledZoom : List Stage.Action :=
  [.operate .acquire, .operate .acquire, .share, .command 0 (.setCameraZoom (0 / 0)), .operate (.wheel 5)]

theorem zoom_stays_above_floor_spoiled :
    (let zoom := (History.final Controller.handle (.create .standard ⟨0, 0, 0 / 0⟩) [.wheel ⟨0, 0, 0 / 0⟩ 5]).target.zoom
     Tuning.standard.validate = .ok () ∧ zoom.isNaN = false ∧ Tuning.standard.minZoom ≤ zoom) ∧
    ∃ current camera, (sampleStage rejectedPlan spoiledZoom).play = .ok current ∧ current.liveCamera = some camera ∧
      camera.zoom.isNaN = true ∧ current.controller.target.zoom = 0.0001 ∧
      current.controller.target.zoom.isNaN = false ∧
      sampleConfig.tuning.minZoom ≤ current.controller.target.zoom := by
  obtain ⟨current, camera, playing, shown, spoiled, floor⟩ :
      ∃ current camera, (sampleStage rejectedPlan spoiledZoom).play = .ok current ∧ current.liveCamera = some camera ∧
        camera.zoom.isNaN = true ∧ current.controller.target.zoom = 0.0001 := ⟨_, _, rfl, rfl, rfl, rfl⟩
  obtain ⟨first, second⟩ := zoom_stays_above_floor
  obtain ⟨alone, aloft, _⟩ := first .standard ⟨0, 0, 0 / 0⟩ [.wheel ⟨0, 0, 0 / 0⟩ 5] rfl
  obtain ⟨number, above, _⟩ := second rejectedPlan sampleSurface sampleConfig
    (Session.fresh rejectedPlan sampleSurface sampleConfig) current _ rfl (sample_reachable _ _) playing
  exact ⟨⟨rfl, alone, aloft⟩, current, camera, playing, shown, spoiled, floor, number, above⟩

end Plotter
