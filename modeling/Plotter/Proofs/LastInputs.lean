import Mathlib.Data.List.Induction
import Plotter.Camera.Controller
import Plotter.Proofs.History

set_option autoImplicit false

namespace Plotter.Controller

structure Drag where
  live : Camera
  deltaX : Float32
  deltaY : Float32
deriving DecidableEq

structure Turn where
  live : Camera
  deltaZ : Float32
deriving DecidableEq

def Drag.rotation (tuning : Tuning) (drag : Drag) : Float32 × Float32 :=
  (drag.live.rotationX - drag.deltaY * tuning.panSensitivity, drag.live.rotationY - drag.deltaX * tuning.panSensitivity)

def Turn.zoom (tuning : Tuning) (turn : Turn) : Float32 :=
  Binary.larger (turn.live.zoom + turn.deltaZ * tuning.zoomSensitivity).abs tuning.minZoom

def Input.press? : Input → Option Bool
  | .down => some true
  | .up => some false
  | .move _ _ _ | .wheel _ _ => none

def pressed (inputs : List Input) : Bool := (inputs.filterMap Input.press?).getLast? = some true

/-- A move is a drag if it comes after a press that has not been lifted and if both of its deltas are finite. -/
def Input.drag? (earlier : List Input) : Input → Option Drag
  | .move live deltaX deltaY =>
    if pressed earlier && deltaX.isFinite && deltaY.isFinite then some ⟨live, deltaX, deltaY⟩ else none
  | .down | .up | .wheel _ _ => none

def Input.turn? : Input → Option Turn
  | .wheel live deltaZ => if deltaZ.isFinite then some ⟨live, deltaZ⟩ else none
  | .down | .up | .move _ _ _ => none

def dragsAfter : List Input → List Input → List Drag
  | _, [] => []
  | earlier, input :: rest => (input.drag? earlier).toList ++ dragsAfter (earlier ++ [input]) rest

def lastDrag? (inputs : List Input) : Option Drag := (dragsAfter [] inputs).getLast?

def lastTurn? (inputs : List Input) : Option Turn := (inputs.filterMap Input.turn?).getLast?

theorem last_of_more {α : Type} (items : List α) (new : Option α) :
    (items ++ new.toList).getLast? = new.or items.getLast? := by
  cases new <;> simp

theorem last_picked {α β : Type} (pick : α → Option β) (items : List α) (item : α) :
    ((items ++ [item]).filterMap pick).getLast? = (pick item).or (items.filterMap pick).getLast? := by
  rw [← last_of_more, List.filterMap_append]
  rfl

theorem drags_after_more (earlier inputs : List Input) (input : Input) :
    dragsAfter earlier (inputs ++ [input]) =
      dragsAfter earlier inputs ++ (input.drag? (earlier ++ inputs)).toList := by
  induction inputs generalizing earlier with
  | nil => simp [dragsAfter]
  | cons first rest ih =>
      rw [List.cons_append, dragsAfter, dragsAfter, ih, List.append_assoc, List.append_assoc, List.singleton_append]

@[simp] theorem pressed_more (inputs : List Input) (input : Input) :
    pressed (inputs ++ [input]) = input.press?.getD (pressed inputs) := by
  rw [pressed, pressed, last_picked]
  cases input.press? <;> simp

@[simp] theorem last_drag_more (inputs : List Input) (input : Input) :
    lastDrag? (inputs ++ [input]) = (input.drag? inputs).or (lastDrag? inputs) := by
  rw [lastDrag?, drags_after_more, last_of_more]
  rfl

@[simp] theorem last_turn_more (inputs : List Input) (input : Input) :
    lastTurn? (inputs ++ [input]) = input.turn?.or (lastTurn? inputs) :=
  last_picked Input.turn? inputs input

def steered (tuning : Tuning) (initial : Camera) (inputs : List Input) : Controller :=
  let rotation := ((lastDrag? inputs).map (Drag.rotation tuning)).getD (initial.rotationX, initial.rotationY)
  let zoom := ((lastTurn? inputs).map (Turn.zoom tuning)).getD (Binary.larger initial.zoom tuning.minZoom)
  ⟨if pressed inputs then .dragging else .idle, tuning, ⟨rotation.1, rotation.2, zoom⟩⟩

@[simp] theorem steered_pointer (tuning : Tuning) (initial : Camera) (inputs : List Input) :
    (steered tuning initial inputs).isPointerDown = pressed inputs := by
  cases down : pressed inputs <;> simp [steered, isPointerDown, down]

theorem handle_steered (tuning : Tuning) (initial : Camera) (inputs : List Input) (input : Input) :
    ((steered tuning initial inputs).handle input).2 = steered tuning initial (inputs ++ [input]) := by
  have pointer := steered_pointer tuning initial inputs
  -- One more input changes what the last drag, turn and press are, each by a rule of its own.
  conv_rhs => rw [steered, pressed_more, last_drag_more, last_turn_more]
  cases input with
  | down => rfl
  | up => rfl
  | move live deltaX deltaY =>
      by_cases effective : (pressed inputs && deltaX.isFinite && deltaY.isFinite) = true
      · simp only [handle, pointerMove, pointer, Input.drag?, if_pos effective]
        rfl
      · simp only [handle, pointerMove, pointer, Input.drag?, if_neg effective]
        rfl
  | wheel live deltaZ =>
      by_cases effective : deltaZ.isFinite = true
      · simp only [handle, wheel, Input.turn?, if_pos effective]
        rfl
      · simp only [handle, wheel, Input.turn?, if_neg effective]
        rfl

theorem final_steered (tuning : Tuning) (initial : Camera) (inputs : List Input) :
    History.final handle (create tuning initial) inputs = steered tuning initial inputs := by
  induction inputs using List.reverseRecOn with
  | nil => rfl
  | append_singleton inputs input ih =>
      simpa [ih] using handle_steered tuning initial inputs input

theorem handle_move (controller : Controller) (live : Camera) (deltaX deltaY : Float32) :
    ((controller.handle (.move live deltaX deltaY)).1 = some true ↔
      controller.isPointerDown = true ∧ deltaX.isFinite = true ∧ deltaY.isFinite = true) ∧
    ((controller.handle (.move live deltaX deltaY)).1 ≠ some true →
      controller.handle (.move live deltaX deltaY) = (some false, controller)) := by
  by_cases effective : (controller.isPointerDown && deltaX.isFinite && deltaY.isFinite) = true
  · simp only [handle, pointerMove, if_pos effective]
    simpa [and_assoc] using effective
  · simp only [handle, pointerMove, if_neg effective]
    simpa [and_assoc] using effective

theorem handle_wheel (controller : Controller) (live : Camera) (deltaZ : Float32) :
    ((controller.handle (.wheel live deltaZ)).1 = some true ↔ deltaZ.isFinite = true) ∧
    ((controller.handle (.wheel live deltaZ)).1 ≠ some true →
      controller.handle (.wheel live deltaZ) = (some false, controller)) := by
  by_cases effective : deltaZ.isFinite = true
  · simp [handle, wheel, effective]
  · simp [handle, wheel, effective]

theorem last_inputs_decide (tuning : Tuning) (initial : Camera) (inputs : List Input) :
    let controller := History.final handle (create tuning initial) inputs
    (controller.mode = .dragging ↔ (inputs.filterMap Input.press?).getLast? = some true) ∧
    ((controller.target.rotationX, controller.target.rotationY) =
      match lastDrag? inputs with
      | some drag =>
        (drag.live.rotationX - drag.deltaY * tuning.panSensitivity,
          drag.live.rotationY - drag.deltaX * tuning.panSensitivity)
      | none => (initial.rotationX, initial.rotationY)) ∧
    (controller.target.zoom =
      match lastTurn? inputs with
      | some turn => Binary.larger (turn.live.zoom + turn.deltaZ * tuning.zoomSensitivity).abs tuning.minZoom
      | none => Binary.larger initial.zoom tuning.minZoom) ∧
    (∀ live deltaX deltaY,
      ((controller.handle (.move live deltaX deltaY)).1 = some true ↔
        pressed inputs = true ∧ deltaX.isFinite = true ∧ deltaY.isFinite = true) ∧
      ((controller.handle (.move live deltaX deltaY)).1 ≠ some true →
        controller.handle (.move live deltaX deltaY) = (some false, controller))) ∧
    (∀ live deltaZ,
      ((controller.handle (.wheel live deltaZ)).1 = some true ↔ deltaZ.isFinite = true) ∧
      ((controller.handle (.wheel live deltaZ)).1 ≠ some true →
        controller.handle (.wheel live deltaZ) = (some false, controller))) := by
  intro controller
  have closed : controller = steered tuning initial inputs := final_steered tuning initial inputs
  have pointer : controller.isPointerDown = pressed inputs := by simp [closed]
  refine ⟨?_, ?_, ?_, ?_, handle_wheel controller⟩
  · have down : controller.mode = .dragging ↔ controller.isPointerDown = true := by simp [isPointerDown]
    rw [down, pointer]
    simp [pressed]
  · rw [closed, steered]
    cases lastDrag? inputs <;> rfl
  · rw [closed, steered]
    cases lastTurn? inputs <;> rfl
  · rw [← pointer]
    exact handle_move controller

example (live : Camera) :
    lastDrag? [.move live 9 9, .down, .move live 1 2, .up, .move live 3 4, .down, .move live 5 (0 / 0)] =
      some ⟨live, 1, 2⟩ := rfl

end Plotter.Controller
