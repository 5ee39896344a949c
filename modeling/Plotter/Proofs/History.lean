set_option autoImplicit false

namespace Plotter.History

variable {σ α β : Type}

def run (perform : σ → α → β × σ) : σ → List α → List β × σ
  | state, [] => ([], state)
  | state, action :: rest =>
    let (answer, next) := perform state action
    let (answers, last) := run perform next rest
    (answer :: answers, last)

def final (perform : σ → α → β × σ) (state : σ) (actions : List α) : σ := (run perform state actions).2

@[simp] theorem run_nil (perform : σ → α → β × σ) (state : σ) : run perform state [] = ([], state) := rfl

@[simp] theorem run_cons (perform : σ → α → β × σ) (state : σ) (action : α) (rest : List α) :
    run perform state (action :: rest) =
      ((perform state action).1 :: (run perform (perform state action).2 rest).1,
        (run perform (perform state action).2 rest).2) := rfl

@[simp] theorem final_nil (perform : σ → α → β × σ) (state : σ) : final perform state [] = state := rfl

@[simp] theorem final_cons (perform : σ → α → β × σ) (state : σ) (action : α) (rest : List α) :
    final perform state (action :: rest) = final perform (perform state action).2 rest := rfl

@[simp] theorem final_append (perform : σ → α → β × σ) (state : σ) (earlier later : List α) :
    final perform state (earlier ++ later) = final perform (final perform state earlier) later := by
  induction earlier generalizing state with
  | nil => rfl
  | cons action rest ih => simpa using ih (perform state action).2

def Along (perform : σ → α → β × σ) (allowed : σ → α → Prop) : σ → List α → Prop
  | _, [] => True
  | state, action :: rest => allowed state action ∧ Along perform allowed (perform state action).2 rest

instance decidableAlong (perform : σ → α → β × σ) (allowed : σ → α → Prop)
    [∀ state action, Decidable (allowed state action)] : ∀ state actions, Decidable (Along perform allowed state actions)
  | _, [] => .isTrue trivial
  | state, action :: rest =>
    have := decidableAlong perform allowed (perform state action).2 rest
    inferInstanceAs (Decidable (_ ∧ _))

theorem along_keeps (perform : σ → α → β × σ) (kept : σ → Prop) (allowed : σ → α → Prop)
    (step : ∀ state action, allowed state action → kept state → kept (perform state action).2)
    (state : σ) (initial : kept state) (actions : List α) (along : Along perform allowed state actions) :
    kept (final perform state actions) := by
  induction actions generalizing state with
  | nil => exact initial
  | cons action rest ih => exact ih _ (step state action along.1 initial) along.2

theorem along_of_forall (perform : σ → α → β × σ) (allowed : α → Prop) (state : σ) (actions : List α)
    (restrained : ∀ action ∈ actions, allowed action) : Along perform (fun _ => allowed) state actions := by
  induction actions generalizing state with
  | nil => trivial
  | cons action rest ih =>
      exact ⟨restrained action (by simp), ih _ fun later member => restrained later (by simp [member])⟩

theorem final_keeps (perform : σ → α → β × σ) (kept : σ → Prop) (allowed : α → Prop)
    (step : ∀ state action, allowed action → kept state → kept (perform state action).2)
    (state : σ) (initial : kept state) (actions : List α) (restrained : ∀ action ∈ actions, allowed action) :
    kept (final perform state actions) :=
  along_keeps perform kept (fun _ => allowed) step state initial actions
    (along_of_forall perform allowed state actions restrained)

/-- Two machines whose steps stay related, and answer alike in the eyes of the second, do so in every history. -/
theorem run_refines {τ γ : Type} (perform : σ → α → β × σ) (plain : τ → α → γ × τ) (related : σ → τ → Prop)
    (seen : β → γ)
    (step : ∀ state shadow action, related state shadow →
      seen (perform state action).1 = (plain shadow action).1 ∧
        related (perform state action).2 (plain shadow action).2)
    (state : σ) (shadow : τ) (initial : related state shadow) (actions : List α) :
    (run perform state actions).1.map seen = (run plain shadow actions).1 ∧
      related (run perform state actions).2 (run plain shadow actions).2 := by
  induction actions generalizing state shadow with
  | nil => exact ⟨rfl, initial⟩
  | cons action rest ih =>
      obtain ⟨answer, next⟩ := step state shadow action initial
      obtain ⟨answers, last⟩ := ih _ _ next
      simp [answer, answers, last]

end Plotter.History
