set_option autoImplicit false

namespace Plotter

class FrameSource (σ : Type) where
  next? : σ → Option σ
  left : σ → Nat
  left_next? : ∀ {source rest : σ}, next? source = some rest → left source = left rest + 1
  next?_of_left : ∀ {source : σ}, left source ≠ 0 → (next? source).isSome

structure FrameBudget where
  remaining : UInt64
deriving DecidableEq, Repr

namespace FrameBudget

def next? (budget : FrameBudget) : Option FrameBudget :=
  if budget.remaining = 0 then none else some ⟨budget.remaining - 1⟩

def left (budget : FrameBudget) : Nat := budget.remaining.toNat

theorem left_of_next? {budget rest : FrameBudget} (taken : budget.next? = some rest) :
    budget.left = rest.left + 1 := by
  unfold next? at taken
  split at taken
  · contradiction
  · rename_i positive
    cases taken
    have nonzero : budget.remaining.toNat ≠ 0 := fun zero =>
      positive (UInt64.toNat_inj.mp (by simpa using zero))
    have bound := budget.remaining.toNat_lt
    simp only [left, UInt64.toNat_sub]
    simp
    omega

theorem isSome_next? {budget : FrameBudget} (positive : budget.left ≠ 0) :
    budget.next?.isSome := by
  unfold next?
  split
  · rename_i zero
    exact absurd (by simp [left, zero]) positive
  · rfl

instance : FrameSource FrameBudget where
  next? := next?
  left := left
  left_next? := left_of_next?
  next?_of_left := isSome_next?

end FrameBudget

structure Pace where
  interval : Nat
deriving DecidableEq, Repr

def Pace.ofRate (framesPerSecond : UInt32) : Pace := ⟨1000000000 / max framesPerSecond.toNat 1⟩

def Pace.next? (pace : Pace) : Option Pace := some pace

structure PacedBudget where
  pace : Pace
  budget : FrameBudget
deriving DecidableEq, Repr

def Pace.limit (pace : Pace) (frames : UInt64) : PacedBudget := ⟨pace, ⟨frames⟩⟩

namespace PacedBudget

def next? (paced : PacedBudget) : Option PacedBudget :=
  paced.budget.next?.map fun budget => { paced with budget := budget }

instance : FrameSource PacedBudget where
  next? := next?
  left paced := paced.budget.left
  left_next? := by
    intro paced rest taken
    obtain ⟨budget, step, same⟩ := Option.map_eq_some_iff.mp taken
    subst same
    exact FrameBudget.left_of_next? step
  next?_of_left := by
    intro paced positive
    simpa [next?] using FrameBudget.isSome_next? positive

end PacedBudget

def pulls {σ : Type} (next? : σ → Option σ) : Nat → σ → List Bool
  | 0, _ => []
  | count + 1, source =>
    match next? source with
    | some rest => true :: pulls next? count rest
    | none => false :: pulls next? count source

end Plotter
