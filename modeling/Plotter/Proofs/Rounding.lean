import Mathlib.Algebra.Group.Nat.Defs
import Mathlib.Algebra.Ring.Int.Defs
import Plotter.Binary

set_option autoImplicit false

namespace Plotter.Binary

theorem shift_to_even_le (number shift limit : Nat) (bounded : number ≤ limit * 2 ^ shift) :
    shiftToEven number shift ≤ limit := by
  have positive : 0 < 2 ^ shift := Nat.two_pow_pos shift
  have below : number / 2 ^ shift ≤ limit := Nat.div_le_of_le_mul (by rwa [Nat.mul_comm])
  have split := Nat.div_add_mod number (2 ^ shift)
  simp only [shiftToEven, Nat.pow_eq]
  rcases Nat.lt_or_eq_of_le below with less | same
  · split
    · omega
    · split <;> omega
  · rw [same, Nat.mul_comm] at split
    rw [if_pos (by omega)]
    exact below

theorem le_shift_to_even (number shift limit : Nat) (bounded : limit * 2 ^ shift ≤ number) :
    limit ≤ shiftToEven number shift := by
  have above : limit ≤ number / 2 ^ shift := (Nat.le_div_iff_mul_le (Nat.two_pow_pos shift)).mpr bounded
  simp only [shiftToEven, Nat.pow_eq]
  split
  · exact above
  · split <;> omega

@[simp] theorem shift_to_even_multiple (number shift : Nat) : shiftToEven (number * 2 ^ shift) shift = number := by
  have positive : 0 < 2 ^ shift := Nat.two_pow_pos shift
  simp [shiftToEven, positive]

theorem shift_to_even_error (number shift : Nat) : 2 * (shiftToEven number shift * 2 ^ shift) ≤ 2 * number + 2 ^ shift := by
  have split := Nat.div_add_mod' number (2 ^ shift)
  have small := Nat.mod_lt number (Nat.two_pow_pos shift)
  have parity : number / 2 ^ shift % 2 ≤ 1 := by omega
  simp only [shiftToEven, Nat.pow_eq]
  split
  · omega
  · split
    · rw [Nat.add_mul]
      omega
    · have odd : number / 2 ^ shift % 2 * 2 ^ shift ≤ 1 * 2 ^ shift := Nat.mul_le_mul_right _ parity
      rw [Nat.add_mul]
      omega

theorem shift_to_even_scale (number shift more : Nat) :
    shiftToEven (number * 2 ^ more) (shift + more) = shiftToEven number shift := by
  have positive : 0 < 2 ^ more := Nat.two_pow_pos more
  have double : 2 * (number % 2 ^ shift * 2 ^ more) = 2 * (number % 2 ^ shift) * 2 ^ more := by rw [Nat.mul_assoc]
  have less : ∀ left right : Nat, left * 2 ^ more < right * 2 ^ more ↔ left < right :=
    fun _ _ => Nat.mul_lt_mul_right positive
  simp only [shiftToEven, Nat.pow_eq, Nat.pow_add, Nat.mul_div_mul_right _ _ positive, Nat.mul_mod_mul_right, double,
    less]

def lastPlace (low number : Nat) : Nat := max (number.log2 - 23) low

/-- The nearest number that ends at its last place, counted in units of the place `low`. -/
def rounded (low number : Nat) : Nat :=
  shiftToEven number (lastPlace low number) * 2 ^ (lastPlace low number - low)

theorem low_le_last_place (low number : Nat) : low ≤ lastPlace low number := Nat.le_max_right _ _

theorem significand_le (low number : Nat) : shiftToEven number (lastPlace low number) ≤ 2 ^ 24 := by
  apply shift_to_even_le
  have place : number.log2 + 1 ≤ 24 + lastPlace low number := by
    rw [lastPlace]
    omega
  calc number ≤ 2 ^ (number.log2 + 1) := Nat.le_of_lt Nat.lt_log2_self
    _ ≤ 2 ^ (24 + lastPlace low number) := Nat.pow_le_pow_right (by decide) place
    _ = 2 ^ 24 * 2 ^ lastPlace low number := Nat.pow_add 2 24 _

theorem le_significand (low number : Nat) (above : lastPlace low number ≠ low) :
    2 ^ 23 ≤ shiftToEven number (lastPlace low number) := by
  apply le_shift_to_even
  have place : 23 + lastPlace low number = number.log2 := by
    rw [lastPlace] at above ⊢
    omega
  have nonzero : number ≠ 0 := by
    intro zero
    rw [zero, Nat.log2_zero] at place
    omega
  rw [← Nat.pow_add, place]
  exact Nat.log2_self_le nonzero

@[simp] theorem rounded_zero (low : Nat) : rounded low 0 = 0 := by
  simp [rounded, shiftToEven]

theorem unit_eq_halves (power : Nat) (wide : 24 ≤ power) : 2 ^ (power - 23) = 2 * 2 ^ (power - 24) := by
  rw [← Nat.pow_succ']
  congr 1
  omega

theorem rounded_exact (low significand scale : Nat) (fits : significand < 2 ^ 24) (above : low ≤ scale) :
    rounded low (significand * 2 ^ scale) = significand * 2 ^ (scale - low) := by
  have place : lastPlace low (significand * 2 ^ scale) ≤ scale := by
    have small : significand * 2 ^ scale < 2 ^ (24 + scale) := by
      rw [Nat.pow_add]
      exact Nat.mul_lt_mul_of_pos_right fits (Nat.two_pow_pos scale)
    rw [lastPlace]
    by_cases zero : significand * 2 ^ scale = 0
    · simp [zero, above]
    · have := (Nat.log2_lt zero).mpr small
      omega
  have lower := low_le_last_place low (significand * 2 ^ scale)
  rw [rounded]
  generalize lastPlace low (significand * 2 ^ scale) = last at place lower ⊢
  have whole : significand * 2 ^ scale = significand * 2 ^ (scale - last) * 2 ^ last := by
    rw [Nat.mul_assoc, ← Nat.pow_add, Nat.sub_add_cancel place]
  rw [whole, shift_to_even_multiple, Nat.mul_assoc, ← Nat.pow_add]
  congr 2
  omega

theorem rounded_le (low number significand scale : Nat) (fits : significand ≤ 2 ^ 24) (above : low ≤ scale)
    (bounded : number ≤ significand * 2 ^ scale) : rounded low number ≤ significand * 2 ^ (scale - low) := by
  have lower := low_le_last_place low number
  rw [rounded]
  by_cases place : lastPlace low number ≤ scale
  · generalize lastPlace low number = last at place lower ⊢
    have whole : significand * 2 ^ scale = significand * 2 ^ (scale - last) * 2 ^ last := by
      rw [Nat.mul_assoc, ← Nat.pow_add, Nat.sub_add_cancel place]
    have below := shift_to_even_le number last _ (whole ▸ bounded)
    calc shiftToEven number last * 2 ^ (last - low)
        ≤ significand * 2 ^ (scale - last) * 2 ^ (last - low) := Nat.mul_le_mul_right _ below
      _ = significand * 2 ^ (scale - low) := by
          rw [Nat.mul_assoc, ← Nat.pow_add]
          congr 2
          omega
  · -- The bound leaves no room above `2 ^ 24`, so the number is a power of two just there.
    have leading : lastPlace low number = number.log2 - 23 := by
      rw [lastPlace] at place ⊢
      omega
    have nonzero : number ≠ 0 := by
      intro zero
      rw [leading, zero, Nat.log2_zero] at place
      omega
    have large : 2 ^ (lastPlace low number + 23) ≤ number := by
      rw [leading, Nat.sub_add_cancel (by omega)]
      exact Nat.log2_self_le nonzero
    generalize lastPlace low number = last at place lower large ⊢
    have capped : number ≤ 2 ^ 23 * 2 ^ last := by
      calc number ≤ 2 ^ 24 * 2 ^ scale := Nat.le_trans bounded (Nat.mul_le_mul_right _ fits)
        _ = 2 ^ (24 + scale) := (Nat.pow_add 2 24 scale).symm
        _ ≤ 2 ^ (23 + last) := Nat.pow_le_pow_right (by decide) (by omega)
        _ = 2 ^ 23 * 2 ^ last := Nat.pow_add 2 23 last
    have scaled : 2 ^ 23 * 2 ^ (last - low) * 2 ^ low ≤ significand * 2 ^ (scale - low) * 2 ^ low := by
      calc 2 ^ 23 * 2 ^ (last - low) * 2 ^ low = 2 ^ (last + 23) := by
            rw [Nat.mul_assoc, ← Nat.pow_add, ← Nat.pow_add]
            congr 1
            omega
        _ ≤ significand * 2 ^ scale := Nat.le_trans large bounded
        _ = significand * 2 ^ (scale - low) * 2 ^ low := by
            rw [Nat.mul_assoc, ← Nat.pow_add, Nat.sub_add_cancel above]
    calc shiftToEven number last * 2 ^ (last - low)
        ≤ 2 ^ 23 * 2 ^ (last - low) := Nat.mul_le_mul_right _ (shift_to_even_le number last _ capped)
      _ ≤ significand * 2 ^ (scale - low) := Nat.le_of_mul_le_mul_right scaled (Nat.two_pow_pos low)

/-- Half a unit of the last place above a power of two is a tie, and the power is the even neighbour. -/
theorem rounded_le_power (power number : Nat) (wide : 24 ≤ power) (bounded : number ≤ 2 ^ power + 2 ^ (power - 24)) :
    rounded 0 number ≤ 2 ^ power := by
  by_cases below : number ≤ 2 ^ power
  · simpa using rounded_le 0 number 1 power (by decide) (Nat.zero_le _) (by simpa using below)
  · -- Past the power by half a place at most, which goes down to the even significand `2 ^ 23`.
    have unit := unit_eq_halves power wide
    have whole : 2 ^ power = 2 ^ 23 * 2 ^ (power - 23) := by
      rw [← Nat.pow_add]
      congr 1
      omega
    have leading : number.log2 = power := by
      apply (Nat.log2_eq_iff (by omega)).mpr
      have := Nat.two_pow_pos (power - 24)
      rw [Nat.pow_succ]
      omega
    have place : lastPlace 0 number = power - 23 := by simp [lastPlace, leading]
    obtain ⟨excess, same⟩ := Nat.exists_eq_add_of_le (Nat.le_of_not_le below)
    have quotient : number / 2 ^ (power - 23) = 2 ^ 23 := by
      apply Nat.div_eq_of_lt_le
      · omega
      · rw [Nat.add_mul]
        omega
    have remainder : number % 2 ^ (power - 23) = excess := by
      have split := Nat.div_add_mod' number (2 ^ (power - 23))
      rw [quotient] at split
      omega
    have even : shiftToEven number (power - 23) = 2 ^ 23 := by
      simp only [shiftToEven, Nat.pow_eq, quotient, remainder]
      rw [if_neg (by omega : ¬ 2 ^ (power - 23) < 2 * excess)]
      simp
    exact Nat.le_of_eq (by rw [rounded, place, even, Nat.sub_zero, ← whole])

theorem rounded_le_add (power number : Nat) (wide : 24 ≤ power) (bounded : number ≤ 2 ^ (power + 1)) :
    rounded 0 number ≤ number + 2 ^ (power - 24) := by
  rcases Nat.lt_or_eq_of_le bounded with less | same
  · have place : lastPlace 0 number ≤ power - 23 := by
      rw [lastPlace]
      by_cases zero : number = 0
      · simp [zero]
      · have := (Nat.log2_lt zero).mpr less
        omega
    have unit := unit_eq_halves power wide
    have error := shift_to_even_error number (lastPlace 0 number)
    have small : 2 ^ lastPlace 0 number ≤ 2 ^ (power - 23) := Nat.pow_le_pow_right (by decide) place
    rw [rounded, Nat.sub_zero]
    omega
  · -- The power itself has a place twice as coarse, but it needs no rounding.
    have fixed := rounded_le 0 number 1 (power + 1) (by decide) (Nat.zero_le _) (by simpa using bounded)
    rw [Nat.one_mul, Nat.sub_zero, ← same] at fixed
    exact Nat.le_trans fixed (Nat.le_add_right _ _)

end Plotter.Binary
