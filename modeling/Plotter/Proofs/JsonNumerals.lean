import Mathlib.Data.Nat.Basic
import Plotter.Json.Numeral

set_option autoImplicit false

namespace Plotter.Json

/-- Text that cannot go on with a number that ends before it. -/
def Stops (rest : List Char) : Prop := ∀ char ∈ rest.head?, char.isDigit = false ∧ char ∉ ['.', 'e', 'E']

theorem stops_nil : Stops [] := by simp [Stops]

theorem stops_cons (char : Char) (rest : List Char) (other : char.isDigit = false ∧ char ∉ ['.', 'e', 'E']) :
    Stops (char :: rest) := by
  simpa [Stops] using other

def Unmarked (marks : List Char) (text : List Char) : Prop := ∀ char ∈ text.head?, char ∉ marks

theorem marked_or_unmarked (marks text : List Char) :
    (∃ mark ∈ marks, ∃ tail, text = mark :: tail) ∨ Unmarked marks text := by
  cases text with
  | nil => exact .inr (by simp [Unmarked])
  | cons char tail =>
      by_cases marked : char ∈ marks
      · exact .inl ⟨char, marked, tail, rfl⟩
      · exact .inr (by simpa [Unmarked] using marked)

theorem unmarked_append (marks text rest : List Char) (unmarked : Unmarked marks text) (stops : Stops rest)
    (within : ∀ mark ∈ marks, mark ∈ ['.', 'e', 'E']) : Unmarked marks (text ++ rest) := by
  cases text with
  | cons char text => exact unmarked
  | nil =>
      intro char first marked
      exact (stops char first).2 (within char marked)

section Append

variable (rest : List Char) (stops : Stops rest)
include stops

theorem starts_with_digit_append (text : List Char) : startsWithDigit (text ++ rest) = startsWithDigit text := by
  cases text with
  | cons char text => rfl
  | nil =>
      cases rest with
      | nil => rfl
      | cons char rest => exact (stops char rfl).1

theorem skip_digits_append (text : List Char) : skipDigits (text ++ rest) = skipDigits text ++ rest := by
  induction text with
  | nil =>
      cases rest with
      | nil => rfl
      | cons char rest => simp [skipDigits, (stops char rfl).1]
  | cons char text ih =>
      unfold skipDigits at ih ⊢
      cases digit : char.isDigit <;> simp [digit, ih]

theorem gather_digits_append (limit number : Nat) (text : List Char) :
    gatherDigits limit number (text ++ rest) =
      ((gatherDigits limit number text).1, (gatherDigits limit number text).2.1,
        (gatherDigits limit number text).2.2 ++ rest) := by
  induction text generalizing number with
  | nil =>
      cases rest with
      | nil => rfl
      | cons char rest => simp [gatherDigits, (stops char rfl).1]
  | cons char text ih =>
      rw [List.cons_append, gatherDigits, gatherDigits]
      split
      · rw [ih]
      · rfl

end Append

theorem finish_real_rest (negative : Bool) (significand : Nat) (exponent : Int) (text left : List Char) (numeral : Numeral)
    (done : finishReal negative significand exponent text = .ok (numeral, left)) :
    left = text ∧ ∀ other, finishReal negative significand exponent other = .ok (numeral, other) := by
  unfold finishReal at done ⊢
  cases scaled : scaledReal significand exponent with
  | none => simp [scaled] at done
  | some number =>
      simp only [scaled, Except.ok.injEq, Prod.mk.injEq] at done
      exact ⟨done.2.symm, fun other => by simp [done.1]⟩

def Local {α : Type} (read : List Char → Except Fault (α × List Char)) : Prop :=
  ∀ text value left rest, Stops rest → read text = .ok (value, left) → read (text ++ rest) = .ok (value, left ++ rest)

theorem read_exponent_unsigned (negative : Bool) (significand : Nat) (exponent : Int) (text : List Char)
    (unmarked : Unmarked ['+', '-'] text) :
    readExponent negative significand exponent text = readExponentDigits negative false significand exponent text := by
  cases text with
  | nil => rfl
  | cons char text =>
      obtain ⟨plus, minus⟩ : char ≠ '+' ∧ char ≠ '-' := by simpa [Unmarked] using unmarked
      simp [readExponent, plus, minus]

theorem exponent_digits_local (negative down : Bool) (significand : Nat) (exponent : Int) :
    Local (readExponentDigits negative down significand exponent) := by
  intro text numeral left rest stops done
  cases text with
  | nil => cases done
  | cons char text =>
      rw [readExponentDigits] at done
      rw [List.cons_append, readExponentDigits]
      split at done
      · rename_i digit
        -- Every question the reader asks about what follows is about a digit, and none follows.
        rw [if_pos digit, gather_digits_append rest stops]
        dsimp only at done ⊢
        rw [starts_with_digit_append rest stops, skip_digits_append rest stops]
        split at done
        · rename_i more
          rw [if_pos more]
          split at done
          · cases done
          · rename_i fits
            cases done
            rw [if_neg fits]
        · rename_i ended
          rw [if_neg ended]
          obtain ⟨same, other⟩ := finish_real_rest _ _ _ _ _ _ done
          rw [same]
          exact other _
      · cases done

theorem exponent_local (negative : Bool) (significand : Nat) (exponent : Int) :
    Local (readExponent negative significand exponent) := by
  intro text numeral left rest stops done
  have digits := fun down => exponent_digits_local negative down significand exponent
  cases text with
  | nil => cases done
  | cons char text =>
      rcases marked_or_unmarked ['+', '-'] (char :: text) with ⟨mark, marked, tail, same⟩ | unmarked
      · cases same
        simp only [List.mem_cons, List.not_mem_nil, or_false] at marked
        rcases marked with rfl | rfl
        · exact digits false text numeral left rest stops done
        · exact digits true text numeral left rest stops done
      · rw [read_exponent_unsigned _ _ _ _ unmarked] at done
        have still : Unmarked ['+', '-'] (char :: text ++ rest) := unmarked
        rw [read_exponent_unsigned _ _ _ _ still]
        exact digits false (char :: text) numeral left rest stops done

theorem read_tail_plain (negative : Bool) (significand : Nat) (exponent : Int) (text : List Char)
    (unmarked : Unmarked ['e', 'E'] text) :
    readTail negative significand exponent text = finishReal negative significand exponent text := by
  cases text with
  | nil => rfl
  | cons char text =>
      obtain ⟨lower, upper⟩ : char ≠ 'e' ∧ char ≠ 'E' := by simpa [Unmarked] using unmarked
      simp [readTail, lower, upper]

theorem tail_local (negative : Bool) (significand : Nat) (exponent : Int) :
    Local (readTail negative significand exponent) := by
  intro text numeral left rest stops done
  rcases marked_or_unmarked ['e', 'E'] text with ⟨mark, marked, tail, same⟩ | unmarked
  · subst text
    simp only [List.mem_cons, List.not_mem_nil, or_false] at marked
    rcases marked with rfl | rfl
    all_goals exact exponent_local negative significand exponent tail numeral left rest stops done
  · rw [read_tail_plain _ _ _ _ unmarked] at done
    rw [read_tail_plain _ _ _ _ (unmarked_append _ text rest unmarked stops (by simp))]
    obtain ⟨same, other⟩ := finish_real_rest _ _ _ _ _ _ done
    rw [same]
    exact other _

theorem fraction_local (negative : Bool) (significand : Nat) (exponent : Int) :
    Local (readFraction negative significand exponent) := by
  intro text numeral left rest stops done
  rw [readFraction] at done ⊢
  rw [gather_digits_append rest stops]
  dsimp only at done ⊢
  rw [starts_with_digit_append rest stops, skip_digits_append rest stops]
  split at done
  · rename_i more
    rw [if_pos more]
    exact tail_local negative _ _ _ numeral left rest stops done
  · rename_i ended
    rw [if_neg ended]
    split at done
    · split at done <;> cases done
    · rename_i counted
      rw [if_neg counted]
      exact tail_local negative _ _ _ numeral left rest stops done

theorem read_whole_plain (negative : Bool) (significand : Nat) (text : List Char)
    (unmarked : Unmarked ['.', 'e', 'E'] text) :
    readWhole negative significand text = .ok (wholeNumeral negative significand, text) := by
  cases text with
  | nil => rfl
  | cons char text =>
      obtain ⟨point, lower, upper⟩ : char ≠ '.' ∧ char ≠ 'e' ∧ char ≠ 'E' := by simpa [Unmarked] using unmarked
      simp [readWhole, point, lower, upper]

theorem whole_local (negative : Bool) (significand : Nat) : Local (readWhole negative significand) := by
  intro text numeral left rest stops done
  rcases marked_or_unmarked ['.', 'e', 'E'] text with ⟨mark, marked, tail, same⟩ | unmarked
  · subst text
    simp only [List.mem_cons, List.not_mem_nil, or_false] at marked
    rcases marked with rfl | rfl | rfl
    · exact fraction_local negative significand 0 tail numeral left rest stops done
    all_goals exact exponent_local negative significand 0 tail numeral left rest stops done
  · rw [read_whole_plain _ _ _ unmarked] at done
    rw [read_whole_plain _ _ _ (unmarked_append _ text rest unmarked stops (by simp))]
    cases done
    rfl

theorem long_tail_plain (negative : Bool) (significand : Nat) (exponent : Int) (text : List Char)
    (unmarked : Unmarked ['.'] text) :
    readLongTail negative significand exponent text = readTail negative significand exponent text := by
  cases text with
  | nil => rfl
  | cons char text =>
      have point : char ≠ '.' := by simpa [Unmarked] using unmarked
      simp [readLongTail, point]

theorem long_tail_local (negative : Bool) (significand : Nat) (exponent : Int) :
    Local (readLongTail negative significand exponent) := by
  intro text numeral left rest stops done
  rcases marked_or_unmarked ['.'] text with ⟨mark, marked, tail, same⟩ | unmarked
  · subst text
    cases List.mem_singleton.mp marked
    exact fraction_local negative significand exponent tail numeral left rest stops done
  · rw [long_tail_plain _ _ _ _ unmarked] at done
    rw [long_tail_plain _ _ _ _ (unmarked_append _ text rest unmarked stops (by simp))]
    exact tail_local negative significand exponent text numeral left rest stops done

theorem long_local (negative : Bool) (significand : Nat) : Local (readLong negative significand) := by
  intro text numeral left rest stops done
  have exponent : ((text ++ rest).length : Int) - (skipDigits text ++ rest).length =
      text.length - (skipDigits text).length := by
    simp only [List.length_append]
    omega
  rw [readLong] at done
  rw [readLong, skip_digits_append rest stops, exponent]
  exact long_tail_local negative significand _ _ numeral left rest stops done

theorem unsigned_local (negative : Bool) : Local (readUnsigned negative) := by
  intro text numeral left rest stops done
  cases text with
  | nil => cases done
  | cons char text =>
      rw [List.cons_append]
      by_cases zero : char = '0'
      · subst char
        rw [readUnsigned] at done ⊢
        rw [starts_with_digit_append rest stops]
        split at done
        · cases done
        · rename_i ended
          rw [if_neg ended]
          exact whole_local negative 0 text numeral left rest stops done
      · simp only [readUnsigned] at done ⊢
        split at done
        · rename_i digit
          rw [if_pos digit, gather_digits_append rest stops]
          dsimp only at done ⊢
          rw [starts_with_digit_append rest stops]
          split at done
          · rename_i more
            rw [if_pos more]
            exact long_local negative _ _ numeral left rest stops done
          · rename_i ended
            rw [if_neg ended]
            exact whole_local negative _ _ numeral left rest stops done
        · cases done

theorem numeral_local : Local readNumeral := by
  intro text numeral left rest stops done
  cases text with
  | nil => cases done
  | cons char text =>
      rw [List.cons_append]
      by_cases minus : char = '-'
      · subst char
        exact unsigned_local true text numeral left rest stops done
      · have plain : ∀ tail, readNumeral (char :: tail) = readUnsigned false (char :: tail) := by
          intro tail
          simp [readNumeral, minus]
        rw [plain] at done ⊢
        exact unsigned_local false (char :: text) numeral left rest stops done

theorem digits_grow (digits : List Char) (number : Nat) : number ≤ Nat.ofDigitChars 10 digits number := by
  induction digits generalizing number with
  | nil => exact Nat.le_refl number
  | cons char digits ih =>
      rw [Nat.ofDigitChars_cons]
      exact Nat.le_trans (by omega) (ih _)

theorem gather_digits_all (limit number : Nat) (digits : List Char) (all : ∀ char ∈ digits, char.isDigit = true)
    (fits : Nat.ofDigitChars 10 digits number ≤ limit) :
    gatherDigits limit number digits = (Nat.ofDigitChars 10 digits number, digits.length, []) := by
  induction digits generalizing number with
  | nil => rfl
  | cons char digits ih =>
      have value : 10 * number + (char.toNat - '0'.toNat) = number * 10 + digitValue char := by
        rw [digitValue, Nat.mul_comm]
        rfl
      rw [Nat.ofDigitChars_cons, value] at fits ⊢
      have small : number * 10 + digitValue char ≤ limit := Nat.le_trans (digits_grow digits _) fits
      have next := ih _ (fun other member => all other (by simp [member])) fits
      simp [gatherDigits, all char (by simp), small, next]

theorem to_digits_zero (number : Nat) (tail : List Char) (leading : Nat.toDigits 10 number = '0' :: tail) :
    tail = [] ∧ number = 0 := by
  -- Strong induction, since the digits of a number are those of its tenth and one more.
  induction number using Nat.strongRecOn generalizing tail with
  | ind number ih =>
      by_cases small : number < 10
      · rw [Nat.toDigits_of_lt_base small] at leading
        obtain ⟨digit, rfl⟩ := List.cons.inj leading
        have zero : ∀ value < 10, Nat.digitChar value = '0' → value = 0 := by decide
        exact ⟨rfl, zero number small digit⟩
      · have split : 10 * (number / 10) + number % 10 = number := by omega
        have parts := Nat.toDigits_append_toDigits (show 1 < 10 by decide) (show 0 < number / 10 by omega)
          (show number % 10 < 10 by omega)
        rw [split, leading] at parts
        cases upper : Nat.toDigits 10 (number / 10) with
        | nil => exact absurd upper Nat.toDigits_ne_nil
        | cons first others =>
            rw [upper] at parts
            obtain ⟨rfl, _⟩ := List.cons.inj parts
            have zero := (ih (number / 10) (by omega) others upper).2
            omega

theorem read_natural (number : Nat) (fits : number < UInt64.size) (rest : List Char) (stops : Stops rest) :
    readNumeral (Nat.toDigits 10 number ++ rest) = .ok (.natural number, rest) := by
  -- The reader looks at the digits alone, so the rest may be taken away first.
  apply numeral_local (Nat.toDigits 10 number) (.natural number) [] rest stops
  have all : ∀ char ∈ Nat.toDigits 10 number, char.isDigit = true := fun char member =>
    Nat.isDigit_of_mem_toDigits (by decide) (by decide) member
  have value : Nat.ofDigitChars 10 (Nat.toDigits 10 number) 0 = number := Nat.ofDigitChars_toDigits (by decide) (by decide)
  cases digits : Nat.toDigits 10 number with
  | nil => exact absurd digits Nat.toDigits_ne_nil
  | cons char tail =>
      rw [digits] at all value
      have digit := all char (by simp)
      by_cases zero : char = '0'
      · subst char
        obtain ⟨rfl, rfl⟩ := to_digits_zero number tail digits
        rfl
      · have minus : char ≠ '-' := by
          rintro rfl
          cases digit
        have total : Nat.ofDigitChars 10 tail (digitValue char) = number := by
          rw [Nat.ofDigitChars_cons] at value
          rw [digitValue]
          simpa using value
        have small : Nat.ofDigitChars 10 tail (digitValue char) ≤ wordLimit := by
          rw [total]
          exact Nat.le_sub_one_of_lt fits
        have gathered := gather_digits_all wordLimit (digitValue char) tail
          (fun other member => all other (by simp [member])) small
        have plain : readNumeral (char :: tail) = readUnsigned false (char :: tail) := by simp [readNumeral, minus]
        rw [plain]
        simp only [readUnsigned, digit, if_true, gathered, total, startsWithDigit, Bool.false_eq_true, if_false]
        exact read_whole_plain false number [] (by simp [Unmarked])

end Plotter.Json
