import Plotter.Json.Skip
import Plotter.Proofs.JsonTexts

set_option autoImplicit false

namespace Plotter.Json

theorem skip_digits_gathered (limit number : Nat) (text : List Char) :
    skipDigits (gatherDigits limit number text).2.2 = skipDigits text := by
  induction text generalizing number with
  | nil => rfl
  | cons char text ih =>
      rw [gatherDigits]
      split
      · rename_i taken
        have digit := (Bool.and_eq_true _ _).mp taken |>.1
        dsimp only
        rw [ih]
        simp [skipDigits, digit]
      · rfl

theorem skip_digits_ended (text : List Char) (ended : startsWithDigit text = false) : skipDigits text = text := by
  cases text with
  | nil => rfl
  | cons char text =>
      have other : char.isDigit = false := ended
      simp [skipDigits, other]

theorem gather_digits_none (limit number : Nat) (text : List Char) (none : (gatherDigits limit number text).2.1 = 0) :
    (gatherDigits limit number text).2.2 = text := by
  cases text with
  | nil => rfl
  | cons char text =>
      rw [gatherDigits] at none ⊢
      split at none
      · cases none
      · rename_i refused
        rw [if_neg refused]

theorem skip_some_digits (text : List Char) (digit : startsWithDigit text = true) :
    skipSomeDigits text = .ok (skipDigits text) := by
  rw [skipSomeDigits, if_pos digit]

theorem skip_exponent_digits (negative down : Bool) (significand : Nat) (exponent : Int) (text left : List Char)
    (numeral : Numeral) (done : readExponentDigits negative down significand exponent text = .ok (numeral, left)) :
    skipSomeDigits text = .ok left := by
  cases text with
  | nil => cases done
  | cons char text =>
      rw [readExponentDigits] at done
      split at done
      · rename_i digit
        have whole := skip_digits_gathered exponentLimit (digitValue char) text
        have first : skipDigits (char :: text) = skipDigits text := by simp [skipDigits, digit]
        dsimp only at done
        rw [skip_some_digits (char :: text) digit, first, ← whole]
        split at done
        · split at done
          · cases done
          · cases done
            rfl
        · rename_i ended
          rw [skip_digits_ended _ (by simpa using ended), (finish_real_rest _ _ _ _ _ _ done).1]
      · cases done

theorem skip_exponent_read (negative : Bool) (significand : Nat) (exponent : Int) (text left : List Char)
    (numeral : Numeral) (done : readExponent negative significand exponent text = .ok (numeral, left)) :
    skipExponent text = .ok left := by
  rcases marked_or_unmarked ['+', '-'] text with ⟨mark, marked, tail, same⟩ | unmarked
  · subst text
    simp only [List.mem_cons, List.not_mem_nil, or_false] at marked
    rcases marked with rfl | rfl
    · exact skip_exponent_digits negative false significand exponent tail left numeral done
    · exact skip_exponent_digits negative true significand exponent tail left numeral done
  · rw [read_exponent_unsigned _ _ _ _ unmarked] at done
    have digits := skip_exponent_digits negative false significand exponent text left numeral done
    cases text with
    | nil => cases done
    | cons char text =>
        obtain ⟨plus, minus⟩ : char ≠ '+' ∧ char ≠ '-' := by simpa [Unmarked] using unmarked
        simpa [skipExponent, plus, minus] using digits

theorem skip_tail_plain (text : List Char) (unmarked : Unmarked ['e', 'E'] text) : skipTail text = .ok text := by
  cases text with
  | nil => rfl
  | cons char text =>
      obtain ⟨lower, upper⟩ : char ≠ 'e' ∧ char ≠ 'E' := by simpa [Unmarked] using unmarked
      simp [skipTail, lower, upper]

theorem skip_tail_read (negative : Bool) (significand : Nat) (exponent : Int) (text left : List Char) (numeral : Numeral)
    (done : readTail negative significand exponent text = .ok (numeral, left)) : skipTail text = .ok left := by
  rcases marked_or_unmarked ['e', 'E'] text with ⟨mark, marked, tail, same⟩ | unmarked
  · subst text
    simp only [List.mem_cons, List.not_mem_nil, or_false] at marked
    rcases marked with rfl | rfl
    all_goals exact skip_exponent_read negative significand exponent tail left numeral done
  · rw [read_tail_plain _ _ _ _ unmarked] at done
    rw [skip_tail_plain text unmarked, (finish_real_rest _ _ _ _ _ _ done).1]

theorem skip_fraction_read (negative : Bool) (significand : Nat) (exponent : Int) (text left : List Char)
    (numeral : Numeral) (done : readFraction negative significand exponent text = .ok (numeral, left)) :
    (skipSomeDigits text).bind skipTail = .ok left := by
  have whole := skip_digits_gathered wordLimit significand text
  have none := gather_digits_none wordLimit significand text
  have passed (digit : startsWithDigit text = true)
      (tail : skipTail (skipDigits (gatherDigits wordLimit significand text).2.2) = .ok left) :
      (skipSomeDigits text).bind skipTail = .ok left := by
    rw [skip_some_digits text digit, ← whole]
    exact tail
  rw [readFraction] at done
  dsimp only at done
  -- With nothing gathered the fraction may still have digits, all past what a word holds.
  by_cases counted : (gatherDigits wordLimit significand text).2.1 = 0
  · rw [none counted] at done passed
    split at done
    · rename_i digit
      exact passed digit (skip_tail_read _ _ _ _ _ _ done)
    · split at done <;> cases done
  · have digit : startsWithDigit text = true := by
      cases text with
      | nil => exact absurd rfl counted
      | cons char text =>
          rw [gatherDigits] at counted
          split at counted
          · rename_i taken
            exact (Bool.and_eq_true _ _).mp taken |>.1
          · exact absurd rfl counted
    apply passed digit
    split at done
    · exact skip_tail_read _ _ _ _ _ _ done
    · rename_i ended
      rw [skip_digits_ended _ (by simpa using ended)]
      exact skip_tail_read _ _ _ _ _ _ done

theorem skip_whole_plain (text : List Char) (unmarked : Unmarked ['.'] text) : skipWhole text = skipTail text := by
  cases text with
  | nil => rfl
  | cons char text =>
      have point : char ≠ '.' := by simpa [Unmarked] using unmarked
      simp [skipWhole, point]

theorem skip_whole_long (negative : Bool) (significand : Nat) (exponent : Int) (text left : List Char) (numeral : Numeral)
    (done : readLongTail negative significand exponent text = .ok (numeral, left)) : skipWhole text = .ok left := by
  rcases marked_or_unmarked ['.'] text with ⟨mark, marked, tail, same⟩ | unmarked
  · subst text
    cases List.mem_singleton.mp marked
    exact skip_fraction_read negative significand exponent tail left numeral done
  · rw [long_tail_plain _ _ _ _ unmarked] at done
    rw [skip_whole_plain text unmarked]
    exact skip_tail_read negative significand exponent text left numeral done

theorem skip_whole_read (negative : Bool) (significand : Nat) (text left : List Char) (numeral : Numeral)
    (done : readWhole negative significand text = .ok (numeral, left)) : skipWhole text = .ok left := by
  rcases marked_or_unmarked ['.', 'e', 'E'] text with ⟨mark, marked, tail, same⟩ | unmarked
  · subst text
    simp only [List.mem_cons, List.not_mem_nil, or_false] at marked
    rcases marked with rfl | rfl | rfl
    · exact skip_whole_long negative significand 0 _ left numeral done
    all_goals exact skip_exponent_read negative significand 0 tail left numeral done
  · rw [read_whole_plain _ _ _ unmarked] at done
    cases done
    have point : Unmarked ['.'] text := fun char first marked => unmarked char first (by simp_all)
    have mark : Unmarked ['e', 'E'] text := fun char first marked => unmarked char first (by simp_all)
    rw [skip_whole_plain text point, skip_tail_plain text mark]

theorem skip_unsigned_read (negative : Bool) (text left : List Char) (numeral : Numeral)
    (done : readUnsigned negative text = .ok (numeral, left)) : skipUnsigned text = .ok left := by
  cases text with
  | nil => cases done
  | cons char text =>
      by_cases zero : char = '0'
      · subst char
        rw [readUnsigned] at done
        split at done
        · cases done
        · rename_i ended
          rw [skipUnsigned, skipWholeDigits, if_neg ended]
          exact skip_whole_read negative 0 text left numeral done
      · simp only [readUnsigned] at done
        split at done
        · rename_i digit
          have gathered := skip_digits_gathered wordLimit (digitValue char) text
          have ended : skipWholeDigits (char :: text) = .ok (skipDigits text) := by
            simp [skipWholeDigits, skipSomeDigits, zero, startsWithDigit, digit, skipDigits]
          rw [skipUnsigned, ended, ← gathered]
          split at done
          · exact skip_whole_long negative _ _ _ left numeral done
          · rename_i stopped
            rw [skip_digits_ended _ (by simpa using stopped)]
            exact skip_whole_read negative _ _ left numeral done
        · cases done

theorem bind_suffix (first second : List Char → Except Fault (List Char)) (text left : List Char)
    (firstSuffix : ∀ text left, first text = .ok left → left <:+ text)
    (secondSuffix : ∀ text left, second text = .ok left → left <:+ text)
    (done : (first text).bind second = .ok left) : left <:+ text := by
  cases ended : first text with
  | error fault =>
      rw [ended] at done
      cases done
  | ok middle =>
      rw [ended] at done
      exact (secondSuffix middle left done).trans (firstSuffix text middle ended)

theorem skip_some_digits_suffix (text left : List Char) (done : skipSomeDigits text = .ok left) : left <:+ text := by
  rw [skipSomeDigits] at done
  split at done <;> cases done
  exact List.dropWhile_suffix _

theorem skip_exponent_suffix (text left : List Char) (done : skipExponent text = .ok left) : left <:+ text := by
  unfold skipExponent at done
  split at done
  · exact (skip_some_digits_suffix _ _ done).trans (List.suffix_cons _ _)
  · exact (skip_some_digits_suffix _ _ done).trans (List.suffix_cons _ _)
  · exact skip_some_digits_suffix _ _ done

theorem skip_tail_suffix (text left : List Char) (done : skipTail text = .ok left) : left <:+ text := by
  unfold skipTail at done
  split at done
  · exact (skip_exponent_suffix _ _ done).trans (List.suffix_cons _ _)
  · exact (skip_exponent_suffix _ _ done).trans (List.suffix_cons _ _)
  · cases done
    exact List.suffix_refl _

theorem skip_whole_suffix (text left : List Char) (done : skipWhole text = .ok left) : left <:+ text := by
  unfold skipWhole at done
  split at done
  · exact (bind_suffix _ _ _ _ skip_some_digits_suffix skip_tail_suffix done).trans (List.suffix_cons _ _)
  · exact skip_tail_suffix _ _ done

theorem skip_whole_digits_suffix (text whole : List Char) (ended : skipWholeDigits text = .ok whole) :
    whole <:+ text := by
  unfold skipWholeDigits at ended
  split at ended
  · split at ended <;> cases ended
    exact List.suffix_cons _ _
  · exact skip_some_digits_suffix _ _ ended

theorem skip_unsigned_suffix (text left : List Char) (done : skipUnsigned text = .ok left) : left <:+ text :=
  bind_suffix _ _ text left skip_whole_digits_suffix skip_whole_suffix done

theorem numeral_suffix (text left : List Char) (numeral : Numeral) (read : readNumeral text = .ok (numeral, left)) :
    left <:+ text := by
  unfold readNumeral at read
  split at read
  · exact (skip_unsigned_suffix _ _ (skip_unsigned_read _ _ _ _ read)).trans (List.suffix_cons _ _)
  · exact skip_unsigned_suffix _ _ (skip_unsigned_read _ _ _ _ read)

def resume (fuel : Nat) (outer : List Bracket) (text : List Char) : Except Fault (List Char) :=
  settle (skipOpen fuel) (skipClosing true outer text)

theorem skip_open_scalar (fuel : Nat) (outer : List Bracket) (text rest : List Char)
    (head : skipHead (skipGaps text) = .ok (none, rest)) : skipOpen (fuel + 1) outer text = resume fuel outer rest := by
  rw [skipOpen, skipItem, head, resume]

theorem skip_open_bracket (fuel : Nat) (bracket : Bracket) (outer : List Bracket) (text rest : List Char)
    (head : skipHead (skipGaps text) = .ok (some bracket, rest)) :
    skipOpen (fuel + 1) outer text = settle (skipOpen fuel) (skipClosing false (bracket :: outer) rest) := by
  rw [skipOpen, skipItem, head]

theorem skip_open_list (fuel : Nat) (outer : List Bracket) (gap rest : List Char) (blank : Blank gap) :
    skipOpen (fuel + 1) outer (gap ++ '[' :: rest) = settle (skipOpen fuel) (skipClosing false (.list :: outer) rest) := by
  apply skip_open_bracket
  rw [skip_gaps_to gap rest '[' blank rfl]
  rfl

theorem skip_open_object (fuel : Nat) (outer : List Bracket) (gap rest : List Char) (blank : Blank gap) :
    skipOpen (fuel + 1) outer (gap ++ '\x7b' :: rest) = settle (skipOpen fuel) (skipClosing false (.object :: outer) rest) := by
  apply skip_open_bracket
  rw [skip_gaps_to gap rest '\x7b' blank rfl]
  rfl

theorem list_closed (after : Bool) (outer : List Bracket) (gap rest : List Char) (blank : Blank gap) :
    skipClosing after (.list :: outer) (gap ++ ']' :: rest) = skipClosing true outer rest := by
  rw [skipClosing, skip_gaps_to gap rest ']' blank rfl]
  rfl

theorem object_closed (after : Bool) (outer : List Bracket) (gap rest : List Char) (blank : Blank gap) :
    skipClosing after (.object :: outer) (gap ++ '\x7d' :: rest) = skipClosing true outer rest := by
  rw [skipClosing, skip_gaps_to gap rest '\x7d' blank rfl]
  rfl

theorem list_entered (char : Char) (outer : List Bracket) (gap rest : List Char) (blank : Blank gap)
    (opening : Opening char) :
    skipClosing false (.list :: outer) (gap ++ char :: rest) = .ok (.list :: outer, char :: rest) := by
  obtain ⟨solid, notEnd, -⟩ := opening_solid char opening
  simp [skipClosing, blank, solid, notEnd]

theorem object_entered (outer : List Bracket) (gap rest : List Char) (blank : Blank gap) :
    skipClosing false (.object :: outer) (gap ++ '"' :: rest) = .ok (.object :: outer, '"' :: rest) := by
  rw [skipClosing, skip_gaps_to gap rest '"' blank rfl]
  rfl

theorem resume_list (fuel : Nat) (outer : List Bracket) (rest : List Char) :
    resume fuel (.list :: outer) (',' :: rest) = skipOpen fuel (.list :: outer) rest := by
  simp [resume, skipClosing, isGap, settle]

theorem skip_key_written (name : String) (gap rest : List Char) (blank : Blank gap) :
    skipKey (gap ++ '"' :: (name.toList.flatMap escapedChar ++ '"' :: ':' :: rest)) = .ok rest := by
  simp [skipKey, blank, readColon, isGap]

theorem settle_member (fuel : Nat) (outer : List Bracket) (name : String) (gap rest : List Char) (blank : Blank gap) :
    settle (skipOpen fuel) (.ok (.object :: outer, gap ++ '"' :: (name.toList.flatMap escapedChar ++ '"' :: ':' :: rest))) =
      skipOpen fuel (.object :: outer) rest := by
  rw [settle, skip_key_written name gap rest blank]
  rfl

theorem resume_object (fuel : Nat) (outer : List Bracket) (name : String) (gap rest : List Char) (blank : Blank gap) :
    resume fuel (.object :: outer) (',' :: (gap ++ '"' :: (name.toList.flatMap escapedChar ++ '"' :: ':' :: rest))) =
      skipOpen fuel (.object :: outer) rest := by
  rw [← settle_member fuel outer name gap rest blank]
  simp [resume, skipClosing, isGap]

/-- A value is passed over when the skipper stands behind it with fuel to spare. -/
def Passed (layout : Layout) (depth : Nat) (value : Value) : Prop :=
  ∃ cost ≤ (value.render layout depth).length, ∀ fuel outer gap rest, Blank gap → Stops rest →
    skipOpen (fuel + cost) outer (gap ++ (value.render layout depth ++ rest)) = resume fuel outer rest

theorem scalar_passed (layout : Layout) (depth : Nat) (value : Value) (proper : value.Proper)
    (head : ∀ rest, Stops rest → skipHead (value.render layout depth ++ rest) = .ok (none, rest)) :
    Passed layout depth value := by
  obtain ⟨char, more, shape, opening⟩ := render_opening layout depth value proper
  refine ⟨1, by simp [shape], ?_⟩
  intro fuel outer gap rest blank stops
  apply skip_open_scalar
  have solid := (opening_solid char opening).1
  have whole := head rest stops
  rw [shape, List.cons_append] at whole ⊢
  rw [skip_gaps_to gap _ char blank solid, whole]

theorem skip_head_numeral (literal rest : List Char) (numeral : Numeral) (stops : Stops rest)
    (read : readNumeral literal = .ok (numeral, [])) : skipHead (literal ++ rest) = .ok (none, rest) := by
  have whole := numeral_local literal numeral [] rest stops read
  unfold readNumeral at whole
  split at whole
  · rename_i after shape
    rw [shape]
    simp [skipHead, skip_unsigned_read _ _ _ _ whole, Except.map]
  · have skipped := skip_unsigned_read _ _ _ _ whole
    obtain ⟨char, more, shape, digit⟩ := unsigned_opening _ _ _ _ whole
    rw [shape] at skipped ⊢
    -- A digit opens none of the other values, so the skipper falls through to its last branch.
    have solid : char ∉ ['n', 't', 'f', '"', '-', '[', '\x7b'] := by
      intro listed
      simp only [List.mem_cons, List.not_mem_nil, or_false] at listed
      rcases listed with rfl | rfl | rfl | rfl | rfl | rfl | rfl <;> simp at digit
    simp only [List.mem_cons, List.not_mem_nil, or_false, not_or] at solid
    obtain ⟨first, second, third, fourth, fifth, sixth, seventh⟩ := solid
    simp [skipHead, digit, skipped, Except.map]

theorem items_passed (layout : Layout) (blank : layout.Blank) (depth inner : Nat) (items : List Value)
    (passed : ∀ item ∈ items, Passed layout inner item) :
    ∃ cost ≤ (renderItems layout inner items).length, ∀ fuel outer rest,
      resume (fuel + cost) (.list :: outer) (renderItems layout inner items ++ (layout.lineBreak depth ++ ']' :: rest)) =
        resume fuel outer rest := by
  -- The cost is what one item takes after another; it is bounded by the text so that the fuel suffices.
  induction items with
  | nil =>
      refine ⟨0, by simp, ?_⟩
      intro fuel outer rest
      exact congrArg (settle (skipOpen fuel)) (list_closed true outer _ rest (blank.lineBreak depth))
  | cons item items ih =>
      obtain ⟨first, firstCost, firstPassed⟩ := passed item (by simp)
      obtain ⟨later, laterCost, laterPassed⟩ := ih fun other member => passed other (by simp [member])
      refine ⟨later + first, by simp [renderItems]; omega, ?_⟩
      intro fuel outer rest
      have stops := items_stop layout blank depth inner items rest
      rw [render_items_append, ← Nat.add_assoc, resume_list, firstPassed _ _ _ _ (blank.lineBreak inner) stops,
        laterPassed]

theorem members_passed (layout : Layout) (blank : layout.Blank) (depth inner : Nat) (members : List (String × Value))
    (passed : ∀ member ∈ members, Passed layout inner member.2) :
    ∃ cost ≤ (renderMembers layout inner members).length, ∀ fuel outer rest,
      resume (fuel + cost) (.object :: outer)
          (renderMembers layout inner members ++ (layout.lineBreak depth ++ '\x7d' :: rest)) =
        resume fuel outer rest := by
  induction members with
  | nil =>
      refine ⟨0, by simp, ?_⟩
      intro fuel outer rest
      exact congrArg (settle (skipOpen fuel)) (object_closed true outer _ rest (blank.lineBreak depth))
  | cons member members ih =>
      obtain ⟨name, value⟩ := member
      obtain ⟨first, firstCost, firstPassed⟩ : Passed layout inner value := passed (name, value) (by simp)
      obtain ⟨later, laterCost, laterPassed⟩ := ih fun other member => passed other (by simp [member])
      refine ⟨later + first, by simp [renderMembers]; omega, ?_⟩
      intro fuel outer rest
      have stops := members_stop layout blank depth inner members rest
      rw [render_members_append, ← Nat.add_assoc, resume_object _ _ _ _ _ (blank.lineBreak inner),
        firstPassed _ _ _ _ blank.afterColon stops, laterPassed]

theorem list_passed (layout : Layout) (blank : layout.Blank) (depth : Nat) (items : List Value)
    (proper : ∀ item ∈ items, item.Proper) (passed : ∀ item ∈ items, Passed layout (depth + 1) item) :
    Passed layout depth (.list items) := by
  cases items with
  | nil =>
      refine ⟨1, by simp [Value.render], ?_⟩
      intro fuel outer gap rest gapBlank stops
      have closed := list_closed false outer [] rest blank_nil
      exact (skip_open_list fuel outer gap (']' :: rest) gapBlank).trans (congrArg (settle (skipOpen fuel)) closed)
  | cons item items =>
      obtain ⟨first, firstCost, firstPassed⟩ := passed item (by simp)
      obtain ⟨later, laterCost, laterPassed⟩ := items_passed layout blank depth (depth + 1) items
        fun other member => passed other (by simp [member])
      refine ⟨later + first + 1, by simp [Value.render]; omega, ?_⟩
      intro fuel outer gap rest gapBlank stops
      have ends := items_stop layout blank depth (depth + 1) items rest
      obtain ⟨char, more, shape, opening⟩ := render_opening layout (depth + 1) item (proper item (by simp))
      -- The first item is entered without a comma, so the lemma for the later ones does not cover it.
      have whole := firstPassed (fuel + later) (.list :: outer) [] _ blank_nil ends
      rw [render_list, ← Nat.add_assoc, ← Nat.add_assoc, skip_open_list _ _ _ _ gapBlank, ← laterPassed, ← whole, shape]
      exact congrArg (settle _) (list_entered char outer _ _ (blank.lineBreak (depth + 1)) opening)

theorem object_passed (layout : Layout) (blank : layout.Blank) (depth : Nat) (members : List (String × Value))
    (passed : ∀ member ∈ members, Passed layout (depth + 1) member.2) : Passed layout depth (.object members) := by
  cases members with
  | nil =>
      refine ⟨1, by simp [Value.render], ?_⟩
      intro fuel outer gap rest gapBlank stops
      have closed := object_closed false outer [] rest blank_nil
      exact (skip_open_object fuel outer gap ('\x7d' :: rest) gapBlank).trans (congrArg (settle (skipOpen fuel)) closed)
  | cons member members =>
      obtain ⟨name, value⟩ := member
      obtain ⟨first, firstCost, firstPassed⟩ : Passed layout (depth + 1) value := passed (name, value) (by simp)
      obtain ⟨later, laterCost, laterPassed⟩ := members_passed layout blank depth (depth + 1) members
        fun other member => passed other (by simp [member])
      refine ⟨later + first + 1, by simp [Value.render]; omega, ?_⟩
      intro fuel outer gap rest gapBlank stops
      have ends := members_stop layout blank depth (depth + 1) members rest
      rw [render_object, ← Nat.add_assoc, ← Nat.add_assoc, skip_open_object _ _ _ _ gapBlank,
        object_entered _ _ _ (blank.lineBreak (depth + 1)), ← laterPassed,
        ← firstPassed _ _ _ _ blank.afterColon ends]
      exact settle_member _ outer name [] _ blank_nil

theorem value_passed (layout : Layout) (blank : layout.Blank) (value : Value) (proper : value.Proper) :
    ∀ depth, Passed layout depth value := by
  induction proper with
  | null =>
      intro depth
      exact scalar_passed layout depth _ .null fun rest _ => by simp [Value.render, skipHead, readWord, Except.map]
  | boolean value =>
      intro depth
      refine scalar_passed layout depth _ (.boolean value) fun rest _ => ?_
      cases value <;> simp [Value.render, skipHead, readWord, Except.map]
  | number literal numeral read =>
      intro depth
      exact scalar_passed layout depth _ (.number literal numeral read) fun rest stops =>
        skip_head_numeral literal rest numeral stops read
  | string text =>
      intro depth
      refine scalar_passed layout depth _ (.string text) fun rest _ => ?_
      simp [Value.render, skipHead, Except.map]
  | list items proper passed =>
      exact fun depth => list_passed layout blank depth items proper fun item member => passed item member (depth + 1)
  | object members proper passed =>
      exact fun depth => object_passed layout blank depth members fun item member => passed item member (depth + 1)

theorem skip_value_written (layout : Layout) (blank : layout.Blank) (depth : Nat) (value : Value) (proper : value.Proper)
    (gap rest : List Char) (gapBlank : Blank gap) (stops : Stops rest) :
    skipValue (gap ++ (value.render layout depth ++ rest)) = .ok rest := by
  obtain ⟨cost, small, passed⟩ := value_passed layout blank value proper depth
  have fuel : (gap ++ (value.render layout depth ++ rest)).length + 1 =
      (gap.length + ((value.render layout depth).length - cost) + rest.length + 1) + cost := by
    simp only [List.length_append]
    omega
  rw [skipValue, fuel, passed _ _ _ _ gapBlank stops]
  rfl

end Plotter.Json
