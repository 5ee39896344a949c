import Mathlib.Algebra.Group.Nat.Defs
import Mathlib.Algebra.Ring.Int.Defs
import Mathlib.Data.List.Infix
import Plotter.Engine.Expression

/-!
The check of an expression against the grammar of parentheses `S ::= empty | ( S ) S`: one counter that runs from left
to right finds exactly the words of the grammar, tells a parenthesis that closes nothing from one that nothing closes,
and is exact in 32 bits.
-/

set_option autoImplicit false

namespace Plotter.Expression

inductive Nested : List Char → Prop where
  | empty : Nested []
  | pair (inner rest : List Char) (inside : Nested inner) (after : Nested rest) :
      Nested ('(' :: inner ++ ')' :: rest)

def parentheses (text : List Char) : List Char := text.filter fun char => char = '(' || char = ')'

def excess (text : List Char) : Int := text.count '(' - text.count ')'

def weight (char : Char) : Int := if char = '(' then 1 else if char = ')' then -1 else 0

/-- With `depth` parentheses open before it, no beginning of the text closes more than there are. -/
def Covered (depth : Int) (text : List Char) : Prop := ∀ earlier, earlier <+: text → 0 ≤ depth + excess earlier

@[simp] theorem weight_open : weight '(' = 1 := rfl

@[simp] theorem weight_close : weight ')' = -1 := rfl

theorem weight_le_one (char : Char) : weight char ≤ 1 := by
  rw [weight]
  split
  · exact Int.le_refl 1
  · split <;> decide

@[simp] theorem excess_nil : excess [] = 0 := rfl

@[simp] theorem excess_cons (char : Char) (rest : List Char) : excess (char :: rest) = weight char + excess rest := by
  unfold excess weight
  by_cases opens : char = '('
  · subst opens
    simp
    omega
  · by_cases closes : char = ')'
    · subst closes
      simp
      omega
    · simp [opens, closes]

@[simp] theorem excess_append (first second : List Char) : excess (first ++ second) = excess first + excess second := by
  simp only [excess, List.count_append]
  omega

theorem excess_le_length (text : List Char) : excess text ≤ text.length := by
  have opens : text.count '(' ≤ text.length := List.count_le_length
  rw [excess]
  omega

theorem covered_nonneg (depth : Int) (text : List Char) (covered : Covered depth text) : 0 ≤ depth := by
  simpa using covered [] List.nil_prefix

@[simp] theorem covered_nil (depth : Int) : Covered depth [] ↔ 0 ≤ depth := by
  simp [Covered]

@[simp] theorem covered_cons (depth : Int) (char : Char) (rest : List Char) :
    Covered depth (char :: rest) ↔ 0 ≤ depth ∧ Covered (depth + weight char) rest := by
  constructor
  · intro covered
    refine ⟨covered_nonneg depth _ covered, ?_⟩
    intro earlier before
    simpa [Int.add_assoc] using covered (char :: earlier) (by simpa using before)
  · rintro ⟨nonneg, covered⟩ earlier before
    rcases List.prefix_cons_iff.mp before with rfl | ⟨tail, rfl, inside⟩
    · simpa using nonneg
    · simpa [Int.add_assoc] using covered tail inside

theorem covered_append (depth : Int) (first second : List Char) :
    Covered depth (first ++ second) ↔ Covered depth first ∧ Covered (depth + excess first) second := by
  induction first generalizing depth with
  | nil => simpa using covered_nonneg depth second
  | cons char rest ih => simp [ih, and_assoc, Int.add_assoc]

theorem nested_covered (word : List Char) (nested : Nested word) :
    excess word = 0 ∧ ∀ depth, 0 ≤ depth → Covered depth word := by
  induction nested with
  | empty => simp
  | pair inner rest inside after insideHolds afterHolds =>
      obtain ⟨level, held⟩ := insideHolds
      obtain ⟨levelAfter, heldAfter⟩ := afterHolds
      refine ⟨?_, ?_⟩
      · simp [level, levelAfter]
      · intro depth nonneg
        have deeper : 0 ≤ depth + 1 := by omega
        simp [covered_append, level, nonneg, deeper, held (depth + 1) deeper, heldAfter depth nonneg]

inductive Closing : Nat → List Char → Prop where
  | none (word : List Char) (nested : Nested word) : Closing 0 word
  | one (depth : Nat) (inner rest : List Char) (inside : Nested inner) (after : Closing depth rest) :
      Closing (depth + 1) (inner ++ ')' :: rest)

theorem closing_opened (depth : Nat) (word : List Char) (closing : Closing (depth + 1) word) :
    Closing depth ('(' :: word) := by
  cases closing with
  | one _ inner rest inside after =>
      cases after with
      | none _ nested => exact .none _ (.pair inner rest inside nested)
      | one depth next last nextInside lastAfter =>
          have joined : '(' :: (inner ++ ')' :: (next ++ ')' :: last)) = ('(' :: inner ++ ')' :: next) ++ ')' :: last := by
            simp
          rw [joined]
          exact .one depth _ last (.pair inner next inside nextInside) lastAfter

theorem closing_of_covered (text : List Char) (depth : Nat) (covered : Covered depth text)
    (level : depth + excess text = 0) : Closing depth (parentheses text) := by
  -- On the text, with the depth free: an opening parenthesis raises it for the rest.
  induction text generalizing depth with
  | nil =>
      obtain rfl : depth = 0 := by simpa using level
      exact .none [] .empty
  | cons char rest ih =>
      obtain ⟨_, held⟩ := (covered_cons depth char rest).mp covered
      rw [excess_cons] at level
      by_cases opens : char = '('
      · subst opens
        simp only [weight_open] at held level
        exact closing_opened depth _ (ih (depth + 1) held (by omega))
      · by_cases closes : char = ')'
        · subst closes
          simp only [weight_close] at held level
          have positive := covered_nonneg _ rest held
          obtain ⟨outer, rfl⟩ : ∃ outer, depth = outer + 1 := ⟨depth - 1, by omega⟩
          have back : ((outer + 1 : Nat) : Int) + -1 = outer := by omega
          rw [back] at held
          exact .one outer [] _ .empty (ih outer held (by omega))
        · have light : weight char = 0 := by simp [weight, opens, closes]
          have kept : parentheses (char :: rest) = parentheses rest := by simp [parentheses, opens, closes]
          rw [light, Int.add_zero] at held
          rw [kept]
          exact ih depth held (by omega)

@[simp] theorem excess_parentheses (text : List Char) : excess (parentheses text) = excess text := by
  simp [excess, parentheses, List.count_filter]

@[simp] theorem covered_parentheses (depth : Int) (text : List Char) :
    Covered depth (parentheses text) ↔ Covered depth text := by
  induction text generalizing depth with
  | nil => rfl
  | cons char rest ih =>
      by_cases kept : char = '(' ∨ char = ')'
      · have same : parentheses (char :: rest) = char :: parentheses rest := by simp [parentheses, kept]
        simp [same, ih]
      · have light : weight char = 0 := by simp_all [weight]
        have same : parentheses (char :: rest) = parentheses rest := by simp_all [parentheses]
        simpa [same, light, ih] using covered_nonneg depth rest

theorem nested_iff (text : List Char) : Nested (parentheses text) ↔ Covered 0 text ∧ excess text = 0 := by
  constructor
  · intro nested
    obtain ⟨level, held⟩ := nested_covered _ nested
    exact ⟨by simpa using held 0 (Int.le_refl 0), by simpa using level⟩
  · rintro ⟨covered, level⟩
    cases closing_of_covered text 0 covered (by omega) with
    | none _ nested => exact nested

theorem succ_exact (depth : Int32) (nonneg : 0 ≤ depth.toInt) (room : depth.toInt + 1 < 2 ^ 31) :
    (depth + 1).toInt = depth.toInt + 1 := by
  rw [Int32.toInt_add]
  exact Int.bmod_eq_of_le (by simp; omega) (by simp; omega)

theorem pred_exact (depth : Int32) (nonneg : 0 ≤ depth.toInt) : (depth - 1).toInt = depth.toInt - 1 := by
  have bound := depth.toInt_lt
  rw [Int32.toInt_sub]
  exact Int.bmod_eq_of_le (by simp; omega) (by simp; omega)

inductive Followed (depth : Int32) (char : Char) : Except Flaw Int32 → Prop where
  | counted (next : Int32) (nonneg : 0 ≤ next.toInt) (value : next.toInt = depth.toInt + weight char) :
      Followed depth char (.ok next)
  | refused (below : depth.toInt + weight char < 0) : Followed depth char (.error .unexpectedClose)

theorem follow_cases (depth : Int32) (char : Char) (nonneg : 0 ≤ depth.toInt) (room : depth.toInt + 1 < 2 ^ 31) :
    Followed depth char (follow depth char) := by
  rw [follow]
  by_cases opens : char = '('
  · have value := succ_exact depth nonneg room
    rw [if_pos opens]
    exact .counted _ (by omega) (by simp [opens, value])
  · rw [if_neg opens]
    by_cases closes : char = ')'
    · have value := pred_exact depth nonneg
      rw [if_pos closes]
      by_cases below : depth - 1 < 0
      · rw [if_pos below]
        rw [Int32.lt_iff_toInt_lt, value] at below
        exact .refused (by simpa [closes, ← Int.sub_eq_add_neg] using below)
      · rw [if_neg below]
        rw [Int32.lt_iff_toInt_lt] at below
        exact .counted _ (Int.not_lt.mp below) (by simp [closes, value, Int.sub_eq_add_neg])
    · rw [if_neg closes]
      exact .counted depth nonneg (by simp [weight, opens, closes])

inductive Counted (start : Int) (text : List Char) : Except Flaw Int32 → Prop where
  | counted (depth : Int32) (covered : Covered start text) (value : depth.toInt = start + excess text) :
      Counted start text (.ok depth)
  | refused (uncovered : ¬ Covered start text) : Counted start text (.error .unexpectedClose)

theorem follow_each_cases (depth : Int32) (text : List Char) (nonneg : 0 ≤ depth.toInt)
    (room : depth.toInt + text.length < 2 ^ 31) : Counted depth.toInt text (text.foldlM follow depth) := by
  induction text generalizing depth with
  | nil => exact .counted depth (by simpa using nonneg) (by simp)
  | cons char rest ih =>
      rw [List.length_cons] at room
      have step := follow_cases depth char nonneg (by omega)
      rw [List.foldlM_cons]
      generalize follow depth char = followed at step ⊢
      cases step with
      | refused below =>
          -- The text up to here is the start that closes more than it opened.
          refine .refused ?_
          intro covered
          have higher := covered_nonneg _ rest ((covered_cons _ char rest).mp covered).2
          omega
      | counted next nonnegNext value =>
          -- Each character costs one of the room, so the counter cannot wrap in the rest either.
          have light := weight_le_one char
          have tail := ih next nonnegNext (by omega)
          change Counted depth.toInt (char :: rest) (rest.foldlM follow next)
          generalize rest.foldlM follow next = result at tail ⊢
          rw [value] at tail
          cases tail with
          | counted last covered valueLast =>
              refine .counted last ((covered_cons _ char rest).mpr ⟨nonneg, covered⟩) ?_
              rw [valueLast, excess_cons, Int.add_assoc]
          | refused uncovered => exact .refused fun covered => uncovered ((covered_cons _ char rest).mp covered).2

theorem depth_after_cases (text : List Char) (short : text.length < 2 ^ 31) : Counted 0 text (depthAfter text) :=
  follow_each_cases 0 text (Int.le_refl 0) (by simp; omega)

theorem depth_exact (text : List Char) (depth : Int32) (short : text.length < 2 ^ 31)
    (reached : depthAfter text = .ok depth) : depth.toInt = excess text ∧ 0 ≤ depth.toInt := by
  have counted := depth_after_cases text short
  rw [reached] at counted
  cases counted with
  | counted _ covered value =>
      have nonneg := covered text List.prefix_rfl
      omega

def Visible (text : List Char) : Prop := ∃ char ∈ text, Text.isBlank char = false

inductive Checked (text : List Char) : Option Flaw → Prop where
  | blank (blank : ¬ Visible text) : Checked text (some .empty)
  | uncovered (visible : Visible text) (uncovered : ¬ Covered 0 text) : Checked text (some .unexpectedClose)
  | unclosed (visible : Visible text) (covered : Covered 0 text) (above : 0 < excess text) :
      Checked text (some .unclosed)
  | sound (visible : Visible text) (covered : Covered 0 text) (level : excess text = 0) : Checked text none

theorem flaw_cases (expression : String) (short : expression.length < 2 ^ 31) :
    Checked expression.toList (flaw expression) := by
  rw [← String.length_toList] at short
  rw [flaw]
  by_cases blank : expression.toList.all Text.isBlank = true
  · rw [if_pos blank]
    exact .blank (by simpa [Visible] using blank)
  · rw [if_neg blank]
    have visible : Visible expression.toList := by simpa [Visible] using blank
    have counted := depth_after_cases expression.toList short
    generalize depthAfter expression.toList = result at counted ⊢
    cases counted with
    | refused uncovered => exact .uncovered visible uncovered
    | counted depth covered value =>
        have nonneg := covered expression.toList List.prefix_rfl
        have zero : depth = 0 ↔ depth.toInt = 0 := Int32.toInt_inj.symm
        dsimp only
        by_cases level : depth = 0
        · rw [if_pos level]
          rw [zero] at level
          exact .sound visible covered (by omega)
        · rw [if_neg level]
          rw [zero] at level
          exact .unclosed visible covered (by omega)

theorem checked_iff (text : List Char) (result : Option Flaw) (checked : Checked text result) :
    (result = none ↔ Visible text ∧ Nested (parentheses text)) ∧
    (result = some .empty ↔ ¬ Visible text) ∧
    (result = some .unexpectedClose ↔ Visible text ∧ ¬ Covered 0 text) ∧
    (result = some .unclosed ↔ Visible text ∧ Covered 0 text ∧ ¬ Nested (parentheses text)) := by
  rw [nested_iff]
  cases checked with
  | blank blank => simp [blank]
  | uncovered visible uncovered => simp [visible, uncovered]
  | unclosed visible covered above => simp [visible, covered, Int.ne_of_gt above]
  | sound visible covered level => simp [visible, covered, level]

theorem unclosed_above (text : List Char) (checked : Checked text (some .unclosed)) :
    text.count ')' < text.count '(' := by
  cases checked with
  | unclosed visible covered above =>
      rw [excess] at above
      omega

theorem uncovered_iff (text : List Char) :
    ¬ Covered 0 text ↔ ∃ earlier, earlier <+: text ∧ earlier.count '(' < earlier.count ')' := by
  constructor
  · intro uncovered
    by_contra never
    apply uncovered
    intro earlier before
    have kept : ¬ earlier.count '(' < earlier.count ')' := fun fewer => never ⟨earlier, before, fewer⟩
    rw [excess]
    omega
  · rintro ⟨earlier, before, fewer⟩ covered
    have kept := covered earlier before
    rw [excess] at kept
    omega

theorem message_iff (result : Option Flaw) (flaw : Flaw) :
    result.map Flaw.message = some flaw.message ↔ result = some flaw := by
  cases result with
  | none => simp
  | some other => cases other <;> cases flaw <;> simp [Flaw.message]

theorem check_accepts_grammar (expression : String) (short : expression.length < 2 ^ 31) :
    let text := expression.toList
    let reason := (flaw expression).map Flaw.message
    (reason = none ↔ (∃ char ∈ text, Text.isBlank char = false) ∧ Nested (parentheses text)) ∧
    (reason = some "empty expression" ↔ ∀ char ∈ text, Text.isBlank char = true) ∧
    (reason = some "unexpected `)`" ↔ (∃ char ∈ text, Text.isBlank char = false) ∧
      ∃ earlier, earlier <+: text ∧ earlier.count '(' < earlier.count ')') ∧
    (reason = some "unclosed `(`" ↔ (∃ char ∈ text, Text.isBlank char = false) ∧
      (¬ ∃ earlier, earlier <+: text ∧ earlier.count '(' < earlier.count ')') ∧ ¬ Nested (parentheses text)) ∧
    (reason = some "unclosed `(`" → text.count ')' < text.count '(') ∧
    (∀ earlier later depth, text = earlier ++ later → depthAfter earlier = .ok depth →
      depth.toInt = earlier.count '(' - earlier.count ')' ∧ 0 ≤ depth.toInt ∧
      (later ≠ [] → (depth + 1).toInt = depth.toInt + 1 ∧ (depth - 1).toInt = depth.toInt - 1)) := by
  intro text reason
  have checked : Checked text (flaw expression) := flaw_cases expression short
  have told := message_iff (flaw expression)
  obtain ⟨sound, empty, uncovered, unclosed⟩ := checked_iff text _ checked
  refine ⟨Option.map_eq_none_iff.trans sound, ?_, ?_, ?_, ?_, ?_⟩
  · have blank : ¬ Visible text ↔ ∀ char ∈ text, Text.isBlank char = true := by simp [Visible]
    exact ((told .empty).trans empty).trans blank
  · rw [← uncovered_iff]
    exact (told .unexpectedClose).trans uncovered
  · rw [← uncovered_iff, not_not]
    exact (told .unclosed).trans unclosed
  · intro reported
    rw [(told .unclosed).mp reported] at checked
    exact unclosed_above text checked
  · intro earlier later depth whole reached
    have size : text.length = earlier.length + later.length := by rw [whole, List.length_append]
    have bound : text.length < 2 ^ 31 := by rwa [← String.length_toList] at short
    obtain ⟨value, nonneg⟩ := depth_exact earlier depth (by omega) reached
    refine ⟨value, nonneg, ?_⟩
    intro more
    -- One more character to come leaves room for one more step of the counter.
    have one : 0 < later.length := List.length_pos_iff.mpr more
    have room := excess_le_length earlier
    exact ⟨succ_exact depth nonneg (by omega), pred_exact depth nonneg⟩

theorem check_accepts_grammar_crossed :
    "a)(".length < 2 ^ 31 ∧ (flaw "a)(").map Flaw.message = some "unexpected `)`" ∧
      ¬ Nested (parentheses "a)(".toList) ∧
      ∃ earlier, earlier <+: "a)(".toList ∧ earlier.count '(' < earlier.count ')' := by
  have short : "a)(".length < 2 ^ 31 := by decide
  have reason : (flaw "a)(").map Flaw.message = some "unexpected `)`" := rfl
  have visible : ∃ char ∈ "a)(".toList, Text.isBlank char = false := ⟨'a', by decide, rfl⟩
  obtain ⟨accepted, _, unexpected, _⟩ := check_accepts_grammar "a)(" short
  rw [reason] at accepted
  have unnested : ¬ Nested (parentheses "a)(".toList) := by
    intro nested
    cases accepted.mpr ⟨visible, nested⟩
  exact ⟨short, reason, unnested, (unexpected.mp reason).2⟩

end Plotter.Expression
