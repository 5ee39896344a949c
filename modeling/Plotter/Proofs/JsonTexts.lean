import Plotter.Json.Quotation
import Plotter.Json.Value
import Plotter.Proofs.JsonNumerals

set_option autoImplicit false

namespace Plotter.Json

def Blank (gap : List Char) : Prop := ∀ char ∈ gap, isGap char = true

@[simp] theorem blank_nil : Blank [] := by simp [Blank]

structure Layout.Blank (layout : Layout) : Prop where
  lineBreak : ∀ depth, Json.Blank (layout.lineBreak depth)
  afterColon : Json.Blank layout.afterColon

theorem compact_blank : compact.Blank := ⟨by simp [compact, Blank], by simp [compact, Blank]⟩

theorem pretty_blank : pretty.Blank := by
  refine ⟨?_, by simp [pretty, Blank, isGap]⟩
  intro depth char member
  simp only [pretty, List.mem_cons, List.mem_replicate] at member
  rcases member with rfl | ⟨_, rfl⟩ <;> rfl

@[simp] theorem skip_gaps_append (gap text : List Char) (blank : Blank gap) : skipGaps (gap ++ text) = skipGaps text := by
  induction gap with
  | nil => rfl
  | cons char gap ih =>
      have first : isGap char = true := blank char (by simp)
      have later := ih fun other member => blank other (by simp [member])
      simpa [skipGaps, first] using later

@[simp] theorem skip_gaps_solid (char : Char) (text : List Char) (solid : isGap char = false) :
    skipGaps (char :: text) = char :: text := by
  simp [skipGaps, solid]

theorem skip_gaps_to (gap text : List Char) (char : Char) (blank : Blank gap) (solid : isGap char = false) :
    skipGaps (gap ++ char :: text) = char :: text := by
  simp [blank, solid]

theorem stops_blank (gap rest : List Char) (blank : Blank gap) (stops : Stops rest) : Stops (gap ++ rest) := by
  cases gap with
  | nil => exact stops
  | cons char gap =>
      apply stops_cons
      have first : isGap char = true := blank char (by simp)
      simp only [isGap, Bool.or_eq_true, decide_eq_true_eq] at first
      rcases first with ((rfl | rfl) | rfl) | rfl <;> decide

theorem hex_written (number : Nat) (small : number < 32) (rest : List Char) :
    readHex ('0' :: '0' :: hexDigit (number / 16) :: hexDigit number :: rest) = .ok (number, rest) := by
  have digits : ∀ value < 32, byteLength ['0', '0', hexDigit (value / 16), hexDigit value] = 4 ∧
      hexNumber 0 ['0', '0', hexDigit (value / 16), hexDigit value] = some value := by decide
  obtain ⟨bytes, value⟩ := digits number small
  simp [readHex, bytes, value]

theorem unicode_written (char : Char) (control : char.toNat < 32) (rest : List Char) :
    readUnicode ('0' :: '0' :: hexDigit (char.toNat / 16) :: hexDigit char.toNat :: rest) = .ok (char, rest) := by
  have read := hex_written char.toNat control rest
  have first : isTrailing char.toNat = false := by simp [isTrailing]; omega
  have second : isLeading char.toNat = false := by simp [isLeading]; omega
  rw [readUnicode, read]
  simp [first, second, bind, Except.bind, Char.ofNat_toNat]

inductive Written (char : Char) : List Char → Prop where
  | short (letter : Char) (other : letter ≠ 'u') (meant : shortEscape letter = some char) : Written char ['\\', letter]
  | control (small : char.toNat < 32) :
      Written char ['\\', 'u', '0', '0', hexDigit (char.toNat / 16), hexDigit char.toNat]
  | plain (quote : char ≠ '"') (backslash : char ≠ '\\') (large : ¬ char.toNat < 32) : Written char [char]

theorem escaped_written (char : Char) : Written char (escapedChar char) := by
  rw [escapedChar]
  -- One split for each branch of the escaping, in its order.
  split
  · rename_i marked
    rcases marked with rfl | rfl
    · exact .short '"' (by decide) rfl
    · exact .short '\\' (by decide) rfl
  · rename_i unmarked
    obtain ⟨quote, backslash⟩ := not_or.mp unmarked
    split
    · subst char
      exact .short 'b' (by decide) rfl
    · split
      · subst char
        exact .short 't' (by decide) rfl
      · split
        · subst char
          exact .short 'n' (by decide) rfl
        · split
          · subst char
            exact .short 'f' (by decide) rfl
          · split
            · subst char
              exact .short 'r' (by decide) rfl
            · split
              · rename_i small
                exact .control small
              · rename_i large
                exact .plain quote backslash large

theorem written_nonempty (char : Char) (text : List Char) (written : Written char text) : 1 ≤ text.length := by
  cases written <;> simp

theorem read_chars_written (char : Char) (text rest chars left : List Char) (fuel : Nat) (written : Written char text)
    (later : readChars fuel rest = .ok (chars, left)) :
    readChars (fuel + 1) (text ++ rest) = .ok (char :: chars, left) := by
  cases written with
  | short letter other meant => simp [readChars, readEscape, other, meant, later]
  | control small => simp [readChars, readEscape, unicode_written char small rest, later]
  | plain quote backslash large => simp [readChars, quote, backslash, large, later]

theorem skip_chars_written (char : Char) (text rest : List Char) (fuel : Nat) (written : Written char text) :
    skipChars (fuel + 1) (text ++ rest) = skipChars fuel rest := by
  cases written with
  | short letter other meant => simp [skipChars, meant]
  | control small => simp [skipChars, hex_written char.toNat small rest]
  | plain quote backslash large => simp [skipChars, quote, backslash, large]

theorem read_chars_escaped (chars rest : List Char) (fuel : Nat) (enough : chars.length < fuel) :
    readChars fuel (chars.flatMap escapedChar ++ '"' :: rest) = .ok (chars, rest) := by
  induction chars generalizing fuel with
  | nil =>
      obtain ⟨fuel, rfl⟩ : ∃ less, fuel = less + 1 := ⟨fuel - 1, by simp at enough; omega⟩
      simp [readChars]
  | cons char chars ih =>
      obtain ⟨fuel, rfl⟩ : ∃ less, fuel = less + 1 := ⟨fuel - 1, by simp at enough; omega⟩
      rw [List.flatMap_cons, List.append_assoc]
      exact read_chars_written char _ _ _ _ fuel (escaped_written char) (ih fuel (by simpa using enough))

theorem skip_chars_escaped (chars rest : List Char) (fuel : Nat) (enough : chars.length < fuel) :
    skipChars fuel (chars.flatMap escapedChar ++ '"' :: rest) = .ok rest := by
  induction chars generalizing fuel with
  | nil =>
      obtain ⟨fuel, rfl⟩ : ∃ less, fuel = less + 1 := ⟨fuel - 1, by simp at enough; omega⟩
      simp [skipChars]
  | cons char chars ih =>
      obtain ⟨fuel, rfl⟩ : ∃ less, fuel = less + 1 := ⟨fuel - 1, by simp at enough; omega⟩
      rw [List.flatMap_cons, List.append_assoc, skip_chars_written char _ _ fuel (escaped_written char),
        ih fuel (by simpa using enough)]

theorem escaped_length (chars : List Char) : chars.length ≤ (chars.flatMap escapedChar).length := by
  induction chars with
  | nil => simp
  | cons char chars ih =>
      have one := written_nonempty char _ (escaped_written char)
      simp only [List.flatMap_cons, List.length_append, List.length_cons]
      omega

@[simp] theorem read_string_written (text : String) (rest : List Char) :
    readString (text.toList.flatMap escapedChar ++ '"' :: rest) = .ok (text, rest) := by
  have length := escaped_length text.toList
  rw [readString, read_chars_escaped text.toList rest _ (by simp only [List.length_append, List.length_cons]; omega)]
  simp

@[simp] theorem skip_string_written (text : String) (rest : List Char) :
    skipString (text.toList.flatMap escapedChar ++ '"' :: rest) = .ok rest := by
  have length := escaped_length text.toList
  rw [skipString, skip_chars_escaped text.toList rest _ (by simp only [List.length_append, List.length_cons]; omega)]

@[simp] theorem string_text_append (text : String) (rest : List Char) :
    stringText text ++ rest = '"' :: (text.toList.flatMap escapedChar ++ '"' :: rest) := by
  simp [stringText]

inductive Value.Proper : Value → Prop where
  | null : Proper .null
  | boolean (value : Bool) : Proper (.boolean value)
  | number (literal : List Char) (numeral : Numeral) (read : readNumeral literal = .ok (numeral, [])) :
      Proper (.number literal)
  | string (text : String) : Proper (.string text)
  | list (items : List Value) (proper : ∀ item ∈ items, Proper item) : Proper (.list items)
  | object (members : List (String × Value)) (proper : ∀ member ∈ members, Proper member.2) : Proper (.object members)

theorem object_proper (members : List (String × Value)) (proper : (Value.object members).Proper) :
    ∀ member ∈ members, member.2.Proper := by
  cases proper with
  | object _ inner => exact inner

def Opening (char : Char) : Prop := char ∈ ['n', 't', 'f', '"', '[', '\x7b', '-'] ∨ char.isDigit = true

theorem unsigned_opening (negative : Bool) (text left : List Char) (numeral : Numeral)
    (read : readUnsigned negative text = .ok (numeral, left)) :
    ∃ char more, text = char :: more ∧ char.isDigit = true := by
  unfold readUnsigned at read
  split at read
  · contradiction
  · exact ⟨_, _, rfl, rfl⟩
  · split at read
    · rename_i digit
      exact ⟨_, _, rfl, digit⟩
    · contradiction

theorem numeral_opening (text left : List Char) (numeral : Numeral) (read : readNumeral text = .ok (numeral, left)) :
    ∃ char more, text = char :: more ∧ (char = '-' ∨ char.isDigit = true) := by
  unfold readNumeral at read
  split at read
  · exact ⟨_, _, rfl, .inl rfl⟩
  · obtain ⟨char, more, shape, digit⟩ := unsigned_opening _ _ _ _ read
    exact ⟨char, more, shape, .inr digit⟩

theorem render_opening (layout : Layout) (depth : Nat) (value : Value) (proper : value.Proper) :
    ∃ char more, value.render layout depth = char :: more ∧ Opening char := by
  cases proper with
  | null => exact ⟨_, _, rfl, .inl (by simp)⟩
  | boolean value => cases value <;> exact ⟨_, _, rfl, .inl (by simp)⟩
  | number literal numeral read =>
      obtain ⟨char, more, shape, first⟩ := numeral_opening _ _ _ read
      refine ⟨char, more, by rw [Value.render, shape], ?_⟩
      rcases first with rfl | digit
      · exact .inl (by simp)
      · exact .inr digit
  | string text => exact ⟨_, _, rfl, .inl (by simp)⟩
  | list items => cases items <;> exact ⟨_, _, rfl, .inl (by simp)⟩
  | object members => cases members <;> exact ⟨_, _, rfl, .inl (by simp)⟩

theorem opening_solid (char : Char) (opening : Opening char) :
    isGap char = false ∧ char ≠ ']' ∧ char ≠ '\x7d' ∧ char ≠ ',' := by
  rcases opening with listed | digit
  · simp only [List.mem_cons, List.not_mem_nil, or_false] at listed
    rcases listed with rfl | rfl | rfl | rfl | rfl | rfl | rfl <;> decide
  · refine ⟨?_, ?_, ?_, ?_⟩
    · rw [Bool.eq_false_iff]
      intro gap
      simp only [isGap, Bool.or_eq_true, decide_eq_true_eq] at gap
      rcases gap with ((rfl | rfl) | rfl) | rfl <;> simp at digit
    all_goals
      rintro rfl
      simp at digit

theorem render_list (layout : Layout) (depth : Nat) (item : Value) (items : List Value) (rest : List Char) :
    (Value.list (item :: items)).render layout depth ++ rest =
      '[' :: (layout.lineBreak (depth + 1) ++ (item.render layout (depth + 1) ++
        (renderItems layout (depth + 1) items ++ (layout.lineBreak depth ++ ']' :: rest)))) := by
  simp [Value.render]

theorem render_object (layout : Layout) (depth : Nat) (name : String) (value : Value) (members : List (String × Value))
    (rest : List Char) :
    (Value.object ((name, value) :: members)).render layout depth ++ rest =
      '\x7b' :: (layout.lineBreak (depth + 1) ++ '"' :: (name.toList.flatMap escapedChar ++ '"' :: ':' ::
        (layout.afterColon ++ (value.render layout (depth + 1) ++
          (renderMembers layout (depth + 1) members ++ (layout.lineBreak depth ++ '\x7d' :: rest)))))) := by
  simp [Value.render, stringText]

theorem render_items_append (layout : Layout) (depth : Nat) (item : Value) (items : List Value) (rest : List Char) :
    renderItems layout depth (item :: items) ++ rest =
      ',' :: (layout.lineBreak depth ++ (item.render layout depth ++ (renderItems layout depth items ++ rest))) := by
  simp [renderItems]

theorem render_members_append (layout : Layout) (depth : Nat) (name : String) (value : Value)
    (members : List (String × Value)) (rest : List Char) :
    renderMembers layout depth ((name, value) :: members) ++ rest =
      ',' :: (layout.lineBreak depth ++ '"' :: (name.toList.flatMap escapedChar ++ '"' :: ':' ::
        (layout.afterColon ++ (value.render layout depth ++ (renderMembers layout depth members ++ rest))))) := by
  simp [renderMembers, stringText]

theorem render_items_length (layout : Layout) (depth : Nat) (items : List Value) :
    items.length ≤ (renderItems layout depth items).length := by
  induction items with
  | nil => simp
  | cons item items ih =>
      simp only [renderItems, List.length_cons, List.length_append]
      omega

theorem render_members_length (layout : Layout) (depth : Nat) (members : List (String × Value)) :
    members.length ≤ (renderMembers layout depth members).length := by
  induction members with
  | nil => simp
  | cons member members ih =>
      simp only [renderMembers, List.length_cons, List.length_append]
      omega

theorem items_stop (layout : Layout) (blank : layout.Blank) (depth inner : Nat) (items : List Value) (rest : List Char) :
    Stops (renderItems layout inner items ++ (layout.lineBreak depth ++ ']' :: rest)) := by
  cases items with
  | nil => exact stops_blank (layout.lineBreak depth) (']' :: rest) (blank.lineBreak depth) (stops_cons _ _ (by decide))
  | cons item items => exact stops_cons _ _ (by decide)

theorem members_stop (layout : Layout) (blank : layout.Blank) (depth inner : Nat) (members : List (String × Value))
    (rest : List Char) : Stops (renderMembers layout inner members ++ (layout.lineBreak depth ++ '\x7d' :: rest)) := by
  cases members with
  | nil => exact stops_blank (layout.lineBreak depth) ('\x7d' :: rest) (blank.lineBreak depth) (stops_cons _ _ (by decide))
  | cons member members => exact stops_cons _ _ (by decide)

end Plotter.Json
