import Plotter.Json.Choice
import Plotter.Proofs.JsonSkipping

/-!
What a codec writes it reads back, whatever blanks the layout puts between the tokens. Records are read member by
member; a member of another name is passed over and changes nothing.
-/

set_option autoImplicit false

namespace Plotter.Json

/-- A content comes back from its text, and the text ends where the reader stops. -/
structure Codec.Returns {α : Type} (codec : Codec α) (content : α) : Prop where
  proper : (codec.value content).Proper
  read : ∀ (layout : Layout) (depth : Nat) (gap rest : List Char), layout.Blank → Blank gap → Stops rest →
    codec.read (gap ++ ((codec.value content).render layout depth ++ rest)) = .ok (content, rest)

theorem parse_write {α : Type} (codec : Codec α) (content : α) (returns : codec.Returns content) (layout : Layout)
    (blank : layout.Blank) : codec.parse (codec.write layout content) = .ok content := by
  have read := returns.read layout 0 [] [] blank blank_nil stops_nil
  simp only [List.nil_append, List.append_nil] at read
  simp [Codec.parse, Codec.write, Value.text, read, skipGaps]

theorem parse_ok {α : Type} (codec : Codec α) (text : String) (content : α) (parsed : codec.parse text = .ok content) :
    ∃ rest, codec.read text.toList = .ok (content, rest) ∧ skipGaps rest = [] := by
  rw [Codec.parse] at parsed
  dsimp only at parsed
  split at parsed
  · contradiction
  · rename_i read
    split at parsed
    · rename_i ended
      cases parsed
      exact ⟨_, read, ended⟩
    · contradiction

theorem parse_ended {α : Type} (codec : Codec α) (text : String) (content : α) (rest : List Char)
    (read : codec.read text.toList = .ok (content, rest)) (ended : skipGaps rest = []) :
    codec.parse text = .ok content := by
  simp [Codec.parse, read, ended]

theorem convert_returns {α β : Type} (codec : Codec α) (there : α → β) (back : β → α) (content : β)
    (returns : codec.Returns (back content)) (inverse : there (back content) = content) :
    (codec.convert there back).Returns content := by
  refine ⟨returns.proper, ?_⟩
  intro layout depth gap rest blank gapBlank stops
  have read := returns.read layout depth gap rest blank gapBlank stops
  simp only [Codec.convert, read, inverse]

theorem read_number_written {α : Type} (expected : String) (take : Numeral → Except Cause α) (literal gap rest : List Char)
    (numeral : Numeral) (value : α) (read : readNumeral literal = .ok (numeral, [])) (taken : take numeral = .ok value)
    (blank : Blank gap) (stops : Stops rest) : readNumber expected take (gap ++ (literal ++ rest)) = .ok (value, rest) := by
  have whole := numeral_local literal numeral [] rest stops read
  obtain ⟨char, more, rfl, first⟩ := numeral_opening literal [] numeral read
  have opening : Opening char := first.imp (by rintro rfl; simp) id
  have marked : (char = '-' || char.isDigit) = true := by simpa using first
  rw [List.cons_append] at whole ⊢
  rw [readNumber, skip_gaps_to gap _ char blank (opening_solid char opening).1]
  simp only [marked, if_true, whole, taken, List.nil_append]

theorem read_number_ok {α : Type} (expected : String) (take : Numeral → Except Cause α) (text rest : List Char) (value : α)
    (read : readNumber expected take text = .ok (value, rest)) :
    ∃ numeral, readNumeral (skipGaps text) = .ok (numeral, rest) ∧ take numeral = .ok value := by
  rw [readNumber] at read
  split at read
  · contradiction
  · rename_i start
    rw [start]
    split at read
    · split at read
      · contradiction
      · rename_i numeral rest done
        split at read
        · rename_i taken
          cases read
          exact ⟨numeral, done, taken⟩
        · contradiction
    · contradiction

theorem natural_returns (expected : String) (limit number : Nat) (below : number < limit) (fits : number < UInt64.size) :
    (natural expected limit).Returns number := by
  have read := read_natural number fits [] stops_nil
  rw [List.append_nil] at read
  refine ⟨.number _ _ read, ?_⟩
  intro layout depth gap rest _ blank stops
  exact read_number_written expected _ _ gap rest _ number read (by simp [takeNatural, below]) blank stops

theorem word64_returns (number : UInt64) : word64.Returns number :=
  convert_returns _ _ _ number (natural_returns _ _ _ number.toNat_lt number.toNat_lt) (by simp)

theorem count_returns (number : Nat) (fits : number < UInt64.size) : count.Returns number :=
  natural_returns _ _ number fits fits

theorem size64_returns (number : UInt64) : size64.Returns number :=
  convert_returns _ _ _ number (count_returns _ number.toNat_lt) (by simp)

theorem word32_returns (number : UInt32) : word32.Returns number := by
  have below := number.toNat_lt
  exact convert_returns _ _ _ number (natural_returns _ _ _ below (by simp only [UInt64.size]; omega)) (by simp)

def Solid (text : List Char) : Prop := ∀ char ∈ text, isGap char = false

@[simp] theorem solid_append (left right : List Char) : Solid (left ++ right) ↔ Solid left ∧ Solid right := by
  simp only [Solid, List.mem_append, or_imp, forall_and]

@[simp] theorem solid_cons (char : Char) (text : List Char) : Solid (char :: text) ↔ isGap char = false ∧ Solid text := by
  simp [Solid]

theorem solid_sublist (part text : List Char) (within : part.Sublist text) (solid : Solid text) : Solid part :=
  fun char member => solid char (within.subset member)

@[simp] theorem solid_replicate (count : Nat) (char : Char) (solid : isGap char = false) : Solid (List.replicate count char) := by
  intro other member
  rw [(List.mem_replicate.mp member).2]
  exact solid

theorem solid_digits (number : Nat) : Solid (Nat.toDigits 10 number) := by
  intro char member
  exact (opening_solid char (.inr (Nat.isDigit_of_mem_toDigits (by decide) (by decide) member))).1

theorem solid_positional (wholeEnd digits : List Char) (first : Int) (ending : Solid wholeEnd) (solid : Solid digits) :
    Solid (Decimal.positionalText wholeEnd digits first) := by
  rw [Decimal.positionalText]
  split
  · simp [solid, isGap]
  · have whole := solid_sublist _ _ (List.take_sublist (first + 1).toNat digits) solid
    have fraction := solid_sublist _ _ (List.drop_sublist (first + 1).toNat digits) solid
    dsimp only
    split <;> simp [whole, fraction, ending, isGap]

theorem solid_scientific (digits : List Char) (first : Int) (solid : Solid digits) :
    Solid (Decimal.scientificText digits first) := by
  have whole := solid_sublist _ _ (List.take_sublist 1 digits) solid
  have fraction := solid_sublist _ _ (List.drop_sublist 1 digits) solid
  have point : Solid (if (digits.drop 1).isEmpty then [] else '.' :: digits.drop 1) := by
    split
    · simp [Solid]
    · exact (solid_cons _ _).mpr ⟨rfl, fraction⟩
  have sign : isGap (if first < 0 then '-' else '+') = false := by split <;> rfl
  simp only [Decimal.scientificText, solid_append, solid_cons]
  exact ⟨⟨whole, point⟩, rfl, sign, solid_digits _⟩

theorem solid_unsigned (style : Decimal.Style) (ending : Solid style.wholeEnd) (number : Decimal.Scaled) :
    Solid (style.unsignedText number) := by
  unfold Decimal.Style.unsignedText
  dsimp only
  split
  · exact solid_positional _ _ _ ending (solid_digits _)
  · exact solid_scientific _ _ (solid_digits _)

theorem solid_style (style : Decimal.Style) (ending : Solid style.wholeEnd) (negative : Bool)
    (magnitude : Option Decimal.Interval) : Solid (style.text negative magnitude) := by
  cases negative <;> cases magnitude <;>
    simp [Decimal.Style.text, ending, solid_unsigned style ending, isGap]

theorem solid_single (number : Float32) : Solid (singleText number) := by
  unfold singleText Binary.Width.text
  dsimp only
  split
  · simp [Binary.messageSpecials, Solid, isGap]
  · split
    · split <;> simp [Binary.messageSpecials, Solid, isGap]
    · exact solid_style singleStyle (by simp [singleStyle, Solid, isGap]) _ _

theorem skip_gaps_of_solid (text : List Char) (solid : Solid text) : skipGaps text = text := by
  cases text with
  | nil => rfl
  | cons char text => exact skip_gaps_solid char text (solid char (by simp))

/-- The only assumption on a single precision number is that the text of that number is read as that number. -/
theorem single_returns (number : Float32) (finite : number.isFinite = true)
    (faithful : single.parse (single.write compact number) = .ok number) : single.Returns number := by
  have value : single.value number = .number (singleText number) := by simp [single, Value.ofSingle, finite]
  obtain ⟨numeral, read, taken⟩ : ∃ numeral, readNumeral (singleText number) = .ok (numeral, []) ∧
      takeSingle numeral = .ok number := by
    obtain ⟨rest, parsed, ended⟩ := parse_ok single _ number faithful
    rw [Codec.write, value, Value.text, Value.render, String.toList_ofList] at parsed
    obtain ⟨numeral, read, taken⟩ := read_number_ok "f32" takeSingle _ rest number parsed
    -- No gaps in the text of a number, so nothing but the end can follow the numeral.
    have solid := solid_single number
    rw [skip_gaps_of_solid _ solid] at read
    have solidRest := solid_sublist _ _ (numeral_suffix _ _ _ read).sublist solid
    rw [skip_gaps_of_solid _ solidRest] at ended
    exact ⟨numeral, ended ▸ read, taken⟩
  refine ⟨?_, ?_⟩
  · rw [value]
    exact .number _ numeral read
  · intro layout depth gap rest _ blank stops
    rw [value]
    exact read_number_written "f32" takeSingle _ gap rest numeral number read taken blank stops

theorem read_text_written {α : Type} (expected text : String) (take : String → Except Cause α) (value : α)
    (gap rest : List Char) (taken : take text = .ok value) (blank : Blank gap) :
    readText expected take (gap ++ (stringText text ++ rest)) = .ok (value, rest) := by
  simp [readText, blank, isGap, taken]

theorem string_returns (text : String) : string.Returns text := by
  refine ⟨.string text, ?_⟩
  intro layout depth gap rest _ blank _
  exact read_text_written "a string" text .ok text gap rest rfl blank

theorem boolean_returns (flag : Bool) : boolean.Returns flag := by
  refine ⟨.boolean flag, ?_⟩
  intro layout depth gap rest _ blank _
  cases flag with
  | false => simp [boolean, Value.render, blank, isGap, readWord, Except.map]
  | true => simp [boolean, Value.render, blank, isGap, readWord, Except.map]

theorem optional_object_read {α : Type} (codec : Codec α) (inner : α) (layout : Layout) (depth : Nat) (gap rest : List Char)
    (object : ∃ members, codec.value inner = .object members) (blank : Blank gap) :
    codec.optional.read (gap ++ ((codec.value inner).render layout depth ++ rest)) =
      match codec.read ((codec.value inner).render layout depth ++ rest) with
      | .ok (content, left) => .ok (some content, left)
      | .error fault => .error fault := by
  -- An object starts with a brace, which the reader of an option cannot take for null.
  obtain ⟨more, shape⟩ : ∃ more, (codec.value inner).render layout depth = '\x7b' :: more := by
    obtain ⟨members, same⟩ := object
    rw [same]
    cases members <;> exact ⟨_, rfl⟩
  simp only [Codec.optional]
  rw [shape, List.cons_append, skip_gaps_to gap _ '\x7b' blank rfl]
  rfl

theorem optional_object_returns {α : Type} (codec : Codec α) (content : Option α)
    (returns : ∀ inner ∈ content, codec.Returns inner)
    (objects : ∀ inner ∈ content, ∃ members, codec.value inner = .object members) : codec.optional.Returns content := by
  cases content with
  | none =>
      refine ⟨.null, ?_⟩
      intro layout depth gap rest _ blank _
      simp [Codec.optional, Value.render, blank, isGap, readWord, Except.map]
  | some inner =>
      have back := returns inner rfl
      refine ⟨back.proper, ?_⟩
      intro layout depth gap rest blank gapBlank stops
      have read := back.read layout depth [] rest blank blank_nil stops
      rw [List.nil_append] at read
      exact (optional_object_read codec inner layout depth gap rest (objects inner rfl) gapBlank).trans (by rw [read])

theorem next_item_end (first : Bool) (gap rest : List Char) (blank : Blank gap) :
    nextItem first (gap ++ ']' :: rest) = .ok none := by
  simp [nextItem, blank, isGap]

theorem next_item_first (gap rest : List Char) (char : Char) (blank : Blank gap) (opening : Opening char) :
    nextItem true (gap ++ char :: rest) = .ok (some (char :: rest)) := by
  obtain ⟨solid, unclosed, -, -⟩ := opening_solid char opening
  simp only [nextItem, skip_gaps_to gap rest char blank solid, if_true]

theorem next_item_comma (gap rest : List Char) (char : Char) (blank : Blank gap) (opening : Opening char) :
    nextItem false (',' :: (gap ++ char :: rest)) = .ok (some (char :: rest)) := by
  obtain ⟨solid, unclosed, -, -⟩ := opening_solid char opening
  have comma : isGap ',' = false := rfl
  simp [nextItem, blank, solid, unclosed, comma]

section Items

variable {α : Type} (codec : Codec α) (layout : Layout) (blank : layout.Blank) (depth : Nat)
include blank

theorem read_item_step (content : α) (contents : List α) (first : Bool) (inner : Nat) (text rest left : List Char)
    (fuel : Nat) (returns : codec.Returns content) (stops : Stops rest)
    (next : ∀ char more, (codec.value content).render layout inner ++ rest = char :: more → Opening char →
      nextItem first text = .ok (some (char :: more)))
    (later : readItems codec.read fuel false rest = .ok (contents, left)) :
    readItems codec.read (fuel + 1) first text = .ok (content :: contents, left) := by
  obtain ⟨char, more, shape, opening⟩ := render_opening layout inner _ returns.proper
  have read := returns.read layout inner [] rest blank blank_nil stops
  rw [List.nil_append, shape, List.cons_append] at read
  have ahead := next char (more ++ rest) (by rw [shape, List.cons_append]) opening
  simp only [readItems, ahead, read, later]

theorem read_items_end (first : Bool) (rest : List Char) (fuel : Nat) :
    readItems codec.read (fuel + 1) first (layout.lineBreak depth ++ ']' :: rest) = .ok ([], ']' :: rest) := by
  have gap := blank.lineBreak depth
  simp only [readItems, next_item_end first _ rest gap, skip_gaps_to _ rest ']' gap rfl]

theorem read_items_written (contents : List α) (returns : ∀ content ∈ contents, codec.Returns content) (inner : Nat)
    (rest : List Char) (fuel : Nat) (enough : contents.length < fuel) :
    readItems codec.read fuel false
        (renderItems layout inner (contents.map codec.value) ++ (layout.lineBreak depth ++ ']' :: rest)) =
      .ok (contents, ']' :: rest) := by
  obtain ⟨fuel, rfl⟩ : ∃ less, fuel = less + 1 := ⟨fuel - 1, by omega⟩
  -- On the contents; the last unit of fuel is for the bracket that ends them.
  induction contents generalizing fuel with
  | nil => exact read_items_end codec layout blank depth false rest fuel
  | cons content contents ih =>
      obtain ⟨fuel, rfl⟩ : ∃ less, fuel = less + 1 := ⟨fuel - 1, by simp at enough; omega⟩
      have stops := items_stop layout blank depth inner (contents.map codec.value) rest
      have later := ih (fun other member => returns other (by simp [member])) fuel (by simpa using enough)
      rw [List.map_cons, render_items_append]
      refine read_item_step codec layout blank content contents false inner _ _ _ (fuel + 1) (returns content (by simp))
        stops ?_ later
      intro char more shape opening
      rw [shape]
      exact next_item_comma _ more char (blank.lineBreak inner) opening

end Items

theorem list_returns {α : Type} (codec : Codec α) (contents : List α)
    (returns : ∀ content ∈ contents, codec.Returns content) : codec.list.Returns contents := by
  refine ⟨.list _ (by simpa using fun content member => (returns content member).proper), ?_⟩
  intro layout depth gap rest blank gapBlank _
  simp only [Codec.list]
  cases contents with
  | nil =>
      simp [Value.render, gapBlank, readItems, nextItem, isGap, closing, closeList]
  | cons content contents =>
      have stops := items_stop layout blank depth (depth + 1) (contents.map codec.value) rest
      have short := render_items_length layout (depth + 1) (contents.map codec.value)
      rw [List.length_map] at short
      rw [List.map_cons, render_list, skip_gaps_to gap _ '[' gapBlank rfl]
      simp only
      rw [read_item_step codec layout blank content contents true (depth + 1) _ _ (']' :: rest) _
        (returns content (by simp)) stops]
      · simp [closing, closeList, isGap]
      · intro char more shape opening
        rw [shape]
        exact next_item_first _ more char (blank.lineBreak (depth + 1)) opening
      · apply read_items_written codec layout blank depth contents fun other member => returns other (by simp [member])
        simp only [List.length_append, List.length_cons]
        omega

inductive Takes {σ : Type} (layout : Layout) (depth : Nat) (readMember : σ → String → Reader σ) :
    σ → List (String × Value) → σ → Prop where
  | nil (state : σ) : Takes layout depth readMember state [] state
  | cons (state next final : σ) (name : String) (value : Value) (members : List (String × Value))
      (first : ∀ rest, Stops rest →
        readMember state name (':' :: (layout.afterColon ++ (value.render layout depth ++ rest))) = .ok (next, rest))
      (later : Takes layout depth readMember next members final) :
      Takes layout depth readMember state ((name, value) :: members) final

theorem next_key_end (first : Bool) (gap rest : List Char) (blank : Blank gap) :
    nextKey first (gap ++ '\x7d' :: rest) = .ok none := by
  simp [nextKey, blank, isGap]

theorem next_key_first (gap rest : List Char) (blank : Blank gap) : nextKey true (gap ++ '"' :: rest) = .ok (some rest) := by
  simp [nextKey, blank, isGap]

theorem next_key_comma (gap rest : List Char) (blank : Blank gap) :
    nextKey false (',' :: (gap ++ '"' :: rest)) = .ok (some rest) := by
  simp [nextKey, blank, isGap]

section Members

variable {σ : Type} (layout : Layout) (blank : layout.Blank) (depth : Nat) (readMember : σ → String → Reader σ)

theorem read_member_step (state next : σ) (name : String) (first : Bool) (text tail left : List Char) (fuel : Nat)
    (key : nextKey first text = .ok (some (name.toList.flatMap escapedChar ++ '"' :: tail)))
    (member : readMember state name tail = .ok (next, left)) :
    readMembers readMember (fuel + 1) first state text = readMembers readMember fuel false next left := by
  simp only [readMembers, key, read_string_written, member]

include blank

theorem read_members_end (state : σ) (first : Bool) (rest : List Char) (fuel : Nat) :
    readMembers readMember (fuel + 1) first state (layout.lineBreak depth ++ '\x7d' :: rest) =
      .ok (state, '\x7d' :: rest) := by
  have gap := blank.lineBreak depth
  simp only [readMembers, next_key_end first _ rest gap, skip_gaps_to _ rest '\x7d' gap rfl]

theorem read_members_written (state final : σ) (inner : Nat) (rest : List Char) (members : List (String × Value))
    (fuel : Nat) (takes : Takes layout inner readMember state members final) (enough : members.length < fuel) :
    readMembers readMember fuel false state
        (renderMembers layout inner members ++ (layout.lineBreak depth ++ '\x7d' :: rest)) =
      .ok (final, '\x7d' :: rest) := by
  obtain ⟨fuel, rfl⟩ : ∃ less, fuel = less + 1 := ⟨fuel - 1, by omega⟩
  induction takes generalizing fuel with
  | nil state => exact read_members_end layout blank depth readMember state false rest fuel
  | cons state next final name value members first later ih =>
      obtain ⟨fuel, rfl⟩ : ∃ less, fuel = less + 1 := ⟨fuel - 1, by simp at enough; omega⟩
      have stops := members_stop layout blank depth inner members rest
      rw [render_members_append, read_member_step readMember state next name false _ _ _ _
        (next_key_comma _ _ (blank.lineBreak inner)) (first _ stops)]
      exact ih fuel (by simpa using enough)

theorem read_object_written (state final : σ) (rest : List Char) (members : List (String × Value))
    (takes : Takes layout (depth + 1) readMember state members final) :
    ∃ body, (Value.object members).render layout depth ++ rest = '\x7b' :: body ∧
      readMembers readMember (body.length + 1) true state body = .ok (final, '\x7d' :: rest) := by
  cases takes with
  | nil => exact ⟨'\x7d' :: rest, rfl, by simp [readMembers, nextKey, isGap]⟩
  | cons state next final name value members first later =>
      refine ⟨_, render_object layout depth name value members rest, ?_⟩
      have stops := members_stop layout blank depth (depth + 1) members rest
      have short := render_members_length layout (depth + 1) members
      rw [read_member_step readMember state next name true _ _ _ _
        (next_key_first _ _ (blank.lineBreak (depth + 1))) (first _ stops)]
      apply read_members_written layout blank depth readMember next final (depth + 1) rest members _ later
      simp only [List.length_append, List.length_cons]
      omega

end Members

def Fields.names : {αs : List Type} → Fields αs → List String
  | _, .nil => []
  | _, .cons field rest => field.name :: rest.names

def Fields.Return : {αs : List Type} → Fields αs → Row αs → Prop
  | _, .nil, _ => True
  | _, .cons field rest, (content, row) => field.codec.Returns content ∧ rest.Return row

def Tests : List Type → Type
  | [] => Unit
  | α :: αs => (α → Prop) × Tests αs

def Tests.Pass : {αs : List Type} → Tests αs → Row αs → Prop
  | [], _, _ => True
  | _ :: _, (test, tests), (content, row) => test content ∧ tests.Pass row

def Slots.ofRow : (αs : List Type) → Row αs → Slots αs
  | [], _ => ()
  | _ :: αs, (content, row) => (some content, ofRow αs row)

theorem complete_row {αs : List Type} (fields : Fields αs) (row : Row αs) :
    fields.complete (Slots.ofRow αs row) = .ok row := by
  induction fields with
  | nil => rfl
  | cons field rest ih =>
      obtain ⟨content, row⟩ := row
      simp [Fields.complete, Slots.ofRow, ih row]

theorem members_proper {αs : List Type} (fields : Fields αs) (row : Row αs) (returns : fields.Return row) :
    ∀ member ∈ fields.members row, member.2.Proper := by
  induction fields with
  | nil => simp [Fields.members]
  | cons field rest ih =>
      obtain ⟨content, row⟩ := row
      obtain ⟨first, later⟩ := returns
      intro member present
      rcases List.mem_cons.mp present with rfl | present
      · exact first.proper
      · exact ih row later member present

theorem members_names {αs : List Type} (fields : Fields αs) (row : Row αs) :
    (fields.members row).map Prod.fst = fields.names := by
  induction fields with
  | nil => rfl
  | cons field rest ih =>
      obtain ⟨content, row⟩ := row
      simp [Fields.members, Fields.names, ih row]

@[simp] theorem read_colon (rest : List Char) : readColon (':' :: rest) = .ok rest := by
  simp [readColon, isGap]

theorem unknown_member {αs : List Type} (fields : Fields αs) (slots : Slots αs) (name : String)
    (unknown : name ∉ fields.names) (layout : Layout) (blank : layout.Blank) (depth : Nat) (value : Value)
    (proper : value.Proper) (rest : List Char) (stops : Stops rest) :
    fields.readMember slots name (':' :: (layout.afterColon ++ (value.render layout depth ++ rest))) =
      .ok (slots, rest) := by
  induction fields with
  | nil =>
      simp [Fields.readMember, Except.map,
        skip_value_written layout blank depth value proper _ rest blank.afterColon stops]
  | cons field others ih =>
      obtain ⟨slot, slots⟩ := slots
      obtain ⟨different, unknown⟩ : name ≠ field.name ∧ name ∉ others.names := by simpa [Fields.names] using unknown
      simp [Fields.readMember, different, ih slots unknown]

theorem takes_foreign {αs : List Type} (fields : Fields αs) (slots : Slots αs) (members : List (String × Value))
    (foreign : ∀ member ∈ members, member.1 ∉ fields.names) (proper : ∀ member ∈ members, member.2.Proper)
    (layout : Layout) (blank : layout.Blank) (depth : Nat) : Takes layout depth fields.readMember slots members slots := by
  induction members with
  | nil => exact .nil _
  | cons member members ih =>
      obtain ⟨name, value⟩ := member
      have later := ih (fun other present => foreign other (by simp [present]))
        (fun other present => proper other (by simp [present]))
      exact .cons _ slots _ name value members
        (unknown_member fields slots name (foreign (name, value) (by simp)) layout blank depth value
          (proper (name, value) (by simp))) later

theorem takes_beside {α : Type} {αs : List Type} (field : Field α) (fields : Fields αs) (slot : Option α) (layout : Layout)
    (depth : Nat) (start final : Slots αs) (members : List (String × Value)) (other : field.name ∉ members.map Prod.fst)
    (takes : Takes layout depth fields.readMember start members final) :
    Takes layout depth (Fields.cons field fields).readMember (slot, start) members (slot, final) := by
  induction takes with
  | nil state => exact .nil _
  | cons state next final name value members first later ih =>
      obtain ⟨different, other⟩ : field.name ≠ name ∧ field.name ∉ members.map Prod.fst := by simpa using other
      refine .cons _ (slot, next) _ name value members ?_ (ih other)
      intro rest stops
      simp only [Fields.readMember, different.symm, if_false, first rest stops]
      rfl

theorem takes_fields {αs : List Type} (fields : Fields αs) (row : Row αs) (returns : fields.Return row)
    (distinct : fields.names.Nodup) (layout : Layout) (blank : layout.Blank) (depth : Nat) :
    Takes layout depth fields.readMember (Slots.empty αs) (fields.members row) (Slots.ofRow αs row) := by
  induction fields with
  | nil => exact .nil _
  | cons field rest ih =>
      obtain ⟨content, row⟩ := row
      obtain ⟨first, later⟩ := returns
      obtain ⟨new, distinct⟩ := List.nodup_cons.mp distinct
      -- The later members pass the first slot by, because none has the name of its field.
      have other : field.name ∉ (rest.members row).map Prod.fst := by rwa [members_names]
      refine .cons _ (some content, Slots.empty _) _ field.name _ _ ?_
        (takes_beside field rest (some content) layout depth _ _ _ other (ih row later distinct))
      intro left stops
      simp only [Fields.readMember, Slots.empty, if_true, read_colon,
        first.read layout depth _ left blank blank.afterColon stops]
      rfl

theorem read_fields_written {αs : List Type} (fields : Fields αs) (kind : String) (layout : Layout) (blank : layout.Blank)
    (depth : Nat) (members : List (String × Value)) (final : Slots αs)
    (takes : Takes layout (depth + 1) fields.readMember (Slots.empty αs) members final) (gap rest : List Char)
    (gapBlank : Blank gap) :
    fields.read kind (gap ++ ((Value.object members).render layout depth ++ rest)) =
      match fields.complete final with
      | .ok row => .ok (row, rest)
      | .error name => .error ((Cause.missingField name).here rest) := by
  obtain ⟨body, shape, read⟩ := read_object_written layout blank depth fields.readMember _ final rest members takes
  rw [shape, Fields.read, skip_gaps_to gap body '\x7b' gapBlank rfl]
  simp only [Fields.readObject, read]
  cases fields.complete final with
  | ok row => simp [closing, closeObject, isGap]
  | error name => simp [closing, afterObject, isGap]

theorem fields_returns {αs : List Type} (fields : Fields αs) (kind : String) (row : Row αs) (returns : fields.Return row)
    (distinct : fields.names.Nodup) : (fields.codec kind).Returns row := by
  refine ⟨.object _ (members_proper fields row returns), ?_⟩
  intro layout depth gap rest blank gapBlank _
  have takes := takes_fields fields row returns distinct layout blank (depth + 1)
  have read := read_fields_written fields kind layout blank depth _ _ takes gap rest gapBlank
  rwa [complete_row] at read

theorem record_returns {α : Type} {αs : List Type} (name : String) (fields : Fields αs) (there : Row αs → α)
    (back : α → Row αs) (content : α) (returns : fields.Return (back content)) (inverse : there (back content) = content)
    (distinct : fields.names.Nodup) : (record name fields there back).Returns content :=
  convert_returns _ there back content (fields_returns fields _ _ returns distinct) inverse

theorem foreign_object_missing {α : Type} {αs : List Type} (name : String) (fields : Fields αs) (there : Row αs → α)
    (back : α → Row αs) (missing : String) (required : fields.complete (Slots.empty αs) = .error missing)
    (members : List (String × Value)) (foreign : ∀ member ∈ members, member.1 ∉ fields.names)
    (proper : ∀ member ∈ members, member.2.Proper) (layout : Layout) (blank : layout.Blank) :
    (record name fields there back).parse ((Value.object members).text layout) =
      .error (((Cause.missingField missing).here []).within ((Value.object members).render layout 0)) := by
  have takes := takes_foreign fields (Slots.empty αs) members foreign proper layout blank 1
  have read := read_fields_written fields ("struct " ++ name) layout blank 0 members _ takes [] [] blank_nil
  rw [required, List.nil_append, List.append_nil] at read
  simp [Codec.parse, record, Codec.convert, Fields.codec, Value.text, read]

theorem read_variant_written {α : Type} (variants : List (Variant α)) (variant : Variant α) (name : String)
    (found : variants.find? (fun variant => variant.name = name) = some variant) (rest : List Char) :
    readVariant variants (name.toList.flatMap escapedChar ++ '"' :: rest) = .ok (variant, rest) := by
  simp only [readVariant, read_string_written, found]

theorem plain_choice_returns {α : Type} (variants : List (Variant α)) (value : α → Value) (variant : Variant α)
    (name : String) (content : α) (written : value content = .string name)
    (found : variants.find? (fun variant => variant.name = name) = some variant) (plain : variant.plain = some content) :
    (Codec.mk (readChoice variants) value).Returns content := by
  refine ⟨?_, ?_⟩
  · simp only [written]
    exact .string name
  · intro layout depth gap rest _ blank _
    simp only [written]
    rw [Value.render, readChoice, string_text_append, skip_gaps_to gap _ '"' blank rfl]
    simp only [read_variant_written variants variant name found, plain]

theorem read_tagged_written {α : Type} (variants : List (Variant α)) (variant : Variant α) (name : String) (value : α)
    (content : Value) (layout : Layout) (blank : layout.Blank) (depth : Nat)
    (found : variants.find? (fun variant => variant.name = name) = some variant)
    (read : ∀ gap rest, Blank gap → Stops rest →
      variant.content (gap ++ (content.render layout (depth + 1) ++ rest)) = .ok (value, rest))
    (gap rest : List Char) (gapBlank : Blank gap) :
    readChoice variants (gap ++ ((Value.tagged name content).render layout depth ++ rest)) = .ok (value, rest) := by
  have stops : Stops (layout.lineBreak depth ++ '\x7d' :: rest) := members_stop layout blank depth depth [] rest
  have inside := read layout.afterColon _ blank.afterColon stops
  rw [Value.tagged, render_object, readChoice, skip_gaps_to gap _ '\x7b' gapBlank rfl]
  simp [readTagged, skip_gaps_to _ _ '"' (blank.lineBreak (depth + 1)) rfl,
    read_variant_written variants variant name found, read_colon, renderMembers, inside, closeVariant,
    skip_gaps_to _ rest '\x7d' (blank.lineBreak depth) rfl]

theorem record_choice_returns {α : Type} {αs : List Type} (variants : List (Variant α)) (value : α → Value)
    (choice name : String) (fields : Fields αs) (make : Row αs → α) (row : Row αs) (content : α)
    (made : make row = content) (written : value content = .tagged name (.object (fields.members row)))
    (found : variants.find? (fun variant => variant.name = name) = some (.record choice name fields make))
    (returns : fields.Return row) (distinct : fields.names.Nodup) :
    (Codec.mk (readChoice variants) value).Returns content := by
  have inside := fields_returns fields ("struct variant " ++ choice ++ "::" ++ name) row returns distinct
  refine ⟨?_, ?_⟩
  · simp only [written]
    exact .object _ (List.forall_mem_singleton.mpr inside.proper)
  · intro layout depth gap rest blank gapBlank _
    simp only [written]
    refine read_tagged_written variants _ name content _ layout blank depth found ?_ gap rest gapBlank
    intro gap rest gapBlank stops
    have read := inside.read layout (depth + 1) gap rest blank gapBlank stops
    simp only [Fields.codec] at read
    simp only [Variant.record, read, made]

end Plotter.Json
