import Plotter.Proofs.JsonCodecs

set_option autoImplicit false

namespace Plotter.Json

def Codec.Yields {α : Type} (codec : Codec α) (good : α → Prop) : Prop :=
  ∀ text content rest, codec.read text = .ok (content, rest) → good content

theorem any_yields {α : Type} (codec : Codec α) : codec.Yields fun _ => True := fun _ _ _ _ => trivial

theorem parse_yields {α : Type} (codec : Codec α) (good : α → Prop) (yields : codec.Yields good) (text : String)
    (content : α) (parsed : codec.parse text = .ok content) : good content := by
  obtain ⟨rest, read, -⟩ := parse_ok codec text content parsed
  exact yields _ _ _ read

theorem convert_yields {α β : Type} (codec : Codec α) (there : α → β) (back : β → α) (good : α → Prop) (fine : β → Prop)
    (yields : codec.Yields good) (carried : ∀ content, good content → fine (there content)) :
    (codec.convert there back).Yields fine := by
  intro text content rest read
  simp only [Codec.convert] at read
  split at read
  · rename_i inner left first
    cases read
    exact carried inner (yields _ _ _ first)
  · cases read

theorem take_natural_below (expected : String) (limit : Nat) (numeral : Numeral) (number : Nat)
    (taken : takeNatural expected limit numeral = .ok number) : number < limit := by
  cases numeral with
  | natural value =>
      by_cases below : value < limit
      · simp only [takeNatural, if_pos below] at taken
        cases taken
        exact below
      · simp [takeNatural, below] at taken
  | negative value => simp [takeNatural] at taken
  | real value => simp [takeNatural] at taken

theorem natural_yields (expected : String) (limit : Nat) : (natural expected limit).Yields fun number => number < limit := by
  intro text number rest read
  obtain ⟨numeral, -, taken⟩ := read_number_ok expected (takeNatural expected limit) text rest number read
  exact take_natural_below expected limit numeral number taken

theorem count_yields : count.Yields fun number => number < UInt64.size := natural_yields _ _

theorem closing_ok {α : Type} (close : List Char → Except Fault (List Char)) (after : List Char → List Char)
    (inner : Except Fault (α × List Char)) (content : α) (rest : List Char)
    (closed : closing close after inner = .ok (content, rest)) : ∃ left, inner = .ok (content, left) := by
  unfold closing at closed
  split at closed
  · split at closed
    · cases closed
      exact ⟨_, rfl⟩
    · cases closed
  · cases closed
  · cases closed

theorem read_items_yield {α : Type} (read : Reader α) (good : α → Prop)
    (yields : ∀ text content rest, read text = .ok (content, rest) → good content) (fuel : Nat) (first : Bool)
    (text : List Char) (contents : List α) (rest : List Char)
    (items : readItems read fuel first text = .ok (contents, rest)) : ∀ content ∈ contents, good content := by
  induction fuel generalizing first text contents rest with
  | zero => cases items
  | succ fuel ih =>
      rw [readItems] at items
      split at items
      · cases items
      · cases items
        simp
      · split at items
        · cases items
        · rename_i item left taken
          split at items
          · cases items
          · rename_i later
            cases items
            exact List.forall_mem_cons.mpr ⟨yields _ _ _ taken, ih _ _ _ _ later⟩

theorem list_yields {α : Type} (codec : Codec α) (good : α → Prop) (yields : codec.Yields good) :
    codec.list.Yields fun contents => ∀ content ∈ contents, good content := by
  intro text contents rest read
  simp only [Codec.list] at read
  split at read
  · cases read
  · obtain ⟨left, items⟩ := closing_ok _ _ _ _ _ read
    exact read_items_yield codec.read good yields _ _ _ _ _ items
  · cases read

def Absence.Suits {α : Type} (good : α → Prop) : Absence α → Prop
  | .fault => True
  | .omitted value => good value
  | .default value => good value

def Fields.Yield : {αs : List Type} → Fields αs → Tests αs → Prop
  | _, .nil, _ => True
  | _, .cons field rest, (test, tests) => field.codec.Yields test ∧ field.absence.Suits test ∧ rest.Yield tests

def Tests.Admit : {αs : List Type} → Tests αs → Slots αs → Prop
  | [], _, _ => True
  | _ :: _, (test, tests), (slot, slots) => (∀ content ∈ slot, test content) ∧ tests.Admit slots

section Records

variable {αs : List Type}

theorem empty_admitted (tests : Tests αs) : tests.Admit (Slots.empty αs) := by
  induction αs with
  | nil => trivial
  | cons α αs ih => exact ⟨by simp, ih tests.2⟩

theorem read_member_admitted (fields : Fields αs) (tests : Tests αs) (yield : fields.Yield tests) (slots next : Slots αs)
    (key : String) (text rest : List Char) (admitted : tests.Admit slots)
    (read : fields.readMember slots key text = .ok (next, rest)) : tests.Admit next := by
  induction fields with
  | nil => trivial
  | cons field others ih =>
      obtain ⟨test, tests⟩ := tests
      obtain ⟨slot, slots⟩ := slots
      obtain ⟨yields, -, later⟩ := yield
      obtain ⟨here, there⟩ := admitted
      -- The splits run over what can go wrong: the name is taken already, no colon, no value.
      by_cases same : key = field.name
      · simp only [Fields.readMember, if_pos same] at read
        split at read
        · cases read
        · split at read
          · cases read
          · split at read
            · rename_i content left taken
              cases read
              exact ⟨by simpa using yields _ _ _ taken, there⟩
            · cases read
      · simp only [Fields.readMember, if_neg same] at read
        split at read
        · rename_i changed left taken
          cases read
          exact ⟨here, ih tests later slots changed there taken⟩
        · cases read

theorem read_members_keep {σ : Type} (readMember : σ → String → Reader σ) (kept : σ → Prop)
    (step : ∀ state next key text rest, kept state → readMember state key text = .ok (next, rest) → kept next)
    (fuel : Nat) (first : Bool) (state final : σ) (text rest : List Char) (before : kept state)
    (read : readMembers readMember fuel first state text = .ok (final, rest)) : kept final := by
  induction fuel generalizing first state text with
  | zero => cases read
  | succ fuel ih =>
      rw [readMembers] at read
      split at read
      · cases read
      · cases read
        exact before
      · split at read
        · cases read
        · split at read
          · cases read
          · rename_i next left member
            exact ih _ _ _ (step _ _ _ _ _ before member) read

theorem complete_passes (fields : Fields αs) (tests : Tests αs) (yield : fields.Yield tests) (slots : Slots αs)
    (row : Row αs) (admitted : tests.Admit slots) (complete : fields.complete slots = .ok row) : tests.Pass row := by
  induction fields with
  | nil => trivial
  | cons field others ih =>
      obtain ⟨test, tests⟩ := tests
      obtain ⟨slot, slots⟩ := slots
      obtain ⟨-, suits, later⟩ := yield
      obtain ⟨here, there⟩ := admitted
      simp only [Fields.complete] at complete
      split at complete
      · cases complete
      · rename_i content chosen
        split at complete
        · cases complete
        · rename_i rows completed
          cases complete
          refine ⟨?_, ih tests later slots rows there completed⟩
          -- The content was read, or stands for a member that was left out.
          split at chosen
          · cases chosen
            exact here _ rfl
          · rename_i absence
            cases chosen
            simpa [absence, Absence.Suits] using suits
          · rename_i absence
            cases chosen
            simpa [absence, Absence.Suits] using suits
          · cases chosen

theorem read_list_passes (fields : Fields αs) (tests : Tests αs) (yield : fields.Yield tests) (expected : String)
    (position : Nat) (first : Bool) (text : List Char) (row : Row αs) (rest : List Char)
    (read : fields.readList expected position first text = .ok (row, rest)) : tests.Pass row := by
  induction fields generalizing position first text rest with
  | nil => trivial
  | cons field others ih =>
      obtain ⟨test, tests⟩ := tests
      obtain ⟨yields, suits, later⟩ := yield
      simp only [Fields.readList] at read
      split at read
      · cases read
      · split at read
        · rename_i absence
          split at read
          · rename_i followed
            cases read
            exact ⟨by simpa [absence, Absence.Suits] using suits, ih tests later _ _ _ _ _ followed⟩
          · cases read
        · cases read
      · split at read
        · cases read
        · rename_i taken
          split at read
          · rename_i followed
            cases read
            exact ⟨yields _ _ _ taken, ih tests later _ _ _ _ _ followed⟩
          · cases read

theorem read_object_passes (fields : Fields αs) (tests : Tests αs) (yield : fields.Yield tests) (text : List Char)
    (row : Row αs) (rest : List Char) (read : fields.readObject text = .ok (row, rest)) : tests.Pass row := by
  rw [Fields.readObject] at read
  split at read
  · cases read
  · rename_i slots left members
    have admitted := read_members_keep fields.readMember tests.Admit
      (fun slots next key text rest => read_member_admitted fields tests yield slots next key text rest)
      _ _ _ _ _ _ (empty_admitted tests) members
    split at read
    · rename_i complete
      cases read
      exact complete_passes fields tests yield _ _ admitted complete
    · cases read

theorem record_yields {α : Type} (name : String) (fields : Fields αs) (there : Row αs → α) (back : α → Row αs)
    (good : α → Prop) (tests : Tests αs) (yield : fields.Yield tests)
    (carried : ∀ row, tests.Pass row → good (there row)) : (record name fields there back).Yields good := by
  apply convert_yields _ there back tests.Pass good _ carried
  intro text row rest read
  simp only [Fields.codec, Fields.read] at read
  split at read
  · cases read
  · obtain ⟨left, inside⟩ := closing_ok _ _ _ _ _ read
    exact read_list_passes fields tests yield _ _ _ _ _ _ inside
  · obtain ⟨left, inside⟩ := closing_ok _ _ _ _ _ read
    exact read_object_passes fields tests yield _ _ _ inside
  · cases read

end Records

end Plotter.Json
