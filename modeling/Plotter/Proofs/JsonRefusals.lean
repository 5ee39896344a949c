import Plotter.Proofs.JsonCodecs

set_option autoImplicit false

namespace Plotter.Json

/-- A content that can be expressed comes back; the text of any other is refused, always for the same cause. -/
structure Codec.Settles {α : Type} (codec : Codec α) (cause : Cause) (expressible : Prop) (content : α) : Prop where
  proper : (codec.value content).Proper
  returns : expressible → codec.Returns content
  refuses : ¬ expressible → ∀ (layout : Layout) (depth : Nat) (gap rest : List Char), layout.Blank → Blank gap →
    Stops rest →
    ∃ place, codec.read (gap ++ ((codec.value content).render layout depth ++ rest)) = .error (.placed cause place)

theorem returns_settles {α : Type} (codec : Codec α) (cause : Cause) (content : α) (returns : codec.Returns content) :
    codec.Settles cause True content :=
  ⟨returns.proper, fun _ => returns, fun absurdity => absurd trivial absurdity⟩

theorem settles_congr {α : Type} (codec : Codec α) (cause : Cause) (expressible same : Prop) (content : α)
    (settles : codec.Settles cause expressible content) (equivalent : same ↔ expressible) :
    codec.Settles cause same content :=
  ⟨settles.proper, fun possible => settles.returns (equivalent.mp possible),
    fun impossible => settles.refuses fun possible => impossible (equivalent.mpr possible)⟩

theorem parse_refused {α : Type} (codec : Codec α) (cause : Cause) (expressible : Prop) (content : α)
    (settles : codec.Settles cause expressible content) (impossible : ¬ expressible) (layout : Layout)
    (blank : layout.Blank) : ∃ position, codec.parse (codec.write layout content) = .error ⟨cause, some position⟩ := by
  obtain ⟨place, refused⟩ := settles.refuses impossible layout 0 [] [] blank blank_nil stops_nil
  simp only [List.nil_append, List.append_nil] at refused
  exact ⟨_, by simp only [Codec.parse, Codec.write, Value.text, String.toList_ofList, refused]; rfl⟩

theorem convert_settles {α β : Type} (codec : Codec α) (there : α → β) (back : β → α) (cause : Cause)
    (expressible : Prop) (content : β) (settles : codec.Settles cause expressible (back content))
    (inverse : there (back content) = content) : (codec.convert there back).Settles cause expressible content := by
  refine ⟨settles.proper, fun possible => convert_returns codec there back content (settles.returns possible) inverse, ?_⟩
  intro impossible layout depth gap rest blank gapBlank stops
  obtain ⟨place, refused⟩ := settles.refuses impossible layout depth gap rest blank gapBlank stops
  exact ⟨place, by simp only [Codec.convert, refused]⟩

def noNumber : Cause := .wrongType .null "f32"

theorem single_settles (number : Float32)
    (faithful : number.isFinite = true → single.parse (single.write compact number) = .ok number) :
    single.Settles noNumber (number.isFinite = true) number := by
  by_cases finite : number.isFinite = true
  · have returns := single_returns number finite (faithful finite)
    exact ⟨returns.proper, fun _ => returns, fun infinite => absurd finite infinite⟩
  · have value : single.value number = .null := by simp [single, Value.ofSingle, finite]
    refine ⟨by rw [value]; exact .null, fun possible => absurd possible finite, ?_⟩
    intro _ layout depth gap rest _ blank _
    refine ⟨⟨rest, 0⟩, ?_⟩
    rw [value]
    simp [single, readNumber, Value.render, blank, isGap, mismatch, readWord, noNumber, Cause.here]

theorem optional_object_settles {α : Type} (codec : Codec α) (cause : Cause) (expressible : α → Prop) (content : Option α)
    (settles : ∀ inner ∈ content, codec.Settles cause (expressible inner) inner)
    (objects : ∀ inner ∈ content, ∃ members, codec.value inner = .object members) :
    codec.optional.Settles cause (∀ inner ∈ content, expressible inner) content := by
  have possible : (∀ inner ∈ content, expressible inner) → codec.optional.Returns content := by
    intro all
    exact optional_object_returns codec content (fun inner here => (settles inner here).returns (all inner here)) objects
  cases content with
  | none => exact ⟨.null, possible, fun impossible => absurd (by simp) impossible⟩
  | some inner =>
      have inside := settles inner rfl
      refine ⟨inside.proper, possible, ?_⟩
      intro impossible layout depth gap rest blank gapBlank stops
      obtain ⟨place, refused⟩ := inside.refuses (by simpa using impossible) layout depth [] rest blank blank_nil stops
      rw [List.nil_append] at refused
      exact ⟨place, (optional_object_read codec inner layout depth gap rest (objects inner rfl) gapBlank).trans
        (by rw [refused])⟩

inductive Trips {σ : Type} (layout : Layout) (depth : Nat) (readMember : σ → String → Reader σ) (cause : Cause) :
    σ → List (String × Value) → Prop where
  | here (state : σ) (name : String) (value : Value) (members : List (String × Value))
      (first : ∀ rest, Stops rest → ∃ place,
        readMember state name (':' :: (layout.afterColon ++ (value.render layout depth ++ rest))) =
          .error (.placed cause place)) :
      Trips layout depth readMember cause state ((name, value) :: members)
  | later (state next : σ) (name : String) (value : Value) (members : List (String × Value))
      (first : ∀ rest, Stops rest →
        readMember state name (':' :: (layout.afterColon ++ (value.render layout depth ++ rest))) = .ok (next, rest))
      (trips : Trips layout depth readMember cause next members) :
      Trips layout depth readMember cause state ((name, value) :: members)

section Members

variable {σ : Type} (layout : Layout) (blank : layout.Blank) (depth : Nat) (readMember : σ → String → Reader σ)

theorem read_member_tripped (state : σ) (name : String) (first : Bool) (text tail : List Char) (fuel : Nat)
    (fault : Fault) (key : nextKey first text = .ok (some (name.toList.flatMap escapedChar ++ '"' :: tail)))
    (member : readMember state name tail = .error fault) :
    readMembers readMember (fuel + 1) first state text = .error fault := by
  simp only [readMembers, key, read_string_written, member]

include blank

theorem read_members_tripped (cause : Cause) (state : σ) (inner : Nat) (rest : List Char)
    (members : List (String × Value)) (fuel : Nat) (trips : Trips layout inner readMember cause state members)
    (enough : members.length < fuel) :
    ∃ place, readMembers readMember fuel false state
        (renderMembers layout inner members ++ (layout.lineBreak depth ++ '\x7d' :: rest)) =
      .error (.placed cause place) := by
  obtain ⟨fuel, rfl⟩ : ∃ less, fuel = less + 1 := ⟨fuel - 1, by omega⟩
  -- On the way to the member that trips: each one before it is read and changes the state.
  induction trips generalizing fuel with
  | here state name value members first =>
      obtain ⟨place, refused⟩ := first _ (members_stop layout blank depth inner members rest)
      rw [render_members_append]
      exact ⟨place, read_member_tripped readMember state name false _ _ fuel _
        (next_key_comma _ _ (blank.lineBreak inner)) refused⟩
  | later state next name value members first _ ih =>
      obtain ⟨fuel, rfl⟩ : ∃ less, fuel = less + 1 := ⟨fuel - 1, by simp at enough; omega⟩
      have stops := members_stop layout blank depth inner members rest
      rw [render_members_append, read_member_step readMember state next name false _ _ _ _
        (next_key_comma _ _ (blank.lineBreak inner)) (first _ stops)]
      exact ih fuel (by simpa using enough)

theorem read_object_tripped (cause : Cause) (state : σ) (rest : List Char) (members : List (String × Value))
    (trips : Trips layout (depth + 1) readMember cause state members) :
    ∃ body, (Value.object members).render layout depth ++ rest = '\x7b' :: body ∧
      ∃ place, readMembers readMember (body.length + 1) true state body = .error (.placed cause place) := by
  cases trips with
  | here state name value members first =>
      obtain ⟨place, refused⟩ := first _ (members_stop layout blank depth (depth + 1) members rest)
      exact ⟨_, render_object layout depth name value members rest, place,
        read_member_tripped readMember state name true _ _ _ _ (next_key_first _ _ (blank.lineBreak (depth + 1))) refused⟩
  | later state next name value members first trips =>
      refine ⟨_, render_object layout depth name value members rest, ?_⟩
      have stops := members_stop layout blank depth (depth + 1) members rest
      have short := render_members_length layout (depth + 1) members
      rw [read_member_step readMember state next name true _ _ _ _
        (next_key_first _ _ (blank.lineBreak (depth + 1))) (first _ stops)]
      apply read_members_tripped layout blank depth readMember cause next (depth + 1) rest members _ trips
      simp only [List.length_append, List.length_cons]
      omega

end Members

def Fields.Settle (cause : Cause) : {αs : List Type} → Fields αs → Tests αs → Row αs → Prop
  | _, .nil, _, _ => True
  | _, .cons field rest, (test, tests), (content, row) =>
    field.codec.Settles cause (test content) content ∧ rest.Settle cause tests row

section Records

variable {αs : List Type} (cause : Cause)

theorem settle_return (fields : Fields αs) (tests : Tests αs) (row : Row αs) (settle : fields.Settle cause tests row)
    (pass : tests.Pass row) : fields.Return row := by
  induction fields with
  | nil => trivial
  | cons field rest ih => exact ⟨settle.1.returns pass.1, ih tests.2 row.2 settle.2 pass.2⟩

theorem settle_proper (fields : Fields αs) (tests : Tests αs) (row : Row αs) (settle : fields.Settle cause tests row) :
    ∀ member ∈ fields.members row, member.2.Proper := by
  induction fields with
  | nil => simp [Fields.members]
  | cons field rest ih =>
      intro member present
      rcases List.mem_cons.mp present with rfl | present
      · exact settle.1.proper
      · exact ih tests.2 row.2 settle.2 member present

theorem trips_beside {α : Type} (field : Field α) (fields : Fields αs) (slot : Option α) (layout : Layout) (depth : Nat)
    (start : Slots αs) (members : List (String × Value)) (other : field.name ∉ members.map Prod.fst)
    (trips : Trips layout depth fields.readMember cause start members) :
    Trips layout depth (Fields.cons field fields).readMember cause (slot, start) members := by
  induction trips with
  | here state name value members first =>
      have different : field.name ≠ name := by
        intro same
        simp [same] at other
      refine .here _ name value members ?_
      intro rest stops
      obtain ⟨place, refused⟩ := first rest stops
      refine ⟨place, ?_⟩
      simp only [Fields.readMember, different.symm, if_false, refused]
  | later state next name value members first _ ih =>
      obtain ⟨different, other⟩ : field.name ≠ name ∧ field.name ∉ members.map Prod.fst := by simpa using other
      refine .later _ (slot, next) name value members ?_ (ih other)
      intro rest stops
      simp only [Fields.readMember, different.symm, if_false, first rest stops]
      rfl

theorem settle_trips (fields : Fields αs) (tests : Tests αs) (row : Row αs) (settle : fields.Settle cause tests row)
    (fail : ¬ tests.Pass row) (distinct : fields.names.Nodup) (layout : Layout) (blank : layout.Blank) (depth : Nat) :
    Trips layout depth fields.readMember cause (Slots.empty αs) (fields.members row) := by
  induction fields with
  | nil => exact absurd trivial fail
  | cons field rest ih =>
      obtain ⟨test, tests⟩ := tests
      obtain ⟨content, row⟩ := row
      obtain ⟨first, later⟩ := settle
      obtain ⟨new, distinct⟩ := List.nodup_cons.mp distinct
      -- If this field passes, the one that fails is among the rest.
      by_cases possible : test content
      · have other : field.name ∉ (rest.members row).map Prod.fst := by rwa [members_names]
        have trips := ih tests row later (fun pass => fail ⟨possible, pass⟩) distinct
        refine .later _ (some content, Slots.empty _) field.name _ _ ?_
          (trips_beside cause field rest (some content) layout depth _ _ other trips)
        intro left stops
        simp only [Fields.readMember, Slots.empty, if_true, read_colon,
          (first.returns possible).read layout depth _ left blank blank.afterColon stops]
        rfl
      · refine .here _ field.name _ _ ?_
        intro left stops
        obtain ⟨place, refused⟩ := first.refuses possible layout depth _ left blank blank.afterColon stops
        exact ⟨place, by simp only [Fields.readMember, Slots.empty, if_true, read_colon, refused]⟩

theorem fields_settles (fields : Fields αs) (kind : String) (tests : Tests αs) (row : Row αs)
    (settle : fields.Settle cause tests row) (distinct : fields.names.Nodup) :
    (fields.codec kind).Settles cause (tests.Pass row) row := by
  refine ⟨.object _ (settle_proper cause fields tests row settle),
    fun pass => fields_returns fields kind row (settle_return cause fields tests row settle pass) distinct, ?_⟩
  intro fail layout depth gap rest blank gapBlank _
  have trips := settle_trips cause fields tests row settle fail distinct layout blank (depth + 1)
  obtain ⟨body, shape, place, refused⟩ := read_object_tripped layout blank depth fields.readMember cause _ rest _ trips
  refine ⟨place, ?_⟩
  simp only [Fields.codec]
  rw [shape, Fields.read, skip_gaps_to gap body '\x7b' gapBlank rfl]
  simp only [Fields.readObject, refused, closing]

theorem record_settles {α : Type} (name : String) (fields : Fields αs) (there : Row αs → α) (back : α → Row αs)
    (content : α) (expressible : Prop) (tests : Tests αs) (settle : fields.Settle cause tests (back content))
    (inverse : there (back content) = content) (distinct : fields.names.Nodup)
    (equivalent : expressible ↔ tests.Pass (back content)) :
    (record name fields there back).Settles cause expressible content := by
  have settles := fields_settles cause fields ("struct " ++ name) tests (back content) settle distinct
  exact settles_congr _ cause _ _ _ (convert_settles _ there back cause _ content settles inverse) equivalent

end Records

end Plotter.Json
