import Plotter.Proofs.JsonRefusals
import Plotter.Session.Snapshot

/-!
Snapshots as documents. A bare snapshot and one under a schema version are read by one reader: neither is ever taken
for the other, and a version that this library does not know is refused. What has been read can be written and read once
more exactly when its cameras are finite.
-/

set_option autoImplicit false

namespace Plotter

open Json

theorem viewport_returns (viewport : Viewport) : Viewport.codec.Returns viewport :=
  record_returns _ _ _ _ viewport ⟨word32_returns _, word32_returns _, trivial⟩ rfl (by simp [Fields.names])

theorem loop_state_returns (state : LoopState) : LoopState.codec.Returns state := by
  cases state <;> exact plain_choice_returns _ _ _ _ _ rfl rfl rfl

theorem interaction_mode_returns (mode : InteractionMode) : InteractionMode.codec.Returns mode := by
  cases mode <;> exact plain_choice_returns _ _ _ _ _ rfl rfl rfl

theorem status_returns (status : EngineStatus) : EngineStatus.codec.Returns status := by
  have message (text : String) : EngineStatus.messageFields.Return (text, ()) := ⟨string_returns text, trivial⟩
  have distinct : EngineStatus.messageFields.names.Nodup := by simp [EngineStatus.messageFields, Fields.names]
  cases status with
  | loading => exact plain_choice_returns _ _ _ _ _ rfl rfl rfl
  | ready => exact plain_choice_returns _ _ _ _ _ rfl rfl rfl
  | released => exact plain_choice_returns _ _ _ _ _ rfl rfl rfl
  | unsupported text =>
      exact record_choice_returns _ _ "EngineStatus" "Unsupported" EngineStatus.messageFields
        (fun row => .unsupported row.1) (text, ()) _ rfl rfl rfl (message text) distinct
  | failed text =>
      exact record_choice_returns _ _ "EngineStatus" "Failed" EngineStatus.messageFields
        (fun row => .failed row.1) (text, ()) _ rfl rfl rfl (message text) distinct

def Camera.numbers (camera : Camera) : List Float32 := [camera.rotationX, camera.rotationY, camera.zoom]

theorem camera_settles (camera : Camera)
    (faithful : ∀ number ∈ camera.numbers, number.isFinite = true →
      single.parse (single.write compact number) = .ok number) :
    Camera.codec.Settles noNumber (camera.isFinite = true) camera := by
  simp only [Camera.numbers, List.forall_mem_cons] at faithful
  obtain ⟨rotationX, rotationY, zoom, -⟩ := faithful
  refine record_settles noNumber _ _ _ _ camera _
    ⟨fun number => number.isFinite = true, fun number => number.isFinite = true, fun number => number.isFinite = true, ()⟩
    ⟨single_settles _ rotationX, single_settles _ rotationY, single_settles _ zoom, trivial⟩ rfl (by simp [Fields.names]) ?_
  simp [Camera.isFinite, Tests.Pass, and_assoc]

theorem camera_returns (camera : Camera) (finite : camera.isFinite = true)
    (faithful : ∀ number ∈ camera.numbers, number.isFinite = true →
      single.parse (single.write compact number) = .ok number) : Camera.codec.Returns camera :=
  (camera_settles camera faithful).returns finite

def Snapshot.cameras (snapshot : Snapshot) : List Camera := snapshot.targetCamera :: snapshot.liveCamera.toList

theorem snapshot_settles (snapshot : Snapshot) (cause : Cause) (expressible : Camera → Prop)
    (cameras : ∀ camera ∈ snapshot.cameras, Camera.codec.Settles cause (expressible camera) camera) :
    Snapshot.codec.Settles cause (∀ camera ∈ snapshot.cameras, expressible camera) snapshot := by
  have target := cameras snapshot.targetCamera (by simp [Snapshot.cameras])
  have live : Camera.codec.optional.Settles cause (∀ camera ∈ snapshot.liveCamera, expressible camera) snapshot.liveCamera :=
    optional_object_settles _ cause expressible _
      (fun camera present => cameras camera (by simp [Snapshot.cameras, Option.mem_def.mp present]))
      (fun camera _ => ⟨_, rfl⟩)
  refine record_settles cause _ _ _ _ snapshot _
    ⟨fun _ => True, fun _ => True, fun _ => True, fun _ => True, expressible,
      fun live => ∀ camera ∈ live, expressible camera, fun _ => True, fun _ => True, fun _ => True, fun _ => True, ()⟩
    ⟨returns_settles _ _ _ (string_returns _), returns_settles _ _ _ (status_returns _),
      returns_settles _ _ _ (loop_state_returns _), returns_settles _ _ _ (viewport_returns _), target, live,
      returns_settles _ _ _ (interaction_mode_returns _), returns_settles _ _ _ (word64_returns _),
      returns_settles _ _ _ (word64_returns _), returns_settles _ _ _ (size64_returns _), trivial⟩ rfl
    (by simp [Fields.names]) ?_
  simp [Snapshot.cameras, Tests.Pass]

theorem snapshot_returns (snapshot : Snapshot) (cameras : ∀ camera ∈ snapshot.cameras, Camera.codec.Returns camera) :
    Snapshot.codec.Returns snapshot :=
  (snapshot_settles snapshot noNumber (fun _ => True) fun camera present =>
    returns_settles _ _ _ (cameras camera present)).returns fun _ _ => trivial

theorem versioned_settles (versioned : VersionedSnapshot) (cause : Cause) (expressible : Prop)
    (settles : Snapshot.codec.Settles cause expressible versioned.snapshot) :
    VersionedSnapshot.codec.Settles cause expressible versioned := by
  refine record_settles cause _ _ _ _ versioned _ ⟨fun _ => True, fun _ => expressible, ()⟩
    ⟨returns_settles _ _ _ (word32_returns _), settles, trivial⟩ rfl (by simp [Fields.names]) ?_
  simp [Tests.Pass]

theorem versioned_returns (versioned : VersionedSnapshot) (returns : Snapshot.codec.Returns versioned.snapshot) :
    VersionedSnapshot.codec.Returns versioned :=
  (versioned_settles versioned noNumber True (returns_settles _ _ _ returns)).returns trivial

theorem versioned_is_not_bare (versioned : VersionedSnapshot) (proper : (VersionedSnapshot.codec.value versioned).Proper)
    (layout : Layout) (blank : layout.Blank) :
    ∃ failure, Snapshot.codec.parse (VersionedSnapshot.codec.write layout versioned) = .error failure :=
  ⟨_, foreign_object_missing "SessionSnapshot" _ _ _ "surface" rfl
    [("schema_version", word32.value versioned.schemaVersion), ("snapshot", Snapshot.codec.value versioned.snapshot)]
    (by simp [Fields.names]) (object_proper _ proper) layout blank⟩

theorem bare_read (snapshot : Snapshot) (returns : Snapshot.codec.Returns snapshot) (layout : Layout)
    (blank : layout.Blank) : Snapshot.ofJson (Snapshot.codec.write layout snapshot) = .ok snapshot := by
  simp only [Snapshot.ofJson, parse_write Snapshot.codec snapshot returns layout blank]

theorem versioned_read (versioned : VersionedSnapshot) (returns : Snapshot.codec.Returns versioned.snapshot)
    (layout : Layout) (blank : layout.Blank) :
    Snapshot.ofJson (VersionedSnapshot.codec.write layout versioned) =
      if versioned.schemaVersion = Snapshot.schemaVersion then .ok versioned.snapshot
      else .error (.invalidData (.schemaUnsupported versioned.schemaVersion)) := by
  have whole := versioned_returns versioned returns
  obtain ⟨failure, refused⟩ := versioned_is_not_bare versioned whole.proper layout blank
  simp only [Snapshot.ofJson, refused, parse_write VersionedSnapshot.codec versioned whole layout blank]

theorem versioned_refused (versioned : VersionedSnapshot) (cause : Cause) (expressible : Prop)
    (settles : Snapshot.codec.Settles cause expressible versioned.snapshot) (impossible : ¬ expressible) (layout : Layout)
    (blank : layout.Blank) :
    ∃ position, Snapshot.ofJson (VersionedSnapshot.codec.write layout versioned) =
      .error (.invalidData (.snapshotUnreadable ⟨cause, some position⟩)) := by
  have whole := versioned_settles versioned cause expressible settles
  obtain ⟨failure, notBare⟩ := versioned_is_not_bare versioned whole.proper layout blank
  obtain ⟨position, refused⟩ := parse_refused _ cause expressible versioned whole impossible layout blank
  exact ⟨position, by simp only [Snapshot.ofJson, notBare, refused]⟩

theorem snapshot_json_contract (snapshot : Snapshot) (finite : ∀ camera ∈ snapshot.cameras, camera.isFinite = true)
    (faithful : ∀ camera ∈ snapshot.cameras, ∀ number ∈ camera.numbers, number.isFinite = true →
      single.parse (single.write compact number) = .ok number)
    (layout : Layout) (either : layout = compact ∨ layout = pretty) :
    Snapshot.ofJson (VersionedSnapshot.codec.write layout ⟨1, snapshot⟩) = .ok snapshot ∧
      (∀ version : UInt32, version ≠ 1 → ∃ defect,
        Snapshot.ofJson (VersionedSnapshot.codec.write layout ⟨version, snapshot⟩) = .error (.invalidData defect) ∧
          defect.text = "unsupported snapshot schema version: " ++ toString version.toNat) ∧
      Snapshot.ofJson (Snapshot.codec.write layout snapshot) = .ok snapshot ∧
      snapshot.toJson = VersionedSnapshot.codec.write pretty ⟨1, snapshot⟩ := by
  have blank : layout.Blank := by
    rcases either with rfl | rfl
    · exact compact_blank
    · exact pretty_blank
  have returns := snapshot_returns snapshot fun camera present =>
    camera_returns camera (finite camera present) (faithful camera present)
  refine ⟨versioned_read ⟨1, snapshot⟩ returns layout blank, ?_, bare_read snapshot returns layout blank, rfl⟩
  intro version other
  exact ⟨.schemaUnsupported version, (versioned_read ⟨version, snapshot⟩ returns layout blank).trans (if_neg other), rfl⟩

def Snapshot.tangled : Snapshot where
  surface := "tab\t \"quoted\" \\ é"
  status := .failed "lost\x01\n"
  loopState := .running
  viewport := ⟨800, 600⟩
  targetCamera := ⟨-0.1, -0.0, 1e-7⟩
  liveCamera := some ⟨0.5, 16777216, 1e20⟩
  interactionMode := .dragging
  ticksRendered := 18446744073709551615
  tickFaults := 0
  pendingNotifications := 3

theorem snapshot_json_contract_tangled :
    Snapshot.ofJson (VersionedSnapshot.codec.write pretty ⟨1, Snapshot.tangled⟩) = .ok Snapshot.tangled ∧
      (∃ defect, Snapshot.ofJson (VersionedSnapshot.codec.write pretty ⟨7, Snapshot.tangled⟩) =
        .error (.invalidData defect) ∧ defect.text = "unsupported snapshot schema version: 7") ∧
      Snapshot.ofJson (Snapshot.codec.write pretty Snapshot.tangled) = .ok Snapshot.tangled := by
  obtain ⟨known, unknown, bare, -⟩ := snapshot_json_contract Snapshot.tangled (by decide +kernel) (by decide +kernel)
    pretty (.inr rfl)
  exact ⟨known, unknown 7 (by decide), bare⟩

/-- A camera that a text brings may still be infinite: a decimal number beyond single precision is read as such. -/
theorem accepted_snapshot_rewritten (text : String) (snapshot : Snapshot) (accepted : Snapshot.ofJson text = .ok snapshot)
    (faithful : ∀ camera ∈ snapshot.cameras, ∀ number ∈ camera.numbers, number.isFinite = true →
      single.parse (single.write compact number) = .ok number) :
    (Snapshot.ofJson snapshot.toJson = Snapshot.ofJson text ↔ ∀ camera ∈ snapshot.cameras, camera.isFinite = true) ∧
      ((∃ camera ∈ snapshot.cameras, camera.isFinite = false) → ∃ position,
        Snapshot.ofJson snapshot.toJson =
          .error (.invalidData (.snapshotUnreadable ⟨.wrongType .null "f32", some position⟩))) := by
  have settles := snapshot_settles snapshot noNumber (fun camera => camera.isFinite = true) fun camera present =>
    camera_settles camera (faithful camera present)
  have refused (infinite : ¬ ∀ camera ∈ snapshot.cameras, camera.isFinite = true) :=
    versioned_refused ⟨Snapshot.schemaVersion, snapshot⟩ noNumber _ settles infinite pretty pretty_blank
  refine ⟨⟨?_, ?_⟩, ?_⟩
  · intro same
    by_contra infinite
    obtain ⟨position, fault⟩ := refused infinite
    have contradiction : Snapshot.ofJson snapshot.toJson = .ok snapshot := same.trans accepted
    rw [Snapshot.toJson, fault] at contradiction
    cases contradiction
  · intro finite
    have read := versioned_read ⟨Snapshot.schemaVersion, snapshot⟩ (settles.returns finite) pretty pretty_blank
    rw [accepted, Snapshot.toJson, read, if_pos rfl]
  · rintro ⟨camera, present, infinite⟩
    exact refused fun finite => by simp [finite camera present] at infinite

def Snapshot.foreignText : String :=
  -- an unknown member, records as lists, numbers in several spellings and escapes.
  "\x7b\"x\":1e999,\"snapshot\":[\"\\ud83d\\ude00\\u0001\",\x7b\"Failed\":[\"\\\"\"]\x7d,\"Running\",[8,6],[0.1,-7e-46,1]," ++
    "[5E-1,-0,1],\"Idle\",3,0,7],\"schema_version\":1\x7d"

def Snapshot.foreign : Snapshot where
  surface := "😀\x01"
  status := .failed "\""
  loopState := .running
  viewport := ⟨8, 6⟩
  targetCamera := ⟨0.1, -0.0, 1⟩
  liveCamera := some ⟨0.5, -0.0, 1⟩
  interactionMode := .idle
  ticksRendered := 3
  tickFaults := 0
  pendingNotifications := 7

theorem accepted_snapshot_rewritten_foreign :
    Snapshot.ofJson Snapshot.foreignText = .ok Snapshot.foreign ∧
      Snapshot.ofJson Snapshot.foreign.toJson = Snapshot.ofJson Snapshot.foreignText := by
  have accepted : Snapshot.ofJson Snapshot.foreignText = .ok Snapshot.foreign := by decide +kernel
  have rewritten := accepted_snapshot_rewritten Snapshot.foreignText Snapshot.foreign accepted (by decide +kernel)
  exact ⟨accepted, rewritten.1.mpr (by decide +kernel)⟩

def Snapshot.overflowing : Snapshot where
  surface := ""
  status := .ready
  loopState := .stopped
  viewport := ⟨8, 6⟩
  targetCamera := ⟨.ofBits 0x7f800000, 0, 1⟩
  liveCamera := none
  interactionMode := .idle
  ticksRendered := 0
  tickFaults := 0
  pendingNotifications := 0

theorem overflowing_snapshot_is_lost :
    Snapshot.ofJson "[\"\",\"Ready\",\"Stopped\",[8,6],[1e39,0,1],null,\"Idle\",0,0,0]" = .ok Snapshot.overflowing ∧
      ∃ position, Snapshot.ofJson Snapshot.overflowing.toJson =
        .error (.invalidData (.snapshotUnreadable ⟨.wrongType .null "f32", some position⟩)) := by
  have settles := snapshot_settles Snapshot.overflowing noNumber (fun camera => camera.isFinite = true)
    fun camera present => camera_settles camera (by revert camera; decide +kernel)
  have infinite : ¬ ∀ camera ∈ Snapshot.overflowing.cameras, camera.isFinite = true := by decide +kernel
  exact ⟨by decide +kernel, versioned_refused ⟨1, Snapshot.overflowing⟩ noNumber _ settles infinite pretty pretty_blank⟩

end Plotter
