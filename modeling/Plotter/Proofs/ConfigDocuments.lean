import Plotter.Proofs.CameraRange
import Plotter.Proofs.SnapshotContract

set_option autoImplicit false

namespace Plotter

open Json

def Tuning.numbers (tuning : Tuning) : List Float32 :=
  [tuning.panSensitivity, tuning.zoomSensitivity, tuning.smoothingFactor, tuning.minZoom]

def Config.numbers (config : Config) : List Float32 := config.tuning.numbers ++ config.initialTarget.numbers

theorem tuning_settles (tuning : Tuning)
    (faithful : ∀ number ∈ tuning.numbers, number.isFinite = true →
      single.parse (single.write compact number) = .ok number) :
    Tuning.codec.Settles noNumber (∀ number ∈ tuning.numbers, number.isFinite = true) tuning := by
  simp only [Tuning.numbers, List.forall_mem_cons] at faithful
  obtain ⟨pan, zoom, smoothing, minZoom, -⟩ := faithful
  refine record_settles noNumber _ _ _ _ tuning _
    ⟨fun number => number.isFinite = true, fun number => number.isFinite = true, fun number => number.isFinite = true,
      fun number => number.isFinite = true, ()⟩
    ⟨single_settles _ pan, single_settles _ zoom, single_settles _ smoothing, single_settles _ minZoom, trivial⟩ rfl
    (by simp [Fields.names]) ?_
  simp [Tuning.numbers, Tests.Pass]

theorem camera_finite_iff (camera : Camera) :
    camera.isFinite = true ↔ ∀ number ∈ camera.numbers, number.isFinite = true := by
  simp [Camera.isFinite, Camera.numbers, and_assoc]

theorem config_settles (config : Config)
    (faithful : ∀ number ∈ config.numbers, number.isFinite = true →
      single.parse (single.write compact number) = .ok number) :
    Config.codec.Settles noNumber (∀ number ∈ config.numbers, number.isFinite = true) config := by
  obtain ⟨tuning, target⟩ := List.forall_mem_append.mp faithful
  refine record_settles noNumber _ _ _ _ config _
    ⟨fun _ => True, fun tuning => ∀ number ∈ tuning.numbers, number.isFinite = true, fun target => target.isFinite = true,
      fun _ => True, fun _ => True, ()⟩
    ⟨returns_settles _ _ _ (viewport_returns _), tuning_settles _ tuning, camera_settles _ target,
      returns_settles _ _ _ (word32_returns _), returns_settles _ _ _ (size64_returns _), trivial⟩ rfl
    (by simp [Fields.names]) ?_
  simp only [Config.numbers, List.forall_mem_append, Tests.Pass, camera_finite_iff, true_and, and_true]

/-- The smoothing factor is not checked to be finite, but only a finite number lies between zero and one. -/
theorem valid_tuning_finite (tuning : Tuning) (valid : tuning.validate = .ok ()) :
    ∀ number ∈ tuning.numbers, number.isFinite = true := by
  obtain ⟨⟨pan, zoom⟩, ⟨positive, limited⟩, ⟨minZoom, -⟩⟩ := tuning_valid tuning valid
  have smoothing := (Binary.fraction_units tuning.smoothingFactor positive limited).1
  simp [Tuning.numbers, pan, zoom, smoothing, minZoom]

theorem valid_config_finite (config : Config) (valid : config.validate = .ok ()) :
    ∀ number ∈ config.numbers, number.isFinite = true := by
  rw [Config.validate] at valid
  split at valid
  · cases valid
  · split at valid
    · cases valid
    · rename_i tuned
      split at valid
      · cases valid
      · rename_i aimed
        have target : config.initialTarget.isFinite = true := by simpa using aimed
        exact List.forall_mem_append.mpr
          ⟨valid_tuning_finite config.tuning tuned, (camera_finite_iff config.initialTarget).mp target⟩

theorem read_config_valid (text : String) (config : Config) (read : Config.ofJson text = .ok config) :
    config.validate = .ok () := by
  rw [Config.ofJson] at read
  split at read
  · cases read
  · split at read
    · cases read
    · rename_i valid
      cases read
      exact valid

theorem expressible_config_read (config : Config) (returns : Config.codec.Returns config) :
    Config.ofJson config.toJson = config.validate.map fun _ => config := by
  simp only [Config.ofJson, Config.toJson, parse_write Config.codec config returns pretty pretty_blank]
  cases config.validate <;> rfl

theorem config_survives_exactly_if_valid (config : Config)
    (faithful : ∀ number ∈ config.numbers, number.isFinite = true →
      single.parse (single.write compact number) = .ok number) :
    (Config.ofJson config.toJson = .ok config ↔ config.validate = .ok ()) ∧
      (∀ error, config.validate = .error error → ∃ refusal, Config.ofJson config.toJson = .error refusal ∧
        ((∀ number ∈ config.numbers, number.isFinite = true) → refusal = error) ∧
        ((∃ number ∈ config.numbers, number.isFinite = false) → ∃ position,
          refusal = .invalidData (.configUnreadable ⟨.wrongType .null "f32", some position⟩))) ∧
      (∀ text read, Config.ofJson text = .ok read → read.validate = .ok ()) := by
  have settles := config_settles config faithful
  refine ⟨⟨read_config_valid config.toJson config, ?_⟩, ?_, read_config_valid⟩
  · intro valid
    rw [expressible_config_read config (settles.returns (valid_config_finite config valid)), valid, Except.map]
  · intro error invalid
    -- A number that is not finite is written as null, and the reader stops there before validation runs.
    by_cases finite : ∀ number ∈ config.numbers, number.isFinite = true
    · have read := expressible_config_read config (settles.returns finite)
      rw [invalid] at read
      refine ⟨error, read, fun _ => rfl, ?_⟩
      rintro ⟨number, present, infinite⟩
      simp [finite number present] at infinite
    · obtain ⟨position, refused⟩ := parse_refused Config.codec noNumber _ config settles finite pretty pretty_blank
      refine ⟨.invalidData (.configUnreadable ⟨noNumber, some position⟩), ?_, fun absurdity => absurd absurdity finite,
        fun _ => ⟨position, rfl⟩⟩
      rw [Config.ofJson, Config.toJson, refused]

def Config.extreme : Config where
  viewport := ⟨1, 4294967295⟩
  tuning := ⟨-0.0, 3.4028235e38, 1, 1e-45⟩
  initialTarget := ⟨0.1, -1e20, 16777216⟩
  targetFrameRate := 1
  notificationCapacity := 18446744073709551615

def Config.unaimed : Config := { Config.extreme with initialTarget := ⟨0.1, 0 / 0, 1⟩ }

theorem config_survives_exactly_if_valid_extreme :
    Config.ofJson Config.extreme.toJson = .ok Config.extreme ∧
      Config.unaimed.validate = .error (.invalidData .targetNotFinite) ∧
      ∃ position, Config.ofJson Config.unaimed.toJson =
        .error (.invalidData (.configUnreadable ⟨.wrongType .null "f32", some position⟩)) := by
  have invalid : Config.unaimed.validate = .error (.invalidData .targetNotFinite) := by decide +kernel
  obtain ⟨survives, -, -⟩ := config_survives_exactly_if_valid Config.extreme (by decide +kernel)
  obtain ⟨-, refused, -⟩ := config_survives_exactly_if_valid Config.unaimed (by decide +kernel)
  obtain ⟨refusal, read, -, unreadable⟩ := refused _ invalid
  obtain ⟨position, rfl⟩ := unreadable
    ⟨Config.unaimed.initialTarget.rotationY, by simp [Config.numbers, Camera.numbers], by decide +kernel⟩
  exact ⟨survives.mpr (by decide +kernel), invalid, position, read⟩

end Plotter
