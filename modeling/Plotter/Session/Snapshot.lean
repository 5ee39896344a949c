import Plotter.Camera.Controller
import Plotter.Session.Status

set_option autoImplicit false

namespace Plotter

structure Snapshot where
  surface : String
  status : EngineStatus
  loopState : LoopState
  viewport : Viewport
  targetCamera : Camera
  liveCamera : Option Camera
  interactionMode : InteractionMode
  ticksRendered : UInt64
  tickFaults : UInt64
  pendingNotifications : UInt64
deriving BEq, DecidableEq

structure VersionedSnapshot where
  schemaVersion : UInt32
  snapshot : Snapshot
deriving BEq, DecidableEq

namespace Snapshot

def schemaVersion : UInt32 := 1

def codec : Json.Codec Snapshot :=
  Json.record "SessionSnapshot"
    (.cons ⟨"surface", Json.string, .fault⟩
      (.cons ⟨"status", EngineStatus.codec, .fault⟩
        (.cons ⟨"loop_state", LoopState.codec, .fault⟩
          (.cons ⟨"viewport", Viewport.codec, .fault⟩
            (.cons ⟨"target_camera", Camera.codec, .fault⟩
              (.cons ⟨"live_camera", Camera.codec.optional, .omitted none⟩
                (.cons ⟨"interaction_mode", InteractionMode.codec, .fault⟩
                  (.cons ⟨"ticks_rendered", Json.word64, .fault⟩
                    (.cons ⟨"tick_faults", Json.word64, .fault⟩
                      (.cons ⟨"pending_notifications", Json.size64, .fault⟩ .nil))))))))))
    (fun (surface, status, loopState, viewport, target, live, mode, rendered, faults, pending, _) =>
      ⟨surface, status, loopState, viewport, target, live, mode, rendered, faults, pending⟩)
    (fun snapshot =>
      (snapshot.surface, snapshot.status, snapshot.loopState, snapshot.viewport,
        snapshot.targetCamera, snapshot.liveCamera, snapshot.interactionMode,
        snapshot.ticksRendered, snapshot.tickFaults, snapshot.pendingNotifications, ()))

end Snapshot

def VersionedSnapshot.codec : Json.Codec VersionedSnapshot :=
  Json.record "SessionSnapshotJsonContractV1"
    (.cons ⟨"schema_version", Json.word32, .fault⟩
      (.cons ⟨"snapshot", Snapshot.codec, .fault⟩ .nil))
    (fun (version, snapshot, _) => ⟨version, snapshot⟩)
    (fun versioned => (versioned.schemaVersion, versioned.snapshot, ()))

namespace Snapshot

def toJson (snapshot : Snapshot) : String :=
  VersionedSnapshot.codec.write Json.pretty ⟨schemaVersion, snapshot⟩

def ofJson (text : String) : Except Error Snapshot :=
  match codec.parse text with
  | .ok snapshot => .ok snapshot
  | .error _ =>
    match VersionedSnapshot.codec.parse text with
    | .error failure => .error (.invalidData (.snapshotUnreadable failure))
    | .ok versioned =>
      if versioned.schemaVersion = schemaVersion then .ok versioned.snapshot
      else .error (.invalidData (.schemaUnsupported versioned.schemaVersion))

end Snapshot

end Plotter
