import Plotter.Notice
import Plotter.Timestamp.Reader

set_option autoImplicit false

namespace Plotter

structure Notification where
  notice : Notice
  moment : Timestamp
deriving DecidableEq, Repr

def Notification.codec : Json.Codec Notification :=
  Json.record "Notification"
    (.cons ⟨"level", NoticeLevel.codec, .fault⟩
      (.cons ⟨"message", Json.string, .fault⟩ (.cons ⟨"at", Timestamp.codec, .fault⟩ .nil)))
    (fun (level, message, moment, _) => ⟨⟨level, message⟩, moment⟩)
    (fun stamped => (stamped.notice.level, stamped.notice.message, stamped.moment, ()))

end Plotter
