import Plotter.Json.Choice

set_option autoImplicit false

namespace Plotter

inductive NoticeLevel where
  | warning
  | error
deriving DecidableEq, Repr

def NoticeLevel.name : NoticeLevel → String
  | .warning => "Warning"
  | .error => "Error"

def NoticeLevel.codec : Json.Codec NoticeLevel where
  read := Json.readChoice [.unit "Warning" .warning, .unit "Error" .error]
  value level := .string level.name

structure Notice where
  level : NoticeLevel
  message : String
deriving DecidableEq, Repr

structure NoticeQueue where
  items : List Notice
  capacity : Nat
deriving DecidableEq, Repr

namespace NoticeQueue

def create (capacity : Nat) : NoticeQueue := ⟨[], max capacity 1⟩

def push (queue : NoticeQueue) (notice : Notice) : NoticeQueue :=
  let kept := if queue.items.length = queue.capacity then queue.items.drop 1 else queue.items
  { queue with items := kept ++ [notice] }

def size (queue : NoticeQueue) : Nat := queue.items.length

def latest? (queue : NoticeQueue) : Option Notice := queue.items.getLast?

def drain (queue : NoticeQueue) : List Notice × NoticeQueue :=
  (queue.items, { queue with items := [] })

end NoticeQueue

end Plotter
