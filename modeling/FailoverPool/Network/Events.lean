import FailoverPool.Protocol.Stream

/-!
News of connections: each connection tells the queue it was opened with when it becomes connected
and when it closes. A queue that is full, or that nobody reads any more, drops what it is told.
-/

namespace FailoverPool

inductive EventKind where
  | connected
  | closed
  deriving DecidableEq, Repr

structure Event where
  connection : ConnectionId
  kind : EventKind
  deriving DecidableEq, Repr

/-- Events that wait to be handled, oldest first. -/
structure EventQueue where
  capacity : Nat
  events : List Event
  isRead : Bool
  deriving DecidableEq, Repr, Inhabited

namespace EventQueue

def ofCapacity (capacity : Nat) : EventQueue := ⟨capacity, [], true⟩

def emit (queue : EventQueue) (event : Event) : EventQueue :=
  if queue.isRead && queue.events.length < queue.capacity then
    { queue with events := queue.events ++ [event] }
  else queue

/-- Nobody reads the queue any more. -/
def abandon (queue : EventQueue) : EventQueue := { queue with events := [], isRead := false }

end EventQueue

end FailoverPool
