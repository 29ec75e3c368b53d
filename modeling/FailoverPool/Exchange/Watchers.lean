import FailoverPool.Protocol.Frame

/-!
Who watches which key of the server.

A key has an entry exactly as long as somebody watches it, and its watchers stand in the order in
which they were registered.
-/

namespace FailoverPool

/-- What names a registered watcher: its number, and the key it watches. -/
structure WatcherHandle where
  id : Nat
  key : String
  deriving DecidableEq, Repr, Inhabited

/-- What a watcher's callback does when it runs, beside taking note of the event: it unregisters
some watchers in turn, and it may end in a panic. -/
structure Reaction where
  unregisters : List WatcherHandle
  panics : Bool
  deriving DecidableEq, Repr, Inhabited

/-- How a callback ends. -/
inductive CallbackEnd where
  | returned
  | panicked
  deriving DecidableEq, Repr

def Reaction.ending (reaction : Reaction) : CallbackEnd :=
  if reaction.panics then .panicked else .returned

structure Watcher where
  id : Nat
  reaction : Reaction
  deriving DecidableEq, Repr, Inhabited

structure WatcherCall where
  watcher : Nat
  key : String
  value : Option Value

abbrev WatcherRegistry := List (String × List Watcher)

namespace WatcherRegistry

def watchersOf : WatcherRegistry → String → List Watcher
  | [], _ => []
  | (other, watchers) :: rest, key => if other = key then watchers else watchersOf rest key

/-- Register a watcher behind those that its key has. -/
def add : WatcherRegistry → String → Watcher → WatcherRegistry
  | [], key, watcher => [(key, [watcher])]
  | (other, watchers) :: rest, key, watcher =>
      if other = key then (other, watchers ++ [watcher]) :: rest
      else (other, watchers) :: add rest key watcher

/-- Remove a watcher; a key without watchers loses its entry. -/
def remove (registry : WatcherRegistry) (handle : WatcherHandle) : WatcherRegistry :=
  registry.filterMap fun (key, watchers) =>
    if key = handle.key then
      match watchers.filter (·.id ≠ handle.id) with
      | [] => none
      | left => some (key, left)
    else some (key, watchers)

def isUnwatched (registry : WatcherRegistry) (key : String) : Bool :=
  (registry.watchersOf key).isEmpty

end WatcherRegistry

end FailoverPool
