import FailoverPool.Network.Basic
import FailoverPool.Options
import FailoverPool.Text.Quoted

/-!
A pool: the tracked addresses, at most one installed connection for each address, and the choice of
the connection that serves requests.

Requests go to the connected entry that comes first in tracked order. When there is none, they go
to the last known connection, whose refusal then reaches the caller.
-/

namespace FailoverPool

/-- The installed connection of each address that has one. -/
abbrev Entries := List (String × ConnectionId)

namespace Entries

def installed? : Entries → String → Option ConnectionId
  | [], _ => none
  | (other, id) :: rest, address => if other = address then some id else installed? rest address

def put : Entries → String → ConnectionId → Entries
  | [], address, id => [(address, id)]
  | (other, installed) :: rest, address, id =>
      if other = address then (address, id) :: rest else (other, installed) :: put rest address id

def remove (entries : Entries) (address : String) : Entries :=
  entries.filter fun entry => entry.1 ≠ address

/-- The connections, in the order in which their addresses were first installed. -/
def connections (entries : Entries) : List ConnectionId := entries.map (·.2)

theorem installed?_put (entries : Entries) (address other : String) (id : ConnectionId) :
    (entries.put address id).installed? other =
      if address = other then some id else entries.installed? other := by
  induction entries with
  | nil => simp [put, installed?]
  | cons entry rest inductionHypothesis =>
      obtain ⟨first, installed⟩ := entry
      by_cases replaced : first = address
      · by_cases same : address = other <;> simp [put, installed?, replaced, same]
      · by_cases same : first = other
        · subst same
          simp [put, installed?, replaced, Ne.symm replaced]
        · simp [put, installed?, replaced, same, inductionHypothesis]

theorem installed?_remove (entries : Entries) (address other : String) :
    (entries.remove address).installed? other =
      if address = other then none else entries.installed? other := by
  induction entries with
  | nil => simp [remove, installed?]
  | cons entry rest inductionHypothesis =>
      obtain ⟨first, installed⟩ := entry
      simp only [remove] at inductionHypothesis
      by_cases removed : first = address
      · by_cases same : address = other
        · subst removed same
          simpa [remove] using inductionHypothesis
        · have different : first ≠ other := fun equal => same (removed.symm.trans equal)
          simpa [remove, installed?, removed, same, different] using inductionHypothesis
      · by_cases same : first = other
        · subst same
          simp [remove, installed?, removed, Ne.symm removed]
        · simpa [remove, installed?, removed, same] using inductionHypothesis

end Entries

structure Pool where
  tracked : List String
  entries : Entries
  /-- The connection that was chosen last when none was connected. -/
  fallback : Option ConnectionId
  isClosed : Bool
  /-- Some handle of the pool is still held. -/
  isHeld : Bool
  /-- Where its connections report. -/
  queue : QueueId
  options : PoolOptions
  deriving DecidableEq, Repr, Inhabited

namespace Pool

/-- The installed connections of the tracked addresses, in tracked order. -/
def candidates (pool : Pool) : List ConnectionId := pool.tracked.filterMap pool.entries.installed?

/-- Choose the connection that requests go to: the first connected candidate, else the last
candidate, which is remembered, else the one remembered. -/
def select (pool : Pool) (network : Network) : Pool × Option ConnectionId :=
  match pool.candidates.find? network.isConnected with
  | some id => (pool, some id)
  | none =>
      let fallback := pool.candidates.getLast?.or pool.fallback
      ({ pool with fallback }, fallback)

/-- The connection is the one installed for its address. -/
def isInstalled (pool : Pool) (network : Network) (id : ConnectionId) : Bool :=
  pool.entries.installed? (network.address id) == some id

/-- Install a connection that was just opened; one that it replaces is closed if it is not closed
yet. A closed pool closes the new connection instead. -/
def install (pool : Pool) (network : Network) (address : String) (id : ConnectionId) :
    Pool × Network :=
  if pool.isClosed then (pool, network.dismiss id)
  else
    let installed := { pool with entries := pool.entries.put address id }
    match pool.entries.installed? address with
    | none => (installed, network)
    | some former =>
        (installed, if network.isClosed former then network else network.dismiss former)

def evict (pool : Pool) (address : String) (id : ConnectionId) : Pool :=
  if pool.entries.installed? address = some id then
    { pool with entries := pool.entries.remove address }
  else pool

/-- Some tracked address is served by a connected connection, and the pool is open. The choice that
this makes is remembered like any other. -/
def isConnected (pool : Pool) (network : Network) : Pool × Bool :=
  if pool.isClosed then (pool, false)
  else
    let (pool, id) := pool.select network
    (pool, id.any network.isConnected)

/-- The connection that a request is handed to. A request that belongs to a connection goes there
if that connection is installed, and nowhere otherwise. -/
def route (pool : Pool) (network : Network) (request : Request) :
    Pool × Except Error ConnectionId :=
  match request.boundTo? with
  | some bound =>
      if pool.isInstalled network bound then (pool, .ok bound)
      else (pool, .error .bindingMismatch)
  | none =>
      match pool.select network with
      | (pool, some id) => (pool, .ok id)
      | (pool, none) => (pool, .error .noActiveConnection)

/-- Close connections in turn; the first refusal is told. -/
def closeAll (network : Network) : List ConnectionId → Network × Except Error Unit
  | [] => (network, .ok ())
  | id :: rest =>
      let (network, first) := network.close id
      let (network, later) := closeAll network rest
      (network, first.bind fun _ => later)

/-- Close the pool for good, with every installed connection and then the fallback. -/
def close (pool : Pool) (network : Network) : Pool × Network × Except Error Unit :=
  let (network, result) := closeAll network pool.entries.connections
  let network := (pool.fallback.map network.dismiss).getD network
  ({ pool with isClosed := true }, network, result)

def describe (pool : Pool) : String :=
  "ConnectionPool \x7b addrs: [" ++ String.intercalate ", " (pool.tracked.map Quoted.encode) ++
    "], state: " ++ (if pool.isClosed then "Closed" else "Connected") ++ " \x7d"

end Pool

end FailoverPool
