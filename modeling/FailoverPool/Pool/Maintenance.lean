import FailoverPool.Future.Basic
import FailoverPool.Pool.Basic

/-!
The upkeep of a pool: one task that handles events, health checks and discovery, one at a time.

The task is suspended while it waits for something to do, while an attempt to connect is under way,
and while a discovery call is. `Duty` says which; each function below takes the pool from one
suspension to the next.
-/

namespace FailoverPool

/-! Asking the cluster for its addresses: the request, and what its answer tells. -/

namespace Discovery

def request (function : String) : Request := .call17 function (.array [])

/-- The addresses that an answer tells: the first of its lists of texts, without repeats and in the
order of first occurrences. An answer that is no list of lists of texts, that is empty, or whose
first list is empty, tells nothing. -/
def addresses? (outcome : Outcome) : Option (List String) := do
  let response ← outcome.toOption
  let lists ← (response.typed (Typed.list (Typed.list Typed.text))).toOption
  let found := (← lists.head?).eraseDups
  if found.isEmpty then none else some found

end Discovery
/-- What the upkeep of a pool is suspended in. -/
inductive Duty where
  | idle
  /-- An address is redialed because its connection has closed. -/
  | repair (address : String) (failed : ConnectionId)
  /-- A health check redials an address; others follow. -/
  | check (address : String) (later : List String)
  | ask (connection : ConnectionId)
  /-- An address that was discovered is dialed; others follow. Then the former addresses give way
  to the discovered ones. -/
  | update (address : String) (later former discovered : List String)
  | ended
  deriving DecidableEq, Repr, Inhabited

namespace Duty

def dialing? : Duty → Option String
  | .repair address _ | .check address _ | .update address _ _ _ => some address
  | _ => none

end Duty

/-- A pool at work: the network, the pool, and what its upkeep is doing. -/
structure PoolRun where
  network : Network
  pool : Pool
  duty : Duty
  deriving Inhabited

namespace PoolRun

/-- A handler is done. The upkeep ends if the pool was closed or let go of meanwhile. -/
def rest (run : PoolRun) : PoolRun :=
  if run.pool.isClosed || !run.pool.isHeld then
    { run with
      duty := .ended
      network := { run.network with
        queues := run.network.queues.modify run.pool.queue.index (·.abandon) } }
  else { run with duty := .idle }

def dial (run : PoolRun) (address : String) (duty : Duty) : PoolRun :=
  { run with network := run.network.note (.dial address), duty }

def takeDialed (run : PoolRun) (address : String) : Option ConnectionId → PoolRun
  | none => run
  | some id =>
      let (pool, network) := run.pool.install run.network address id
      { run with pool, network }

/-- Handle an event. Only the end of a connection that has indeed closed and is still installed is
followed by a redial. -/
def handleEvent (run : PoolRun) (event : Event) : PoolRun :=
  if event.kind = .closed && run.network.isClosed event.connection &&
      run.pool.isInstalled run.network event.connection then
    let address := run.network.address event.connection
    run.dial address (.repair address event.connection)
  else run.rest

/-- The attempt to redial a closed connection has ended; if it failed, the closed connection is
forgotten. -/
def finishRepair (run : PoolRun) (address : String) (failed : ConnectionId)
    (dialed : Option ConnectionId) : PoolRun :=
  match dialed with
  | some _ => (run.takeDialed address dialed).rest
  | none => { run with pool := run.pool.evict address failed }.rest

/-- Go on with a health check: dial the next address, unless the pool was closed. -/
def continueCheck (run : PoolRun) : List String → PoolRun
  | [] => run.rest
  | address :: later =>
      if run.pool.isClosed then run.rest else run.dial address (.check address later)

def missing (run : PoolRun) : List String :=
  run.pool.tracked.filter fun address =>
    match run.pool.entries.installed? address with
    | none => true
    | some id => run.network.isClosed id

def beginCheck (run : PoolRun) : PoolRun := run.continueCheck run.missing

/-- Forget the connections of addresses, and close them. -/
def removeAll (run : PoolRun) : List String → PoolRun
  | [] => run
  | address :: later =>
      let network :=
        match run.pool.entries.installed? address with
        | none => run.network
        | some id => run.network.dismiss id
      let pool := { run.pool with entries := run.pool.entries.remove address }
      removeAll { run with network, pool } later

/-- All dials of an update are done: forget the addresses that are no longer listed, and track the
discovered ones. -/
def finishUpdate (run : PoolRun) (former discovered : List String) : PoolRun :=
  let run := run.removeAll (former.filter fun address => !discovered.contains address)
  { run with pool := { run.pool with tracked := discovered } }.rest

/-- Go on with an update: dial the next address, unless the pool was closed. -/
def continueUpdate (run : PoolRun) (former discovered : List String) : List String → PoolRun
  | [] => run.finishUpdate former discovered
  | address :: later =>
      if run.pool.isClosed then run.rest
      else run.dial address (.update address later former discovered)

/-- Begin to track the discovered addresses in place of the present ones. -/
def beginUpdate (run : PoolRun) (discovered : List String) : PoolRun :=
  let former := run.pool.tracked
  if former = discovered then run.rest
  else
    run.continueUpdate former discovered
      (discovered.filter fun address => !former.contains address)

/-- Ask the cluster for its addresses, through the connection that serves requests. -/
def beginDiscovery (run : PoolRun) (function : String) : PoolRun :=
  match run.pool.select run.network with
  | (pool, none) => { run with pool }.rest
  | (pool, some id) =>
      match run.network.hand id 0 (Discovery.request function) with
      | .error _ => { run with pool }.rest
      | .ok network => { run with network, pool, duty := .ask id }

def finishDiscovery (run : PoolRun) (outcome : Outcome) : PoolRun :=
  match Discovery.addresses? outcome with
  | none => run.rest
  | some discovered => run.beginUpdate discovered

/-- The attempt to connect that the upkeep waited for has ended, with a connection if it
succeeded. -/
def finishDial (run : PoolRun) (dialed : Option ConnectionId) : PoolRun :=
  match run.duty with
  | .repair address failed => run.finishRepair address failed dialed
  | .check address later => (run.takeDialed address dialed).continueCheck later
  | .update address later former discovered =>
      (run.takeDialed address dialed).continueUpdate former discovered later
  | .idle | .ask _ | .ended => run

/-- The owner closes the pool. An upkeep with nothing to do ends at once. -/
def close (run : PoolRun) : PoolRun × Except Error Unit :=
  let (pool, network, result) := run.pool.close run.network
  let run := { run with pool, network }
  (if run.duty = .idle then run.rest else run, result)

/-- The owner lets go of the pool. An upkeep with nothing to do ends at once. -/
def release (run : PoolRun) : PoolRun :=
  let run := { run with pool := { run.pool with isHeld := false } }
  if run.duty = .idle then run.rest else run

end PoolRun

end FailoverPool
