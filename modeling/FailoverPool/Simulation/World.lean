import FailoverPool.Simulation.Schedule
import FailoverPool.Simulation.Script

/-!
A simulated cluster: what it holds, how it answers requests, and how attempts to connect end.
-/

namespace FailoverPool
namespace Simulation

/-- A timer that goes off once in a period. -/
structure Timer where
  due : Instant
  period : Nat
  deriving DecidableEq, Repr, Inhabited

namespace Timer

def start (now : Instant) (period : Nat) : Timer := ⟨now + period, period⟩

/-- The lateness, in milliseconds, up to which a timer keeps its beat. -/
def tolerance : Nat := 5

/-- The timer after it was served: due a period after the moment it was due, or after now if that
is long past, but no later than the longest wait allows. -/
def serve (timer : Timer) (now : Instant) : Timer :=
  let beat := if now > timer.due + tolerance then now else timer.due
  { timer with due := Instant.after beat timer.period }

end Timer

structure FutureId where
  index : Nat
  deriving DecidableEq, Repr, Inhabited

structure Timers where
  refresh : Timer
  check : Timer
  deriving DecidableEq, Repr, Inhabited

def Timers.start (now : Instant) (options : PoolOptions) : Timers where
  refresh := .start now options.discoveryInterval.ticks
  check := .start now options.checkInterval.ticks

structure Upkeep where
  pool : Pool
  duty : Duty
  /-- The timers, which run from the first turn of the upkeep on. -/
  timers : Option Timers
  dialDue : Option Instant
  call : FutureId
  /-- The upkeep has found no event, and the next one gives it a turn. -/
  listens : Bool
  deriving Inhabited

def Upkeep.ofPool (pool : Pool) : Upkeep where
  pool
  duty := .idle
  timers := none
  dialDue := none
  call := ⟨0⟩
  listens := false

structure Delivery where
  /-- How long the way takes, in milliseconds. -/
  delay : Nat
  future : FutureId
  outcome : Outcome
  /-- When the result arrives, once it has set out. -/
  arrival : Option Instant

/-- A simulated cluster, the pools of one client, and what the script has named. -/
structure World where
  network : Network
  unreachable : List String
  dialStates : List (String × ConnectionState)
  dialDelays : List (String × Nat)
  discovery : Option Answer
  answers : List (ConnectionId × Answer)
  timeout : Duration
  futures : Array (ResponseFuture Unit)
  deliveries : Array Delivery
  upkeeps : Array Upkeep
  schedule : Schedule
  /-- The pool that the script holds. -/
  held : Option Nat
  kept : List (String × FutureId)
  statements : List (String × Statement)
  streams : List (String × Stream)

namespace World

def empty : World where
  network := .empty
  unreachable := []
  dialStates := []
  dialDelays := []
  discovery := none
  answers := []
  timeout := .zero
  futures := #[]
  deliveries := #[]
  upkeeps := #[]
  schedule := .empty
  held := none
  kept := []
  statements := []
  streams := []

def now (world : World) : Instant := world.network.now

def setNow (world : World) (now : Instant) : World :=
  { world with network := { world.network with now } }

/-! Turns and alarms. -/

def wake (world : World) (task : Task) : World :=
  { world with schedule := world.schedule.wake task }

def setAlarm (world : World) (due : Instant) (task : Task) (wait : Wait) : World :=
  { world with schedule := world.schedule.setAlarm ⟨due, task, wait⟩ }

def cancelAlarm (world : World) (task : Task) (wait : Wait) : World :=
  { world with schedule := world.schedule.cancel task wait }

def isOver (world : World) (moment : Instant) : Bool := world.schedule.isOver moment

/-! Requests and their futures. -/

def addFuture (world : World) (answer : Answer) : World × FutureId :=
  let id : FutureId := ⟨world.futures.size⟩
  let waiting : ResponseFuture Unit := ResponseFuture.pending.withTimeout world.now world.timeout
  match answer with
  | .now outcome => ({ world with futures := world.futures.push (.ready outcome) }, id)
  | .after milliseconds outcome =>
      let sent := { world with
        futures := world.futures.push waiting
        deliveries := world.deliveries.push ⟨milliseconds, id, outcome, none⟩ }
      (sent.wake (.delivery world.deliveries.size), id)
  | .never => ({ world with futures := world.futures.push waiting }, id)
  | .lost => ({ world with futures := world.futures.push ResponseFuture.pending.abandon }, id)

/-- What a server answers when the stored function of a call does not exist. -/
def undefinedProcedure : Error := .server 33 "Procedure is not defined"

/-- The answer to a request that was handed to a connection: the next one that the script has for
it, else, for a call on a dialed connection, the answer of discovery, else an empty response. -/
def takeAnswer (world : World) (id : ConnectionId) (request : Request) : World × Answer :=
  match world.answers.find? (·.1 = id) with
  | some (_, answer) =>
      ({ world with answers := world.answers.eraseP (·.1 = id) }, answer)
  | none =>
      let isDialed := (world.network.connection? id).any (·.queue.isSome)
      match request with
      | .call17 .. =>
          if isDialed then
            (world, world.discovery.getD (.now (.error undefinedProcedure)))
          else (world, .now (.ok .empty))
      | _ => (world, .now (.ok .empty))

def answerRequest (world : World) (id : ConnectionId) (request : Request) : World × FutureId :=
  let (world, answer) := world.takeAnswer id request
  world.addFuture answer

def send (world : World) (id : ConnectionId) (stream : UInt64) (request : Request) :
    World × FutureId :=
  match world.network.hand id stream request with
  | .error error => world.addFuture (.now (.error error))
  | .ok network => { world with network }.answerRequest id request

/-- Poll a future. Its deadline is met once the alarms of that moment have gone off. -/
def poll (world : World) (id : FutureId) : World × Option Outcome :=
  match world.futures[id.index]? with
  | none => (world, none)
  | some future =>
      let polled := future.poll world.schedule.rung
      ({ world with futures := world.futures.modify id.index fun _ => polled.future },
        polled.result.outcome?)

def deadline? (world : World) (id : FutureId) : Option Instant :=
  world.futures[id.index]?.bind (·.deadline)

/-! Attempts to connect. -/

/-- When an attempt to connect to an address that begins now will end, if it takes time. -/
def dialEnd? (world : World) (address : String) : Option Instant :=
  (world.dialDelays.lookup address).map (Instant.after world.now)

def endDial (world : World) (address : String) (queue : QueueId) : World × Option ConnectionId :=
  if world.unreachable.contains address then
    ({ world with network := world.network.note (.refused address) }, none)
  else
    let state := (world.dialStates.lookup address).getD .connected
    let (network, id) := world.network.openConnection address state queue
    ({ world with network }, some id)

end World

end Simulation
end FailoverPool
