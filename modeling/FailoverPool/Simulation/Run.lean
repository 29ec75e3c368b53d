import FailoverPool.Simulation.Time

/-!
Running a script in a simulated cluster, and what each step shows.
-/

namespace FailoverPool
namespace Simulation

structure PoolView where
  isClosed : Bool
  addresses : List String

structure ConnectionView where
  name : String
  state : ConnectionState
  closeCalls : Nat

/-- What a step shows: its reply, what happened since the step before, and how things stand. -/
structure Entry where
  reply : Reply
  record : List (Instant × Occurrence)
  connections : List ConnectionView
  pool : Option PoolView

/-- A step of a script, and whether all else goes on before what it shows is taken down. -/
structure ScriptStep where
  step : Step
  settles : Bool

def Connection.name (connection : Connection) : String :=
  connection.address ++ "#" ++ toString connection.ordinal

namespace World

def connectionNamed? (world : World) (name : String) : Option ConnectionId :=
  (world.network.connections.findIdx? (Connection.name · == name)).map (⟨·⟩)

def heldUpkeep? (world : World) : Option (Nat × Upkeep) := do
  let index ← world.held
  return (index, ← world.upkeeps[index]?)

def putPool (world : World) (index : Nat) (pool : Pool) : World :=
  { world with upkeeps := world.upkeeps.modify index ({ · with pool }) }

/-- The connection that the held pool chooses, or none if no pool is held. -/
def select (world : World) : World × Except Error ConnectionId :=
  match world.heldUpkeep? with
  | none => (world, .error .noActiveConnection)
  | some (index, upkeep) =>
      let (pool, id) := upkeep.pool.select world.network
      let chosen : Except Error ConnectionId :=
        match id with
        | some id => .ok id
        | none => .error .noActiveConnection
      (world.putPool index pool, chosen)

def connectionOf (world : World) : Route → World × Except Error ConnectionId
  | .pool => world.select
  | .connection name =>
      (world, match world.connectionNamed? name with
        | some id => .ok id
        | none => .error .noActiveConnection)

/-- The connection that a request is handed to on a route. -/
def routeRequest (world : World) (route : Route) (request : Request) :
    World × Except Error ConnectionId :=
  match route, world.heldUpkeep? with
  | .pool, none => (world, .error .noActiveConnection)
  | .pool, some (index, upkeep) =>
      let (pool, target) := upkeep.pool.route world.network request
      (world.putPool index pool, target)
  | .connection name, _ =>
      (world, match world.connectionNamed? name with
        | none => .error .noActiveConnection
        | some id => id.route request)

def sendOn (world : World) (route : Route) (request : Request) : World × FutureId :=
  match world.routeRequest route request with
  | (world, .error error) => world.addFuture (.now (.error error))
  | (world, .ok id) => world.send id 0 request

def sendInStream (world : World) (stream : Stream) (request : Request) : World × FutureId :=
  match stream.route request with
  | .error error => world.addFuture (.now (.error error))
  | .ok id => world.send id stream.id request

def awaitReply (world : World) (id : FutureId) : World × Reply :=
  let (world, outcome) := world.await id
  (world, outcome.elim .stillPending .outcome)

def warmUp (world : World) (warm : WarmUp) : List String → World × WarmUp
  | [] => (world, warm)
  | address :: later =>
      let world := { world with network := world.network.note (.dial address) }
      let world := (world.dialEnd? address).elim world world.elapse
      let (world, dialed) := world.endDial address warm.queue
      warmUp world (warm.take world.network address dialed) later

def release (world : World) : World :=
  match world.heldUpkeep? with
  | none => world
  | some (index, upkeep) =>
      { world.store index (world.runOf upkeep).release with held := none }

/-- Open a pool. The one held before is kept if this fails, and let go of if it succeeds. -/
def connect (world : World) (addresses : List String) (options : PoolOptions)
    (timeout : Duration) : World × Reply :=
  let world := { world with timeout }
  match WarmUp.begin world.network addresses options with
  | .error error => (world, .failed error)
  | .ok (network, warm) =>
      let (world, warm) := { world with network }.warmUp warm addresses
      let (network, result) := warm.finish world.network
      let world := { world with network }
      match result with
      | .error error => (world, .failed error)
      | .ok pool =>
          let index := world.upkeeps.size
          let world := { world with upkeeps := world.upkeeps.push (.ofPool pool) }
          ({ (world.wake (.upkeep index)).release with held := some index }, .options pool.options)

def replay (network : Network) (id : ConnectionId) (kind : EventKind) : Nat → Network
  | 0 => network
  | times + 1 => replay (network.emit id kind) id kind times

/-- The connections that were told to close since a step began and were closed before it. -/
def closedTwice (before after : World) : List ConnectionId :=
  (after.network.record.toList.filterMap fun (_, occurrence) =>
    match occurrence with
    | .closed id _ => if before.network.isClosed id then some id else none
    | _ => none).eraseDups

/-- Close what a route leads to. Which of several refusals of a pool's connections is told is not
determined. -/
def close (world : World) (route : Route) : World × Reply :=
  let (after, result) : World × Except Error Unit :=
    match route with
    | .pool =>
        match world.heldUpkeep? with
        | none => (world, .error .noActiveConnection)
        | some (index, upkeep) =>
            let (run, result) := (world.runOf upkeep).close
            (world.store index run, result)
    | .connection name =>
        match world.connectionNamed? name with
        | none => (world, .error .noActiveConnection)
        | some id =>
            let (network, result) := world.network.close id
            ({ world with network }, result)
  match result with
  | .ok () => (after, .done)
  | .error error =>
      let isShared := (world.closedTwice after).length > 1
      (after, .failed (if isShared then .connectionClosed "*" else error))

/-- Prepare a statement on the connection that a route leads to, and keep it under a label. -/
def prepare (world : World) (route : Route) (sql : String) (label : String) : World × Reply :=
  match world.connectionOf route with
  | (world, .error error) => (world, .failed error)
  | (world, .ok id) =>
      let (world, future) := world.send id 0 (.prepare sql)
      match world.await future with
      | (world, none) => (world, .stillPending)
      | (world, some (.error error)) => (world, .failed error)
      | (world, some (.ok response)) =>
          match response.toStatement id with
          | .error error => (world, .failed error)
          | .ok statement =>
              ({ world with statements := (label, statement) :: world.statements },
                .statement statement (world.network.address id))

def change (world : World) (name : String) (change : Network → ConnectionId → Network) :
    World × Reply :=
  match world.connectionNamed? name with
  | none => (world, .nothing)
  | some id => ({ world with network := change world.network id }, .nothing)

/-- Do what a step of a script asks for. -/
def perform (world : World) : Step → World × Reply
  | .reach address isReachable =>
      let others := world.unreachable.filter (· ≠ address)
      ({ world with unreachable := if isReachable then others else address :: others }, .nothing)
  | .dialState address state =>
      ({ world with dialStates := (address, state) :: world.dialStates }, .nothing)
  | .dialDelay address milliseconds =>
      ({ world with dialDelays := (address, milliseconds) :: world.dialDelays }, .nothing)
  | .discovery answer => ({ world with discovery := answer }, .nothing)
  | .answer name answer =>
      match world.connectionNamed? name with
      | none => (world, .nothing)
      | some id => ({ world with answers := world.answers ++ [(id, answer)] }, .nothing)
  | .newConnection address state =>
      let (network, id) := world.network.addConnection address state none
      ({ world with network },
        ((network.connection? id).map Connection.name).elim .nothing .text)
  | .connect addresses options timeout => world.connect addresses options timeout
  | .hangUp name => world.change name Network.hangUp
  | .setState name state => world.change name fun network id =>
      network.modify id ({ · with state })
  | .replay name kind times => world.change name fun network id => replay network id kind times
  | .sleep milliseconds => (world.elapse (Instant.after world.now milliseconds), .nothing)
  | .jump milliseconds => (world.jump milliseconds, .nothing)
  | .current =>
      match world.select with
      | (world, .error error) => (world, .failed error)
      | (world, .ok id) =>
          (world, ((world.network.connection? id).map Connection.name).elim .nothing .text)
  | .describe =>
      (world, world.heldUpkeep?.elim .nothing fun (_, upkeep) => .text upkeep.pool.describe)
  | .isConnected .pool =>
      match world.heldUpkeep? with
      | none => (world, .nothing)
      | some (index, upkeep) =>
          let (pool, isConnected) := upkeep.pool.isConnected world.network
          (world.putPool index pool, .flag isConnected)
  | .isConnected (.connection name) =>
      (world, .flag ((world.connectionNamed? name).any world.network.isConnected))
  | .timeout route => ((world.connectionOf route).1, .duration world.timeout)
  | .watch .pool => (world, .failed (.unsupported .poolWatchers))
  | .watch (.connection _) => (world, .failed (.unsupported .connectionWatchers))
  | .request route request =>
      let (world, future) := world.sendOn route request
      world.awaitReply future
  | .start route request label =>
      let (world, future) := world.sendOn route request
      ({ world with kept := (label, future) :: world.kept },
        (world.futures[future.index]?.map (·.describe)).elim .nothing .text)
  | .await label =>
      match world.kept.lookup label with
      | none => (world, .nothing)
      | some future => world.awaitReply future
  | .prepare route sql label => world.prepare route sql label
  | .statement name id label =>
      match world.connectionNamed? name with
      | none => (world, .nothing)
      | some connection =>
          ({ world with statements := (label, ⟨id, 0, [], connection⟩) :: world.statements },
            .nothing)
  | .useStatement route label use =>
      match world.statements.lookup label with
      | none => (world, .nothing)
      | some statement =>
          let (world, future) := world.sendOn route (use.request statement)
          world.awaitReply future
  | .useStatementInStream stream label use =>
      match world.streams.lookup stream, world.statements.lookup label with
      | some stream, some statement =>
          let (world, future) := world.sendInStream stream (use.request statement)
          world.awaitReply future
      | _, _ => (world, .nothing)
  | .isBound label use name =>
      match world.statements.lookup label, world.connectionNamed? name with
      | some statement, some id =>
          (world, .bound ((use.request statement).isBoundTo id) (Request.ping.isBoundTo id))
      | _, _ => (world, .nothing)
  | .openStream route label =>
      match world.connectionOf route with
      | (world, .error error) => (world, .failed error)
      | (world, .ok connection) =>
          let (network, id) := world.network.nextStream connection
          ({ world with network, streams := (label, ⟨connection, id⟩) :: world.streams },
            .stream id (network.address connection))
  | .requestInStream stream request =>
      match world.streams.lookup stream with
      | none => (world, .nothing)
      | some stream =>
          let (world, future) := world.sendInStream stream request
          world.awaitReply future
  | .close route => world.close route
  | .release => (world.release, .nothing)

def step (world : World) (step : Step) : World × Reply :=
  let (world, reply) := world.perform step
  (world.hearAll, reply)

def entry (world : World) (reply : Reply) : Entry where
  reply
  record := world.network.record.toList
  connections := world.network.connections.toList.map fun connection =>
    ⟨Connection.name connection, connection.state, connection.closeCalls⟩
  pool := world.heldUpkeep?.map fun (_, upkeep) => ⟨upkeep.pool.isClosed, upkeep.pool.tracked⟩

def clearRecord (world : World) : World :=
  { world with network := { world.network with record := #[] } }

/-- Run a script, and take down what each step shows. -/
def run (world : World) : List ScriptStep → List Entry
  | [] => []
  | step :: later =>
      let (world, reply) := world.step step.step
      let world := if step.settles then world.settle else world
      world.entry reply :: run world.clearRecord later

end World

end Simulation
end FailoverPool
