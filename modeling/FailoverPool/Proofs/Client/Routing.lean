import FailoverPool.Simulation.Run

/-!
Where the requests of a prepared statement go.

Such a request belongs to the connection of its statement. Pools, connections and streams hand it to
that connection or refuse it, and with a refusal nothing happens but that there is one more future,
which has failed from the start (`World.refuse`).
-/

namespace FailoverPool

/-- The request executes the statement, or gives it up. -/
inductive Statement.Uses (statement : Statement) : Request → Prop where
  | execute (arguments : Value) : Uses statement (.executePrepared statement arguments)
  | unprepare : Uses statement (.unprepare statement)

theorem Statement.Uses.boundTo? {statement : Statement} {request : Request}
    (uses : statement.Uses request) : request.boundTo? = some statement.connection := by
  cases uses <;> rfl

/-- A pool takes what belongs to a connection if that connection is installed. -/
theorem Pool.route_of_bound {pool : Pool} {network : Network} {request : Request}
    {bound : ConnectionId} (isBound : request.boundTo? = some bound) :
    pool.route network request =
      if pool.entries.installed? (network.address bound) = some bound then (pool, .ok bound)
      else (pool, .error .bindingMismatch) := by
  simp [route, isBound, isInstalled]

theorem ConnectionId.route_of_bound {connection bound : ConnectionId} {request : Request}
    (isBound : request.boundTo? = some bound) :
    connection.route request =
      if bound = connection then .ok connection else .error .bindingMismatch := by
  simp [route, accepts, isBound]

namespace Simulation.World

variable {world : World} {statement : Statement} {request : Request}

/-- A request has been refused by a router. -/
def refuse (world : World) : World × FutureId :=
  ({ world with futures := world.futures.push (.failed .bindingMismatch) }, ⟨world.futures.size⟩)

theorem network_addFuture (world : World) (answer : Answer) :
    (world.addFuture answer).1.network = world.network := by
  cases answer <;> rfl

/-- Answering a request is no matter of the network. -/
theorem network_answerRequest (world : World) (id : ConnectionId) (request : Request) :
    (world.answerRequest id request).1.network = world.network := by
  have taken : (world.takeAnswer id request).1.network = world.network := by
    unfold takeAnswer
    split
    · rfl
    · cases request with
      | call17 =>
          dsimp only
          split <;> rfl
      | _ => rfl
  unfold answerRequest
  exact (network_addFuture _ _).trans taken

theorem send_of_isClosed {id : ConnectionId} (closed : world.network.isClosed id = true)
    (stream : UInt64) (request : Request) :
    world.send id stream request =
      world.addFuture (.now (.error (.connectionClosed (world.network.address id)))) := by
  rw [send, Network.hand, if_pos closed]

theorem network_send (world : World) (id : ConnectionId) (stream : UInt64) (request : Request) :
    (world.send id stream request).1.network =
      if world.network.isClosed id then world.network
      else world.network.note (.sent id stream request) := by
  by_cases closed : world.network.isClosed id = true
  · rw [send_of_isClosed closed, if_pos closed]
    rfl
  · rw [send, Network.hand, if_neg closed, if_neg closed]
    exact network_answerRequest _ id request

/-- A stream hands a request to its own connection, under its own number, or to none. -/
theorem network_sendInStream (world : World) (stream : Stream) (request : Request) :
    (world.sendInStream stream request).1.network =
      if stream.connection.accepts request ∧ world.network.isClosed stream.connection = false then
        world.network.note (.sent stream.connection stream.id request)
      else world.network := by
  unfold sendInStream Stream.route ConnectionId.route
  by_cases accepts : stream.connection.accepts request = true
  · rw [if_pos accepts]
    dsimp only
    rw [network_send]
    by_cases closed : world.network.isClosed stream.connection = true <;> simp [accepts, closed]
  · rw [if_neg accepts]
    dsimp only
    rw [network_addFuture, if_neg fun both => accepts both.1]

/-- Outside of streams no request is handed over under a number. -/
theorem network_sendOn (world : World) (route : Route) (request : Request) :
    (world.sendOn route request).1.network = world.network ∨
      ∃ id, (world.sendOn route request).1.network = world.network.note (.sent id 0 request) := by
  have routed : (world.routeRequest route request).1.network = world.network := by
    unfold routeRequest
    split <;> rfl
  unfold sendOn
  split
  · next between error found =>
    rw [found] at routed
    exact .inl ((network_addFuture _ _).trans routed)
  · next between id found =>
    rw [found] at routed
    dsimp only at routed ⊢
    rw [network_send, routed]
    split
    · exact .inl rfl
    · exact .inr ⟨id, rfl⟩

theorem putPool_self {index : Nat} {upkeep : Upkeep}
    (isUpkeep : world.upkeeps[index]? = some upkeep) : world.putPool index upkeep.pool = world := by
  have same : world.upkeeps.modify index ({ · with pool := upkeep.pool }) = world.upkeeps := by
    apply Array.ext_getElem?
    intro other
    rw [Array.getElem?_modify]
    split
    · next isSame => simp [← isSame, isUpkeep]
    · rfl
  rw [putPool, same]

theorem getElem?_of_held {index : Nat} {upkeep : Upkeep}
    (isHeld : world.heldUpkeep? = some (index, upkeep)) : world.upkeeps[index]? = some upkeep := by
  simp only [heldUpkeep?, Option.bind_eq_bind, Option.bind_eq_some_iff] at isHeld
  obtain ⟨_, _, _, found, same⟩ := isHeld
  cases same
  exact found

theorem sendOn_pool_of_uses (uses : statement.Uses request) {index : Nat} {upkeep : Upkeep}
    (isHeld : world.heldUpkeep? = some (index, upkeep)) :
    world.sendOn .pool request =
      if upkeep.pool.entries.installed? (world.network.address statement.connection) =
          some statement.connection then world.send statement.connection 0 request
      else world.refuse := by
  have same := putPool_self (getElem?_of_held isHeld)
  by_cases installed : upkeep.pool.entries.installed? (world.network.address statement.connection) =
      some statement.connection
  · simp only [sendOn, routeRequest, isHeld, Pool.route_of_bound uses.boundTo?, if_pos installed,
      same]
  · simp only [sendOn, routeRequest, isHeld, Pool.route_of_bound uses.boundTo?, if_neg installed,
      same]
    rfl

theorem sendOn_connection_of_uses (uses : statement.Uses request) {name : String}
    {id : ConnectionId} (isNamed : world.connectionNamed? name = some id) :
    world.sendOn (.connection name) request =
      if statement.connection = id then world.send id 0 request else world.refuse := by
  by_cases same : statement.connection = id
  · simp only [sendOn, routeRequest, isNamed, ConnectionId.route_of_bound uses.boundTo?,
      if_pos same]
  · simp only [sendOn, routeRequest, isNamed, ConnectionId.route_of_bound uses.boundTo?,
      if_neg same]
    rfl

theorem sendInStream_of_uses (uses : statement.Uses request) (stream : Stream) :
    world.sendInStream stream request =
      if statement.connection = stream.connection then
        world.send stream.connection stream.id request
      else world.refuse := by
  by_cases same : statement.connection = stream.connection
  · simp only [sendInStream, Stream.route, ConnectionId.route_of_bound uses.boundTo?, if_pos same]
  · simp only [sendInStream, Stream.route, ConnectionId.route_of_bound uses.boundTo?, if_neg same]
    rfl

end Simulation.World
end FailoverPool
