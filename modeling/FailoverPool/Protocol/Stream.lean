import FailoverPool.Protocol.Request

/-!
Who takes a request. A connection takes what belongs to it or to none, and a stream takes what its
connection takes; a pool first chooses a connection (`Pool.route`).
-/

namespace FailoverPool

namespace ConnectionId

/-- The request belongs to this connection, or to none. -/
def accepts (connection : ConnectionId) (request : Request) : Bool :=
  request.boundTo?.all (· = connection)

/-- The connection that a request given to this one is handed to. -/
def route (connection : ConnectionId) (request : Request) : Except Error ConnectionId :=
  if connection.accepts request then .ok connection else .error .bindingMismatch

theorem accepts_iff {connection : ConnectionId} {request : Request} :
    connection.accepts request = true ↔
      ∀ bound, request.boundTo? = some bound → bound = connection := by
  cases belongs : request.boundTo? <;> simp [accepts, belongs]

theorem eq_of_route {connection target : ConnectionId} {request : Request}
    (isRouted : connection.route request = .ok target) : target = connection := by
  unfold route at isRouted
  split at isRouted <;> cases isRouted
  rfl

end ConnectionId

/-- A logical session on a connection. All its requests carry its number, which is not zero. -/
structure Stream where
  connection : ConnectionId
  id : UInt64
  deriving DecidableEq, Repr

namespace Stream

/-- The connection that a request given to the stream is handed to. -/
def route (stream : Stream) (request : Request) : Except Error ConnectionId :=
  stream.connection.route request

end Stream

end FailoverPool
