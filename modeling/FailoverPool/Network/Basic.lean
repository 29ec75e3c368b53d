import FailoverPool.Error
import FailoverPool.Network.Events

/-!
The connections that a client has opened, each with its own identity, and a record of what was
done with them.

A connection that has closed stays in the network: whoever still holds it can ask it, close it
again, and be refused.
-/

namespace FailoverPool

inductive ConnectionState where
  | connecting
  | connected
  | closed
  deriving DecidableEq, Repr, Inhabited

def ConnectionState.number : ConnectionState → Nat
  | .connecting => 0
  | .connected => 1
  | .closed => 2

structure QueueId where
  index : Nat
  deriving DecidableEq, Repr, Inhabited

structure Connection where
  address : String
  /-- Its place among all connections to its address, from one on. -/
  ordinal : Nat
  state : ConnectionState
  /-- Where its events go. -/
  queue : Option QueueId
  /-- How often it was told to close. -/
  closeCalls : Nat
  /-- How many streams were opened on it. -/
  streams : Nat
  deriving DecidableEq, Repr, Inhabited

/-- Something that was done on the network. -/
inductive Occurrence where
  | dial (address : String)
  | refused (address : String)
  | opened (connection : ConnectionId)
  /-- A connection was told to close; `wasOpen` says that it was not closed before. -/
  | closed (connection : ConnectionId) (wasOpen : Bool)
  | sent (connection : ConnectionId) (stream : UInt64) (request : Request)

/-- All connections and event queues, the clock, and the record, oldest entry first. -/
structure Network where
  now : Instant
  connections : Array Connection
  queues : Array EventQueue
  record : Array (Instant × Occurrence)
  deriving Inhabited

namespace Network

def empty : Network := ⟨0, #[], #[], #[]⟩

def note (network : Network) (occurrence : Occurrence) : Network :=
  { network with record := network.record.push (network.now, occurrence) }

def connection? (network : Network) (id : ConnectionId) : Option Connection :=
  network.connections[id.index]?

/-- The address that a connection was opened for. -/
def address (network : Network) (id : ConnectionId) : String :=
  ((network.connection? id).map (·.address)).getD ""

/-- The connection can serve requests. -/
def isConnected (network : Network) (id : ConnectionId) : Bool :=
  (network.connection? id).any (·.state == .connected)

def isClosed (network : Network) (id : ConnectionId) : Bool :=
  (network.connection? id).any (·.state == .closed)

def modify (network : Network) (id : ConnectionId) (change : Connection → Connection) : Network :=
  { network with connections := network.connections.modify id.index change }

/-- Tell the queue of a connection what happened to it. -/
def emit (network : Network) (id : ConnectionId) (kind : EventKind) : Network :=
  match (network.connection? id).bind (·.queue) with
  | none => network
  | some queue =>
      { network with queues := network.queues.modify queue.index (·.emit ⟨id, kind⟩) }

def addQueue (network : Network) (capacity : Nat) : Network × QueueId :=
  ({ network with queues := network.queues.push (.ofCapacity capacity) }, ⟨network.queues.size⟩)

/-- A new connection; its place is counted among those to its address. -/
def addConnection (network : Network) (address : String) (state : ConnectionState)
    (queue : Option QueueId) : Network × ConnectionId :=
  let ordinal := network.connections.countP (·.address == address) + 1
  ({ network with connections := network.connections.push ⟨address, ordinal, state, queue, 0, 0⟩ },
    ⟨network.connections.size⟩)

/-- A connection that an attempt has opened: it is entered into the record, and announced. -/
def openConnection (network : Network) (address : String) (state : ConnectionState)
    (queue : QueueId) : Network × ConnectionId :=
  let (network, id) := network.addConnection address state (some queue)
  ((network.note (.opened id)).emit id .connected, id)

/-- A connection ends by itself, and says so if it had not ended before. -/
def hangUp (network : Network) (id : ConnectionId) : Network :=
  if network.isClosed id then network
  else (network.modify id ({ · with state := .closed })).emit id .closed

/-- Tell a connection to close. One that has closed before refuses. -/
def close (network : Network) (id : ConnectionId) : Network × Except Error Unit :=
  let wasOpen := !network.isClosed id
  let network := network.modify id fun connection =>
    { connection with closeCalls := connection.closeCalls + 1 }
  let network := network.note (.closed id wasOpen)
  if wasOpen then (network.hangUp id, .ok ())
  else (network, .error (.connectionClosed (network.address id)))

/-- Tell a connection to close, whatever it answers. -/
def dismiss (network : Network) (id : ConnectionId) : Network := (network.close id).1

/-- Hand a request to a connection. One that has closed refuses, and then nothing is recorded. -/
def hand (network : Network) (id : ConnectionId) (stream : UInt64) (request : Request) :
    Except Error Network :=
  if network.isClosed id then .error (.connectionClosed (network.address id))
  else .ok (network.note (.sent id stream request))

/-- Take the next number for a stream on a connection. -/
def nextStream (network : Network) (id : ConnectionId) : Network × UInt64 :=
  let opened := ((network.connection? id).map (·.streams)).getD 0
  (network.modify id ({ · with streams := opened + 1 }), UInt64.ofNat (opened + 1))

end Network

end FailoverPool
