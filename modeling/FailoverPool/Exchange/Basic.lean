import FailoverPool.Exchange.Watchers
import FailoverPool.Future.Basic
import FailoverPool.Network.Basic
import FailoverPool.Text.Quoted

/-!
One connection to a server: the requests in flight, the watchers, the frames that were sent, and
the end.

Every frame takes the next sync number, and a response is handed to the request with its number.
However a connection ends, it ends once: every request in flight fails, and one event tells it.
-/

namespace FailoverPool

inductive Outgoing where
  | request (sync stream : UInt64) (request : Request)
  | watch (sync : UInt64) (key : String)
  | unwatch (sync : UInt64) (key : String)

namespace Outgoing

def sync : Outgoing → UInt64
  | .request sync _ _ | .watch sync _ | .unwatch sync _ => sync

def encode : Outgoing → Bytes
  | .request sync stream asked => asked.encode sync stream
  | .watch sync key => Frame.encode .watch sync 0 (Frame.watchBody key)
  | .unwatch sync key => Frame.encode .unwatch sync 0 (Frame.watchBody key)

end Outgoing

structure Exchange where
  address : String
  timeout : Duration
  state : ConnectionState
  nextSync : UInt64
  nextStream : UInt64
  nextWatcher : Nat
  /-- The numbers of the requests in flight. -/
  pending : List UInt64
  /-- The futures that callers still hold, each under the number of its request. -/
  futures : List (UInt64 × ResponseFuture UInt64)
  watchers : WatcherRegistry
  /-- The frames that were sent, oldest first. -/
  sent : List Outgoing
  events : List EventKind
  /-- The callbacks that have run, oldest first. -/
  calls : List WatcherCall
  /-- Received bytes that are no whole frame yet. -/
  unread : Bytes

namespace Exchange

/-- A connection behind its handshake, which nobody holds yet; `unread` is what the server has sent
already. -/
def connecting (address : String) (timeout : Duration) (unread : Bytes) : Exchange where
  address
  timeout
  state := .connecting
  nextSync := 1
  nextStream := 1
  nextWatcher := 1
  pending := []
  futures := []
  watchers := []
  sent := []
  events := []
  calls := []
  unread

/-- A connection that has just been established, and has said so. -/
def established (address : String) (timeout : Duration) (unread : Bytes) : Exchange :=
  { connecting address timeout unread with state := .connected, events := [.connected] }

def isConnected (exchange : Exchange) : Bool := exchange.state == .connected

def isClosed (exchange : Exchange) : Bool := exchange.state == .closed

def describe (exchange : Exchange) : String :=
  "TcpConnection \x7b addr: " ++ Quoted.encode exchange.address ++ ", state: " ++
    toString exchange.state.number ++ " \x7d"

def modifyFuture (exchange : Exchange) (sync : UInt64)
    (change : ResponseFuture UInt64 → ResponseFuture UInt64) : Exchange :=
  { exchange with
    futures := exchange.futures.map fun (number, future) =>
      (number, if number = sync then change future else future) }

/-- Hand a result to a request that is in flight; one that is not gets nothing. -/
def resolve (exchange : Exchange) (sync : UInt64) (outcome : Outcome) : Exchange :=
  if exchange.pending.contains sync then
    { exchange with pending := exchange.pending.filter (· ≠ sync) }.modifyFuture sync
      (·.send outcome)
  else exchange

/-- The end of the connection, unless it has ended before. -/
def teardown (exchange : Exchange) : Exchange :=
  if exchange.isClosed then exchange
  else
    let closed := exchange.pending.foldl
      (fun exchange sync => exchange.resolve sync (.error (.connectionClosed exchange.address)))
      exchange
    { closed with state := .closed, events := closed.events ++ [.closed] }

def close (exchange : Exchange) : Exchange × Except Error Unit :=
  if exchange.isClosed then (exchange, .error (.connectionClosed exchange.address))
  else (exchange.teardown, .ok ())

/-- Send a request, with the number of its stream or zero. The number returned names its future;
a connection that is not connected fails instead. Sending is one operation, and the connection does
not end in the middle of it: a second look at its state, behind the entry among the requests in
flight, would find what the first has found. -/
def send (exchange : Exchange) (now : Instant) (stream : UInt64) (request : Request) :
    Exchange × Except Error UInt64 :=
  if exchange.isConnected then
    let sync := exchange.nextSync
    let future := (ResponseFuture.pending.withTimeout now exchange.timeout).onTimeout sync
    ({ exchange with
        nextSync := sync + 1
        pending := exchange.pending ++ [sync]
        futures := exchange.futures ++ [(sync, future)]
        sent := exchange.sent ++ [.request sync stream request] }, .ok sync)
  else (exchange, .error (.connectionClosed exchange.address))

/-- Ask for the result of a request. A request whose deadline has passed is in flight no longer, and
its future gets nothing any more. -/
def poll (exchange : Exchange) (now : Instant) (sync : UInt64) : Exchange × Poll :=
  match exchange.futures.lookup sync with
  | none => (exchange, .pending)
  | some future =>
      let polled := future.poll now
      let asked := exchange.modifyFuture sync fun _ => polled.future
      match polled.released with
      | none => (asked, polled.result)
      | some late =>
          let given := { asked with pending := asked.pending.filter (· ≠ late) }
          (given.modifyFuture late (·.abandon), polled.result)

/-- The caller lets go of a future; its request stays in flight. -/
def forget (exchange : Exchange) (sync : UInt64) : Exchange :=
  { exchange with futures := exchange.futures.filter (·.1 ≠ sync) }

def openStream (exchange : Exchange) : Exchange × UInt64 :=
  ({ exchange with nextStream := exchange.nextStream + 1 }, exchange.nextStream)

def sendWatch (exchange : Exchange) (key : String) : Exchange :=
  { exchange with
    nextSync := exchange.nextSync + 1
    sent := exchange.sent ++ [.watch exchange.nextSync key] }

def sendUnwatch (exchange : Exchange) (key : String) : Exchange :=
  { exchange with
    nextSync := exchange.nextSync + 1
    sent := exchange.sent ++ [.unwatch exchange.nextSync key] }

/-- Register a watcher of a key. The first one of a key tells the server. -/
def watch (exchange : Exchange) (key : String) (reaction : Reaction) :
    Exchange × Except Error WatcherHandle :=
  if exchange.isConnected then
    let id := exchange.nextWatcher
    let isFirst := exchange.watchers.isUnwatched key
    let registered := { exchange with
      nextWatcher := id + 1
      watchers := exchange.watchers.add key ⟨id, reaction⟩ }
    (if isFirst then registered.sendWatch key else registered, .ok ⟨id, key⟩)
  else (exchange, .error (.connectionClosed exchange.address))

/-- Remove a watcher, if it is still registered. When a key has lost its last watcher the server is
told, as long as the connection lasts. -/
def unregister (exchange : Exchange) (handle : WatcherHandle) : Exchange :=
  let removed := { exchange with watchers := exchange.watchers.remove handle }
  let isLast := !exchange.watchers.isUnwatched handle.key &&
    removed.watchers.isUnwatched handle.key
  if isLast && exchange.isConnected then removed.sendUnwatch handle.key else removed

end Exchange

end FailoverPool
