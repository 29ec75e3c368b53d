import FailoverPool.Exchange.Handshake

/-!
One connection and a scripted server.

The script says what the server sends and what the connection's owner does, step by step; whatever
either side has sent arrives before the next step. A step that waits for something which cannot
come is never answered, and neither is the script. On a host without a route to the server no
attempt to connect succeeds, and the server waits for its client forever.
-/

namespace FailoverPool
namespace Simulation

/-- The network of the host on which a session runs. -/
inductive Host where
  /-- Client and server reach each other. -/
  | connected
  /-- Every attempt to connect fails for a reason with a name of its own. -/
  | isolated (reason : String)
  deriving DecidableEq, Repr

/-- What the owner opens. -/
inductive SessionMode where
  | connection
  /-- A connection behind the interface that a pool knows of it. -/
  | dialed
  | pool
  deriving DecidableEq, Repr

/-- What the server sends before the script's steps. -/
structure Welcome where
  greeting : Bytes
  /-- The server ends its side behind the greeting. -/
  endsAfterGreeting : Bool
  /-- What it answers to a proof of the password, and whether it ends its side then. -/
  reply : Option (Bytes × Bool)

def Welcome.line (text : String) : Bytes :=
  let bytes := Utf8.encode text
  bytes ++ List.replicate (63 - bytes.length) 32 ++ [10]

structure SessionSetup where
  options : ConnectOptions
  mode : SessionMode
  eventSlots : Nat
  /-- Nothing listens at the server's address. -/
  isRefused : Bool
  welcome : Welcome

inductive SessionStep where
  | send (label : String) (stream : Option String) (request : Request)
  | await (label : String)
  | forget (label : String)
  | openStream (label : String)
  | nextEvent
  | watch (label key : String) (panics : Bool)
  | unwatch (label : String)
  | nextCall
  | state
  | close
  /-- The owner lets go of everything it holds. -/
  | drop
  | readFrame
  | serverSends (bytes : Bytes)
  | serverEnds

structure SessionView where
  state : ConnectionState
  inFlight : Nat
  timeout : Duration
  text : String

inductive SessionReply where
  | nothing
  | done
  | failed (error : Error)
  | sent
  | resolved (outcome : Outcome)
  | outcome (outcome : Outcome)
  | stream (id : UInt64)
  | event (kind : EventKind)
  | noMoreEvents
  | call (label key : String) (value : Option Value)
  | state (view : SessionView)
  | frame (bytes : Bytes)
  | endOfInput
  | performed

structure Opening where
  result : Except Error (Option Greeting)
  /-- The proof of the password that the server has read, where it waits for one. -/
  proof : Option Bytes

structure Session where
  exchange : Exchange
  now : Instant
  /-- Events that the owner has not looked at, oldest first. -/
  events : List EventKind
  eventSlots : Nat
  isHeld : Bool
  framesRead : Nat
  /-- How many runs of callbacks have been shown. -/
  callsShown : Nat
  requests : List (String × Except Error UInt64)
  streams : List (String × UInt64)
  watchers : List (String × WatcherHandle)

namespace Session

/-- Take over what became of the connection; new events wait as long as there are slots. -/
def put (session : Session) (exchange : Exchange) : Session :=
  let new := exchange.events.drop session.exchange.events.length
  { session with exchange, events := (session.events ++ new).take session.eventSlots }

def isGone (session : Session) : Bool := !session.isHeld && session.events.isEmpty

/-- A connection that nobody holds gives up its requests. -/
def collect (session : Session) : Session :=
  if session.isGone then
    { session with
      exchange := { session.exchange with
        futures := session.exchange.futures.map fun (sync, future) => (sync, future.abandon) } }
  else session

/-- Wait for the result of a request, until its deadline if it has one. -/
def await (session : Session) (sync : UInt64) : Option (Session × SessionReply) :=
  match session.exchange.poll session.now sync with
  | (exchange, .ready outcome) => some (session.put (exchange.forget sync), .outcome outcome)
  | (_, .panicked) => none
  | (exchange, .pending) => do
      let future ← exchange.futures.lookup sync
      let deadline ← future.deadline
      let (exchange, result) := exchange.poll deadline sync
      let outcome ← result.outcome?
      return ({ session with now := deadline }.put (exchange.forget sync), .outcome outcome)

def step (session : Session) : SessionStep → Option (Session × SessionReply)
  | .send label stream request =>
      let id := (stream.bind fun name => session.streams.lookup name).getD 0
      let (exchange, result) := session.exchange.send session.now id request
      let sent := { session.put exchange with requests := (label, result) :: session.requests }
      match result with
      | .ok _ => some (sent, .sent)
      | .error error => some (sent, .resolved (.error error))
  | .await label =>
      match session.requests.lookup label with
      | none => some (session, .nothing)
      | some (.error error) => some (session, .outcome (.error error))
      | some (.ok sync) => session.await sync
  | .forget label =>
      match session.requests.lookup label with
      | some (.ok sync) => some (session.put (session.exchange.forget sync), .nothing)
      | _ => some (session, .nothing)
  | .openStream label =>
      let (exchange, id) := session.exchange.openStream
      some ({ session.put exchange with streams := (label, id) :: session.streams }, .stream id)
  | .nextEvent =>
      match session.events with
      | event :: later => some ({ session with events := later }.collect, .event event)
      | [] =>
          if session.isGone || session.eventSlots = 0 then some (session, .noMoreEvents)
          else none
  | .watch label key panics =>
      match session.exchange.watch key ⟨[], panics⟩ with
      | (exchange, .error error) => some (session.put exchange, .failed error)
      | (exchange, .ok handle) =>
          let watchers := (label, handle) :: session.watchers
          some ({ session.put exchange with watchers }, .done)
  | .unwatch label =>
      match session.isGone, session.watchers.lookup label with
      | false, some handle => some (session.put (session.exchange.unregister handle), .nothing)
      | _, _ => some (session, .nothing)
  | .nextCall => do
      let call ← session.exchange.calls[session.callsShown]?
      let named := session.watchers.find? fun (_, handle) => handle.id = call.watcher
      return ({ session with callsShown := session.callsShown + 1 },
        .call ((named.map (·.1)).getD "") call.key call.value)
  | .state =>
      some (session, .state ⟨session.exchange.state, session.exchange.pending.length,
        session.exchange.timeout, session.exchange.describe⟩)
  | .close =>
      match session.exchange.close with
      | (exchange, .ok ()) => some (session.put exchange, .done)
      | (exchange, .error error) => some (session.put exchange, .failed error)
  | .drop => some ({ session with isHeld := false }.collect, .nothing)
  | .readFrame =>
      match session.exchange.sent[session.framesRead]? with
      | some frame =>
          some ({ session with framesRead := session.framesRead + 1 }, .frame frame.encode)
      | none =>
          if session.exchange.isClosed || session.isGone then some (session, .endOfInput) else none
  | .serverSends bytes =>
      some (if session.isGone then session else session.put (session.exchange.feed bytes),
        .performed)
  | .serverEnds =>
      some (if session.isGone then session else session.put session.exchange.endInput, .performed)

/-- Take all steps; none if one of them is never answered. -/
def run (session : Session) : List SessionStep → Option (List SessionReply)
  | [] => some []
  | step :: later => do
      let (session, reply) ← session.step step
      return reply :: (← run session later)

end Session

/-- The error of an attempt to open what a mode asks for: a pool tells only that no address could
be reached. -/
def SessionMode.error (mode : SessionMode) (error : Error) : Error :=
  if mode = .pool then .noActiveConnection else error

/-- The session of a connection that was established. A pool keeps the events to itself. -/
def SessionSetup.session (setup : SessionSetup) (exchange : Exchange) : Session where
  exchange
  now := 0
  events := if setup.mode = .pool then [] else exchange.events.take setup.eventSlots
  eventSlots := if setup.mode = .pool then 0 else setup.eventSlots
  isHeld := true
  framesRead := 0
  callsShown := 0
  requests := []
  streams := []
  watchers := []

/-- Open the connection; none if that never ends. A server that expects a proof answers only once
it has read one, so a guest and such a server wait for each other. -/
def SessionSetup.establish (setup : SessionSetup) (address : String) :
    Option (Opening × Option Session) :=
  let welcome := setup.welcome
  let reply := (welcome.reply.map (·.1)).getD []
  let ends := welcome.endsAfterGreeting || (welcome.reply.map (·.2)).getD false
  let stream :=
    if welcome.greeting.length < Greeting.size then welcome.greeting
    else welcome.greeting ++ reply
  let attempt := Exchange.connect address setup.options stream []
  let handshake := attempt.handshake
  let proof := welcome.reply.map fun _ => handshake.written
  let fail (error : Error) : Option (Opening × Option Session) :=
    some (⟨.error (setup.mode.error error), proof⟩, none)
  match handshake.result, attempt.result with
  | .ok greeting, .ok exchange =>
      if welcome.reply.isSome && setup.options.user.isEmpty then none
      else
        let read := exchange.readAll
        let exchange := if ends then read.endInput else read
        let shown := if setup.mode = .connection then some greeting else none
        some (⟨.ok shown, proof⟩, some (setup.session exchange))
  | .error error, _ =>
      if handshake.isStarved && !ends then
        if setup.options.connectTimeout.isZero then none else fail .timeout
      else fail error
  | .ok _, .error error => fail error

/-- Run a session on a host; none if it is never answered. -/
def SessionSetup.run (setup : SessionSetup) (host : Host) (address : String)
    (steps : List SessionStep) : Option (Opening × List SessionReply) :=
  let refuse (reason : String) : Option (Opening × List SessionReply) :=
    some (⟨.error (setup.mode.error (.io (.system reason))), none⟩, [])
  match host, setup.isRefused with
  | .isolated reason, true => refuse reason
  | .isolated _, false => none
  | .connected, true => refuse "ConnectionRefused"
  | .connected, false => do
      let (opening, session) ← setup.establish address
      match session with
      | none => return (opening, [])
      | some session => return (opening, ← session.run steps)

/-- A guest watches a key and sends a request. The server tells of the key and then answers, and the
connection is closed. -/
example :
    let welcome : Welcome := ⟨Welcome.line "Tarantool" ++ Welcome.line "", false, none⟩
    let setup : SessionSetup := ⟨.default, .connection, 2, false, welcome⟩
    let event : Bytes := [0x07, 0x81, 0x00, 0x4c, 0x81, 0x57, 0xa1, 0x6b]
    let answer : Bytes := [0x05, 0x82, 0x00, 0x00, 0x01, 0x02]
    setup.run .connected "a" [.nextEvent, .watch "w" "k" false, .send "r" none .ping,
        .serverSends (event ++ answer), .nextCall, .await "r", .close, .nextEvent] =
      some (⟨.ok (some ⟨"Tarantool", ""⟩), none⟩, [.event .connected, .done, .sent, .performed,
        .call "w" "k" none, .outcome (.ok { Response.empty with sync := 2 }), .done,
        .event .closed]) := by
  cbv

/-- A server that ends its side leaves a request without an answer. -/
example :
    let welcome : Welcome := ⟨Welcome.line "Tarantool" ++ Welcome.line "", false, none⟩
    let setup : SessionSetup := ⟨.default, .dialed, 2, false, welcome⟩
    setup.run .connected "a" [.send "r" none .ping, .serverEnds, .await "r", .send "s" none .ping,
        .nextEvent, .nextEvent] =
      some (⟨.ok none, none⟩, [.sent, .performed, .outcome (.error (.connectionClosed "a")),
        .resolved (.error (.connectionClosed "a")), .event .connected, .event .closed]) := by
  cbv

end Simulation
end FailoverPool
