import FailoverPool.Exchange.Dispatch
import FailoverPool.Options
import FailoverPool.Protocol.Greeting

/-!
How a connection is established: the server greets, a user proves the password, and the connection
is made known to its caller unless its reader has ended it by then.
-/

namespace FailoverPool

structure Handshake where
  result : Except Error Greeting
  written : Bytes
  /-- What the server has sent beyond the handshake. -/
  rest : Bytes
  /-- The server's bytes ended before the handshake did. -/
  isStarved : Bool

namespace Handshake

/-- The handshake of a user, or of a guest without a name, with a server that sends these bytes
and then ends. -/
def run (user password : String) (stream : Bytes) : Handshake :=
  if stream.length < Greeting.size then ⟨.error (.io .earlyEnd), [], [], true⟩
  else
    let rest := stream.drop Greeting.size
    match Greeting.parse (stream.take Greeting.size) with
    | .error error => ⟨.error error, [], rest, false⟩
    | .ok greeting =>
        if user.isEmpty then ⟨.ok greeting, [], rest, false⟩
        else
          match scramble greeting.salt password with
          | .error error => ⟨.error error, [], rest, false⟩
          | .ok proof =>
              let written := Frame.encode .auth 0 0 (Frame.authBody user proof)
              match Frame.split rest with
              | (.error fault, rest) =>
                  ⟨.error fault.toError, written, rest, fault.isIncomplete⟩
              | (.ok payload, rest) =>
                  let reply := do (← Response.ofFrame (← Frame.ofPayload payload)).toResult
                  ⟨reply.map fun _ => greeting, written, rest, false⟩

end Handshake

/-- What the reader of a connection does when it has a turn. -/
inductive ReaderTurn where
  /-- It takes in the next frame, if that is whole. -/
  | read
  /-- The input has ended, or reading it fails. -/
  | fail
  deriving DecidableEq, Repr

namespace Exchange

def takeTurn (exchange : Exchange) : ReaderTurn → Exchange
  | .read => exchange.readNext
  | .fail => exchange.teardown

/-- From connecting to connected, and an event tells it. Whoever finds that the connection has ended
meanwhile is refused. The change of the state and the event are one operation here: what the reader
does at the same moment comes before both or behind both. -/
def publish (exchange : Exchange) : Except Error Exchange :=
  if exchange.state = .connecting then
    .ok { exchange with state := .connected, events := exchange.events ++ [.connected] }
  else .error (.connectionClosed exchange.address)

end Exchange

/-- What became of an attempt to connect. -/
structure ConnectAttempt where
  handshake : Handshake
  result : Except Error Exchange
  /-- The events that were told by the end of the attempt. -/
  events : List EventKind

/-- Connect over a stream of bytes from the server. The reader of a connection begins behind the
handshake, and takes these turns before the connection is made known to the caller. -/
def Exchange.connect (address : String) (options : ConnectOptions) (stream : Bytes)
    (early : List ReaderTurn) : ConnectAttempt :=
  let handshake := Handshake.run options.user options.password stream
  match handshake.result with
  | .error error => ⟨handshake, .error error, []⟩
  | .ok _ =>
      let read := early.foldl takeTurn (connecting address options.timeout handshake.rest)
      match read.publish with
      | .error error => ⟨handshake, .error error, read.events⟩
      | .ok exchange => ⟨handshake, .ok exchange, exchange.events⟩

end FailoverPool
