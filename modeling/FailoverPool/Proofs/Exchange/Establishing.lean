import FailoverPool.Proofs.Exchange.Listening
import FailoverPool.Proofs.Protocol.Framing
import FailoverPool.Proofs.Protocol.Lengths
import FailoverPool.Proofs.Protocol.Passwords

/-!
How a connection comes about, byte for byte.

A server greets, and a user proves the password and is welcomed: `Establishes` tells of which bytes
that takes, and what of the stream is left. The reader of the connection begins with exactly what is
left, and may have had some turns when the connection is made known to its caller. Unless it has
ended the connection in one of them (`GetsThrough`), the caller has a connection whose reader goes
on from there (`Listens`). Main statement: `Exchange.connects_of_stream`.
-/

namespace FailoverPool

variable {user password : String} {stream raw rest : Bytes} {greeting : Greeting}

namespace Handshake

end Handshake

namespace Exchange

section Authentication

variable {user : String} {proof : Bytes}

end Authentication

section Connecting

/-- A connection that has just come about, and has said so, with these bytes to read. Nobody has
used it yet. -/
structure Begins (exchange : Exchange) (address : String) (timeout : Duration) (unread : Bytes) :
    Prop where
  address : exchange.address = address
  timeout : exchange.timeout = timeout
  state : exchange.state = .connected
  nextSync : exchange.nextSync = 1
  nextStream : exchange.nextStream = 1
  nextWatcher : exchange.nextWatcher = 1
  pending : exchange.pending = []
  futures : exchange.futures = []
  watchers : exchange.watchers = []
  sent : exchange.sent = []
  events : exchange.events = [.connected]
  calls : exchange.calls = []
  unread : exchange.unread = unread

/-- Turns of a reader in which it does not end the connection: what it comes upon, and what it
leaves. -/
inductive GetsThrough : List ReaderTurn → Bytes → List Incoming → Bytes → Prop where
  | done (bytes : Bytes) : GetsThrough [] bytes [] bytes
  | waits {later : List ReaderTurn} {bytes left : Bytes} {found : List Incoming} :
      Frame.IsPartial bytes → GetsThrough later bytes found left →
      GetsThrough (.read :: later) bytes found left
  | meets {later : List ReaderTurn} {bytes rest left : Bytes} {incoming : Incoming}
      {found : List Incoming} : Meets bytes incoming rest → (∀ error, incoming ≠ .breach error) →
      GetsThrough later rest found left →
      GetsThrough (.read :: later) bytes (incoming :: found) left

/-- The reader of a connection hears what this stream says, of which it has heard some already. -/
structure Listens (start : Exchange) (stream : Bytes) (found : List Incoming) : Prop where
  /-- Every byte is heard once, or is still unread. -/
  passes : ∀ moves, Passes (stream ++ start.gathered arrived moves)
    (found ++ start.gathered heard moves) (start.run moves).unread
  waits : ∀ moves, Frame.IsPartial (start.run moves).unread →
    (start.run moves).step .read = start.run moves
  /-- What is heard is done. -/
  takes : ∀ moves incoming left, (start.run moves).isClosed = false →
    Meets (start.run moves).unread incoming left →
      (start.run moves).Takes left incoming ((start.run moves).step .read)

variable {address : String} {timeout : Duration} {bytes left : Bytes} {incoming : Incoming}
  {found : List Incoming} {turns : List ReaderTurn}

theorem GetsThrough.passes (getsThrough : GetsThrough turns bytes found left) :
    Passes bytes found left := by
  induction getsThrough with
  | done bytes => exact .done bytes
  | waits _ _ inductionHypothesis => exact inductionHypothesis
  | meets isMet _ _ inductionHypothesis => exact .next isMet inductionHypothesis

/-- A connection goes on hearing where the turns before it have stopped. -/
theorem Begins.listens {start : Exchange} (begins : start.Begins address timeout left)
    (getsThrough : GetsThrough turns bytes found left) : start.Listens bytes found where
  passes moves := by
    have passes := start.passes_run moves
    rw [begins.unread] at passes
    exact (getsThrough.passes.append _).trans passes
  waits moves isPartial := readNext_of_isPartial isPartial
  takes moves incoming left isOpen meets := takes_readNext isOpen meets

variable {options : ConnectOptions} {stream : Bytes} {early : List ReaderTurn}

end Connecting

end Exchange
end FailoverPool
