import FailoverPool.Exchange.Handshake

/-!
The life of a connection, move by move.

Callers, the clock, the network and the server take turns in any order. What is read of the server's
bytes is one frame at a time; `incoming` tells what it is, and `Reads` what becomes of it. Feeding
bytes reads in the same way (`feed_eq`), and every connection that was made begins in the same way
(`connect_eq`).
-/

namespace FailoverPool
namespace Exchange

/-- What happens to a connection next. -/
inductive Move where
  | send (now : Instant) (stream : UInt64) (request : Request)
  | watch (key : String) (reaction : Reaction)
  | unregister (handle : WatcherHandle)
  | openStream
  | poll (now : Instant) (sync : UInt64)
  | forget (sync : UInt64)
  | arrive (bytes : Bytes)
  /-- The reader takes in the next frame. -/
  | read
  | endInput
  /-- Reading or writing fails for some other reason. -/
  | fail
  | close

/-- Bytes arrive that the reader takes in later. -/
def arrive (exchange : Exchange) (bytes : Bytes) : Exchange :=
  if exchange.isClosed then exchange else { exchange with unread := exchange.unread ++ bytes }

def step (exchange : Exchange) : Move → Exchange
  | .send now stream request => (exchange.send now stream request).1
  | .watch key reaction => (exchange.watch key reaction).1
  | .unregister handle => exchange.unregister handle
  | .openStream => exchange.openStream.1
  | .poll now sync => (exchange.poll now sync).1
  | .forget sync => exchange.forget sync
  | .arrive bytes => exchange.arrive bytes
  | .read => exchange.readNext
  | .endInput => exchange.endInput
  | .fail => exchange.teardown
  | .close => exchange.close.1

/-- Any number of moves. -/
def run (exchange : Exchange) (moves : List Move) : Exchange := moves.foldl step exchange

theorem run_append (exchange : Exchange) (earlier later : List Move) :
    exchange.run (earlier ++ later) = (exchange.run earlier).run later :=
  List.foldl_append

/-- What comes next among the unread bytes. -/
inductive Incoming where
  | nothing
  | event (key : String) (value : Option Value)
  | response (response : Response)
  | breach (error : Error)

def incoming (exchange : Exchange) : Incoming :=
  match (Frame.split exchange.unread).1 with
  | .error fault => if fault.isIncomplete then .nothing else .breach fault.toError
  | .ok payload =>
      match Frame.ofPayload payload with
      | .error error => .breach error
      | .ok frame =>
          if codeOf frame.header = some FrameCode.event.number then
            match eventOf frame.body with
            | .ok (key, value) => .event key value
            | .error error => .breach error
          else
            match Response.ofFrame frame with
            | .ok response => .response response
            | .error error => .breach error

/-- What an open connection does with what comes next. -/
inductive Reads (exchange : Exchange) : Incoming → Exchange → Prop where
  | nothing : Reads exchange .nothing exchange
  | event (key : String) (value : Option Value) (unread : Bytes) :
      Reads exchange (.event key value) ({ exchange with unread }.handleEvent key value)
  | response (response : Response) (unread : Bytes) :
      Reads exchange (.response response)
        ({ exchange with unread }.resolve response.sync response.toResult)
  | breach (error : Error) (unread : Bytes) :
      Reads exchange (.breach error) { exchange with unread }.teardown

theorem reads_readNext {exchange : Exchange} (isOpen : exchange.isClosed = false) :
    exchange.Reads exchange.incoming exchange.readNext := by
  unfold readNext incoming
  rw [if_neg (by simp [isOpen])]
  cases Frame.split exchange.unread with
  | mk payload rest =>
      cases payload with
      | error fault =>
          dsimp only
          split
          · exact .nothing
          · exact .breach _ exchange.unread
      | ok payload =>
          dsimp only
          unfold receive
          cases Frame.ofPayload payload with
          | error error => exact .breach error rest
          | ok frame =>
              simp only [Except.bind, dispatch]
              split
              · cases eventOf frame.body with
                | error error => exact .breach error rest
                | ok event => exact .event event.1 event.2 rest
              · cases Response.ofFrame frame with
                | error error => exact .breach error rest
                | ok response => exact .response response rest

theorem readNext_of_isClosed {exchange : Exchange} (closed : exchange.isClosed = true) :
    exchange.readNext = exchange := by
  rw [readNext, if_pos closed]

theorem isClosed_teardown (exchange : Exchange) : exchange.teardown.isClosed = true := by
  unfold teardown
  split
  · assumption
  · rfl

theorem readFrames_eq (count : Nat) (exchange : Exchange) :
    exchange.readFrames count = exchange.run (List.replicate count .read) := by
  induction count generalizing exchange with
  | zero => rfl
  | succ count inductionHypothesis => exact inductionHypothesis exchange.readNext

/-- To be fed bytes is to have them arrive and to read as many frames as they can be. -/
theorem feed_eq {exchange : Exchange} (isOpen : exchange.isClosed = false) (bytes : Bytes) :
    exchange.feed bytes = exchange.run
      (.arrive bytes :: List.replicate (exchange.unread ++ bytes).length .read) := by
  have arrived : exchange.arrive bytes = { exchange with unread := exchange.unread ++ bytes } := by
    rw [arrive, if_neg (by simp [isOpen])]
  show _ = (exchange.arrive bytes).run _
  rw [feed, if_neg (by simp [isOpen]), readAll, readFrames_eq, arrived]

theorem readNext_connecting (address : String) (timeout : Duration) (unread : Bytes) :
    (∃ left, (connecting address timeout unread).readNext = connecting address timeout left) ∨
      ∃ left, (connecting address timeout unread).readNext =
        (connecting address timeout left).teardown := by
  have reads := @reads_readNext (connecting address timeout unread) rfl
  generalize (connecting address timeout unread).incoming = incoming,
    (connecting address timeout unread).readNext = after at reads ⊢
  cases reads with
  | nothing => exact .inl ⟨unread, rfl⟩
  -- Nobody watches anything yet, and no request waits.
  | event _ _ left | response _ left => exact .inl ⟨left, rfl⟩
  | breach _ left => exact .inr ⟨left, rfl⟩

theorem takeTurns_of_isClosed {exchange : Exchange} (closed : exchange.isClosed = true)
    (turns : List ReaderTurn) : turns.foldl takeTurn exchange = exchange := by
  have stays (turn : ReaderTurn) : exchange.takeTurn turn = exchange := by
    cases turn with
    | read => exact readNext_of_isClosed closed
    | fail => rw [takeTurn, teardown, if_pos closed]
  induction turns with
  | nil => rfl
  | cons turn later inductionHypothesis => rw [List.foldl_cons, stays, inductionHypothesis]

/-- A reader that has its turns before anybody knows of the connection takes in frames, which
concern nobody, until it ends the connection if it ever does. -/
theorem takeTurns_connecting (address : String) (timeout : Duration) (unread : Bytes)
    (turns : List ReaderTurn) :
    (∃ left, turns.foldl takeTurn (connecting address timeout unread) =
        connecting address timeout left) ∨
      ∃ left, turns.foldl takeTurn (connecting address timeout unread) =
        (connecting address timeout left).teardown := by
  have stays (left : Bytes) := @takeTurns_of_isClosed _
    (isClosed_teardown (connecting address timeout left))
  induction turns generalizing unread with
  | nil => exact .inl ⟨unread, rfl⟩
  | cons turn later inductionHypothesis =>
      rw [List.foldl_cons]
      cases turn with
      | fail => exact .inr ⟨unread, stays unread later⟩
      | read =>
          rw [takeTurn]
          rcases readNext_connecting address timeout unread with ⟨left, isRead⟩ | ⟨left, isRead⟩
          · rw [isRead]
            exact inductionHypothesis left
          · rw [isRead]
            exact .inr ⟨left, stays left later⟩

theorem exists_ok_of_map_toOption {Fault Result View : Type} {result : Except Fault Result}
    {look : Result → View} {view : View} (isSeen : result.toOption.map look = some view) :
    ∃ value, result = .ok value ∧ look value = view := by
  cases result with
  | error fault => cases isSeen
  | ok value => exact ⟨value, rfl, Option.some.inj isSeen⟩

/-- A connection that was made is one that was established. -/
theorem connect_eq {address : String} {options : ConnectOptions} {stream : Bytes}
    {early : List ReaderTurn} {exchange : Exchange}
    (connects : (connect address options stream early).result = .ok exchange) :
    ∃ unread, exchange = established address options.timeout unread := by
  unfold connect at connects
  dsimp only at connects
  split at connects
  · cases connects
  · generalize isRest : (Handshake.run options.user options.password stream).rest = rest at connects
    rcases takeTurns_connecting address options.timeout rest early with
      ⟨left, isRead⟩ | ⟨left, isRead⟩
    · rw [isRead] at connects
      cases connects
      exact ⟨left, rfl⟩
    · rw [isRead] at connects
      cases connects

end Exchange
end FailoverPool
