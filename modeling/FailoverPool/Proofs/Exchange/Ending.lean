import FailoverPool.Proofs.Exchange.Matching

/-!
A connection ends once, and completely.

A connection is open and has announced itself (`IsAlive`), or it has ended and has announced that
as well (`IsOver`). `EndedBy` lists the moves that lead from the one to the other; none leads back.
Main statement: `endsOnce_of_connect`.
-/

namespace FailoverPool
namespace Exchange

variable {exchange before after : Exchange} {address : String}

/-- The connection is open, and has announced itself. -/
structure IsAlive (exchange : Exchange) (address : String) : Prop where
  address : exchange.address = address
  state : exchange.state = .connected
  events : exchange.events = [.connected]

/-- The connection has ended, has announced that, and has nothing in flight. -/
structure IsOver (exchange : Exchange) (address : String) : Prop where
  address : exchange.address = address
  state : exchange.state = .closed
  events : exchange.events = [.connected, .closed]
  pending : exchange.pending = []

/-- The move ends a connection that is open. -/
def EndedBy (exchange : Exchange) : Move → Prop
  | .endInput | .fail | .close => True
  | .read => ∃ error, exchange.incoming = .breach error
  | _ => False

/-- The move is an affair of the future of this request. -/
def Move.Concerns (sync : UInt64) : Move → Prop
  | .poll _ number | .forget number => number = sync
  | _ => False

/-- Nothing has happened to the connection as a whole. -/
structure Endures (before after : Exchange) : Prop where
  address : after.address = before.address
  state : after.state = before.state
  events : after.events = before.events

theorem Tells.endures (tells : before.Tells after) : before.Endures after :=
  ⟨tells.address, tells.state, tells.events⟩

theorem IsAlive.isClosed_eq (isAlive : exchange.IsAlive address) : exchange.isClosed = false := by
  rw [isClosed, isAlive.state]
  rfl

theorem IsOver.isClosed_eq (isOver : exchange.IsOver address) : exchange.isClosed = true := by
  rw [isClosed, isOver.state]
  rfl

theorem IsOver.isConnected_eq (isOver : exchange.IsOver address) :
    exchange.isConnected = false := by
  rw [isConnected, isOver.state]
  rfl

theorem IsOver.send_eq (isOver : exchange.IsOver address) (now : Instant) (stream : UInt64)
    (request : Request) :
    exchange.send now stream request = (exchange, .error (.connectionClosed address)) := by
  rw [send, if_neg (by simp [isOver.isConnected_eq]), isOver.address]

theorem IsOver.watch_eq (isOver : exchange.IsOver address) (key : String) (reaction : Reaction) :
    exchange.watch key reaction = (exchange, .error (.connectionClosed address)) := by
  rw [watch, if_neg (by simp [isOver.isConnected_eq]), isOver.address]

theorem IsOver.close_eq (isOver : exchange.IsOver address) :
    exchange.close = (exchange, .error (.connectionClosed address)) := by
  rw [close, if_pos isOver.isClosed_eq, isOver.address]

theorem IsOver.teardown_eq (isOver : exchange.IsOver address) : exchange.teardown = exchange := by
  rw [teardown, if_pos isOver.isClosed_eq]

theorem IsAlive.endures (isAlive : before.IsAlive address) (endures : before.Endures after) :
    after.IsAlive address :=
  ⟨endures.address.trans isAlive.address, endures.state.trans isAlive.state,
    endures.events.trans isAlive.events⟩

theorem IsAlive.teardown (isAlive : exchange.IsAlive address) :
    exchange.teardown.IsOver address := by
  rw [teardown_eq isAlive.isClosed_eq]
  constructor
  · exact isAlive.address
  · rfl
  · rw [isAlive.events]
    rfl
  · rfl

theorem endures_resolve (exchange : Exchange) (sync : UInt64) (outcome : Outcome) :
    exchange.Endures (exchange.resolve sync outcome) := by
  unfold resolve
  split <;> exact ⟨rfl, rfl, rfl⟩

theorem endures_send (exchange : Exchange) (now : Instant) (stream : UInt64) (request : Request) :
    exchange.Endures (exchange.send now stream request).1 := by
  unfold send
  dsimp only
  split <;> exact ⟨rfl, rfl, rfl⟩

theorem endures_poll (exchange : Exchange) (now : Instant) (sync : UInt64) :
    exchange.Endures (exchange.poll now sync).1 := by
  obtain ⟨pending, futures, isPoll, _⟩ := exchange.poll_fst now sync
  rw [isPoll]
  exact ⟨rfl, rfl, rfl⟩

/-- The moves that end an open connection end it in the same way. -/
theorem step_of_endedBy (isOpen : exchange.isClosed = false) {move : Move}
    (isEnded : exchange.EndedBy move) :
    ∃ unread, exchange.step move = ({ exchange with unread } : Exchange).teardown := by
  cases move with
  | endInput | fail => exact ⟨exchange.unread, rfl⟩
  | close => exact ⟨exchange.unread, exchange.close_fst⟩
  | read =>
      obtain ⟨error, isBreach⟩ := isEnded
      have reads := reads_readNext isOpen
      rw [isBreach] at reads
      show ∃ unread, exchange.readNext = _
      generalize exchange.readNext = after at reads ⊢
      cases reads with
      | breach _ unread => exact ⟨unread, rfl⟩
  | _ => exact isEnded.elim

theorem endures_step (isOpen : exchange.isClosed = false) {move : Move}
    (goesOn : ¬ exchange.EndedBy move) : exchange.Endures (exchange.step move) := by
  cases move with
  | send now stream request => exact exchange.endures_send now stream request
  | watch key reaction => exact (exchange.tells_watch key reaction).endures
  | unregister handle => exact (exchange.tells_unregister handle).endures
  | openStream => exact exchange.tells_openStream.endures
  | poll now sync => exact exchange.endures_poll now sync
  | forget sync => exact ⟨rfl, rfl, rfl⟩
  | arrive bytes => exact (exchange.tells_arrive bytes).endures
  | endInput | fail | close => exact absurd trivial goesOn
  | read =>
      have reads := reads_readNext isOpen
      have noBreach (error : Error) : exchange.incoming ≠ .breach error :=
        fun isBreach => goesOn ⟨error, isBreach⟩
      show exchange.Endures exchange.readNext
      generalize exchange.incoming = incoming, exchange.readNext = after at reads noBreach ⊢
      cases reads with
      | nothing => exact ⟨rfl, rfl, rfl⟩
      | event key value unread => exact (exchange.tells_event key value unread).endures
      | response response unread =>
          have endures := ({ exchange with unread } : Exchange).endures_resolve response.sync
            response.toResult
          exact ⟨endures.address, endures.state, endures.events⟩
      | breach error _ => exact absurd rfl (noBreach error)

/-- An ended connection sends no frames, and takes no numbers for any. -/
structure Silent (before after : Exchange) : Prop where
  sent : after.sent = before.sent
  nextSync : after.nextSync = before.nextSync

theorem IsOver.step (isOver : exchange.IsOver address) (move : Move) :
    (exchange.step move).IsOver address ∧ exchange.Silent (exchange.step move) := by
  have same {after : Exchange} (isSame : after = exchange) :
      after.IsOver address ∧ exchange.Silent after := by
    rw [isSame]
    exact ⟨isOver, rfl, rfl⟩
  cases move with
  | send now stream request => exact same (by rw [Exchange.step, isOver.send_eq])
  | watch key reaction => exact same (by rw [Exchange.step, isOver.watch_eq])
  | unregister handle =>
      rw [Exchange.step, unregister]
      simp only [isOver.isConnected_eq, Bool.and_false, Bool.false_eq_true, if_false]
      exact ⟨⟨isOver.address, isOver.state, isOver.events, isOver.pending⟩, rfl, rfl⟩
  | openStream => exact ⟨⟨isOver.address, isOver.state, isOver.events, isOver.pending⟩, rfl, rfl⟩
  | poll now sync =>
      obtain ⟨pending, futures, isPoll, isSublist⟩ := exchange.poll_fst now sync
      rw [isOver.pending] at isSublist
      rw [Exchange.step, isPoll]
      exact ⟨⟨isOver.address, isOver.state, isOver.events, List.sublist_nil.mp isSublist⟩, rfl, rfl⟩
  | forget sync => exact ⟨⟨isOver.address, isOver.state, isOver.events, isOver.pending⟩, rfl, rfl⟩
  | arrive bytes => exact same (if_pos isOver.isClosed_eq)
  | read => exact same (readNext_of_isClosed isOver.isClosed_eq)
  | endInput | fail => exact same isOver.teardown_eq
  | close => exact same (by rw [Exchange.step, isOver.close_eq])

theorem lookup_map (futures : List (UInt64 × ResponseFuture UInt64))
    (change : UInt64 → ResponseFuture UInt64 → ResponseFuture UInt64) (sync : UInt64) :
    (futures.map fun (number, future) => (number, change number future)).lookup sync =
      (futures.lookup sync).map (change sync) := by
  induction futures with
  | nil => rfl
  | cons entry later inductionHypothesis =>
      obtain ⟨number, future⟩ := entry
      rw [List.map_cons, List.lookup_cons, List.lookup_cons]
      cases isFirst : sync == number with
      | true =>
          obtain rfl : sync = number := by simpa using isFirst
          rfl
      | false => exact inductionHypothesis

theorem lookup_modifyFuture (exchange : Exchange) (number sync : UInt64)
    (change : ResponseFuture UInt64 → ResponseFuture UInt64) :
    (exchange.modifyFuture number change).futures.lookup sync =
      (exchange.futures.lookup sync).map fun future =>
        if sync = number then change future else future :=
  lookup_map exchange.futures (fun place future => if place = number then change future else future)
    sync

/-- The caller of a request has its future, which has been given this result. -/
def Holds (exchange : Exchange) (sync : UInt64) (outcome : Outcome) : Prop :=
  ∃ future, exchange.futures.lookup sync = some future ∧ future.state = .pending (.sent outcome)

theorem Holds.outcome {sync : UInt64} {outcome : Outcome} (holds : exchange.Holds sync outcome)
    (now : Instant) : (exchange.poll now sync).2 = .ready outcome := by
  obtain ⟨future, isHeld, isSent⟩ := holds
  simp [poll, isHeld, ResponseFuture.poll, isSent]

theorem Holds.poll {sync : UInt64} {outcome : Outcome} (holds : exchange.Holds sync outcome)
    (now : Instant) {number : UInt64} (isOther : number ≠ sync) :
    (exchange.poll now number).1.Holds sync outcome := by
  obtain ⟨future, isHeld, isSent⟩ := holds
  have isSettled : future.abandon = future := by rw [ResponseFuture.abandon, isSent]
  refine ⟨future, ?_, isSent⟩
  unfold Exchange.poll
  split
  · exact isHeld
  · dsimp only
    split
    · simp [lookup_modifyFuture, isHeld, isOther.symm]
    · simp [lookup_modifyFuture, isHeld, isOther.symm, isSettled]

theorem lookup_filter (futures : List (UInt64 × ResponseFuture UInt64)) {number sync : UInt64}
    (isOther : number ≠ sync) :
    (futures.filter (·.1 ≠ number)).lookup sync = futures.lookup sync := by
  induction futures with
  | nil => rfl
  | cons entry later inductionHypothesis =>
      obtain ⟨place, future⟩ := entry
      by_cases isForgotten : place = number
      · subst isForgotten
        have isNot : (sync == place) = false := beq_false_of_ne isOther.symm
        rw [List.filter_cons_of_neg (by simp), inductionHypothesis, List.lookup_cons, isNot]
      · rw [List.filter_cons_of_pos (by simpa using isForgotten), List.lookup_cons,
          List.lookup_cons, inductionHypothesis]

/-- What a caller has been given stays until the caller asks for it. -/
theorem Holds.step {sync : UInt64} {outcome : Outcome} (holds : exchange.Holds sync outcome)
    (isOver : exchange.IsOver address) {move : Move} (isOther : ¬ move.Concerns sync) :
    (exchange.step move).Holds sync outcome := by
  have same {after : Exchange} (isSame : after = exchange) : after.Holds sync outcome :=
    isSame ▸ holds
  have told {after : Exchange} (tells : exchange.Tells after) : after.Holds sync outcome := by
    unfold Holds
    rw [tells.futures]
    exact holds
  cases move with
  | send now stream request => exact same (by rw [Exchange.step, isOver.send_eq])
  | watch key reaction => exact told (exchange.tells_watch key reaction)
  | unregister handle => exact told (exchange.tells_unregister handle)
  | openStream => exact told exchange.tells_openStream
  | poll now number => exact holds.poll now isOther
  | forget number =>
      obtain ⟨future, isHeld, isSent⟩ := holds
      exact ⟨future, (lookup_filter exchange.futures isOther).trans isHeld, isSent⟩
  | arrive bytes => exact told (exchange.tells_arrive bytes)
  | read => exact same (readNext_of_isClosed isOver.isClosed_eq)
  | endInput | fail => exact same isOver.teardown_eq
  | close => exact same (by rw [Exchange.step, isOver.close_eq])

theorem Holds.run {sync : UInt64} {outcome : Outcome} (holds : exchange.Holds sync outcome)
    (isOver : exchange.IsOver address) {moves : List Move}
    (areOthers : ∀ move ∈ moves, ¬ move.Concerns sync) :
    (exchange.run moves).Holds sync outcome := by
  induction moves generalizing exchange with
  | nil => exact holds
  | cons move later inductionHypothesis =>
      have isOther : ¬ move.Concerns sync := areOthers move List.mem_cons_self
      exact inductionHypothesis (holds.step isOver isOther) (isOver.step move).1
        fun other isLater => areOthers other (.tail _ isLater)

theorem holds_teardown (isOpen : exchange.isClosed = false) {sync : UInt64}
    (isPending : sync ∈ exchange.pending) {future : ResponseFuture UInt64}
    (isHeld : exchange.futures.lookup sync = some future)
    (waits : future.state = .pending .empty) :
    exchange.teardown.Holds sync (.error (.connectionClosed exchange.address)) := by
  rw [teardown_eq isOpen]
  refine ⟨exchange.failInFlight sync future, ?_, ?_⟩
  · show (exchange.futures.map _).lookup sync = _
    rw [lookup_map, isHeld, Option.map_some]
  · rw [failInFlight, if_pos isPending, ResponseFuture.send, waits]

theorem IsAlive.step_of_endedBy (isAlive : exchange.IsAlive address) {move : Move}
    (isEnded : exchange.EndedBy move) : (exchange.step move).IsOver address := by
  obtain ⟨unread, isTeardown⟩ := Exchange.step_of_endedBy isAlive.isClosed_eq isEnded
  rw [isTeardown]
  have unreadAlive : ({ exchange with unread } : Exchange).IsAlive address :=
    ⟨isAlive.address, isAlive.state, isAlive.events⟩
  exact unreadAlive.teardown

theorem IsAlive.fails (isAlive : exchange.IsAlive address) (attends : exchange.Attends)
    {move : Move} (isEnded : exchange.EndedBy move) {sync : UInt64}
    {future : ResponseFuture UInt64} (isHeld : exchange.futures.lookup sync = some future)
    (waits : future.state = .pending .empty) {later : List Move}
    (areOthers : ∀ move ∈ later, ¬ move.Concerns sync) (now : Instant) :
    (((exchange.step move).run later).poll now sync).2 =
      .ready (.error (.connectionClosed address)) := by
  have isOver := isAlive.step_of_endedBy isEnded
  obtain ⟨unread, isTeardown⟩ := Exchange.step_of_endedBy isAlive.isClosed_eq isEnded
  have holds : (exchange.step move).Holds sync (.error (.connectionClosed address)) := by
    have isOpen : ({ exchange with unread } : Exchange).isClosed = false := isAlive.isClosed_eq
    have inFlight := (attends _ (mem_of_lookup isHeld)).inFlight waits
    rw [isTeardown, ← isAlive.address]
    exact holds_teardown isOpen inFlight isHeld waits
  exact (holds.run isOver areOthers).outcome now

theorem stage_step (stage : exchange.IsAlive address ∨ exchange.IsOver address) (move : Move) :
    (exchange.step move).IsAlive address ∨ (exchange.step move).IsOver address := by
  rcases stage with isAlive | isOver
  · by_cases isEnded : exchange.EndedBy move
    · exact .inr (isAlive.step_of_endedBy isEnded)
    · exact .inl (isAlive.endures (endures_step isAlive.isClosed_eq isEnded))
  · exact .inr (isOver.step move).1

theorem stage_run (stage : exchange.IsAlive address ∨ exchange.IsOver address)
    (moves : List Move) :
    (exchange.run moves).IsAlive address ∨ (exchange.run moves).IsOver address := by
  induction moves generalizing exchange with
  | nil => exact stage
  | cons move later inductionHypothesis => exact inductionHypothesis (stage_step stage move)

end Exchange
end FailoverPool
