import FailoverPool.Proofs.Exchange.Moves

/-!
What the operations of a connection do, field by field.

Most operations only tell the server of keys that are watched (`Tells`). Requests in flight and the
futures of callers are touched by sending, polling and forgetting, by `resolve`, and by `teardown`,
which amounts to one `resolve` for each request in flight (`teardown_eq`).
-/

namespace FailoverPool

/-- The call of a watcher's callback for an event. -/
def Watcher.call (key : String) (value : Option Value) (watcher : Watcher) : WatcherCall :=
  ⟨watcher.id, key, value⟩

namespace Outgoing

/-- The number of the frame with this place among those of a connection. -/
def numberAt (place : Nat) : UInt64 := UInt64.ofNat (place + 1)

end Outgoing

namespace Exchange

/-- The frames that were sent are numbered from one on, and the next number goes on from there. -/
structure Numbered (exchange : Exchange) : Prop where
  sent : exchange.sent.map Outgoing.sync = (List.range exchange.sent.length).map Outgoing.numberAt
  next : exchange.nextSync = Outgoing.numberAt exchange.sent.length

/-- A frame is sent that takes the next number. -/
theorem Numbered.push {before after : Exchange} (numbered : before.Numbered) {frame : Outgoing}
    (isSent : after.sent = before.sent ++ [frame]) (isNumber : frame.sync = before.nextSync)
    (isNext : after.nextSync = before.nextSync + 1) : after.Numbered where
  sent := by
    rw [isSent, List.map_append, numbered.sent, List.length_append, List.length_singleton,
      List.range_succ, List.map_append, List.map_singleton, List.map_singleton, isNumber,
      numbered.next]
  next := by
    rw [isNext, numbered.next, isSent, List.length_append, List.length_singleton]
    exact (UInt64.ofNat_add (before.sent.length + 1) 1).symm

/-- Between two moments nothing was done but to tell the server of watched keys, and to keep
account of watchers, streams and bytes. -/
structure Tells (before after : Exchange) : Prop where
  address : after.address = before.address
  state : after.state = before.state
  events : after.events = before.events
  pending : after.pending = before.pending
  futures : after.futures = before.futures
  sent : before.sent <+: after.sent
  numbered : before.Numbered → after.Numbered

namespace Tells

theorem refl (exchange : Exchange) : exchange.Tells exchange :=
  ⟨rfl, rfl, rfl, rfl, rfl, List.prefix_rfl, id⟩

theorem trans {first second third : Exchange} (earlier : first.Tells second)
    (later : second.Tells third) : first.Tells third where
  address := later.address.trans earlier.address
  state := later.state.trans earlier.state
  events := later.events.trans earlier.events
  pending := later.pending.trans earlier.pending
  futures := later.futures.trans earlier.futures
  sent := earlier.sent.trans later.sent
  numbered numbered := later.numbered (earlier.numbered numbered)

end Tells

theorem tells_sendWatch (exchange : Exchange) (key : String) :
    exchange.Tells (exchange.sendWatch key) :=
  ⟨rfl, rfl, rfl, rfl, rfl, List.prefix_append _ _, fun numbered => numbered.push rfl rfl rfl⟩

theorem tells_sendUnwatch (exchange : Exchange) (key : String) :
    exchange.Tells (exchange.sendUnwatch key) :=
  ⟨rfl, rfl, rfl, rfl, rfl, List.prefix_append _ _, fun numbered => numbered.push rfl rfl rfl⟩

theorem tells_unregister (exchange : Exchange) (handle : WatcherHandle) :
    exchange.Tells (exchange.unregister handle) := by
  have removed : exchange.Tells { exchange with watchers := exchange.watchers.remove handle } :=
    ⟨rfl, rfl, rfl, rfl, rfl, List.prefix_rfl, fun ⟨sent, next⟩ => ⟨sent, next⟩⟩
  unfold unregister
  dsimp only
  split
  · exact removed.trans (tells_sendUnwatch _ handle.key)
  · exact removed

theorem tells_watch (exchange : Exchange) (key : String) (reaction : Reaction) :
    exchange.Tells (exchange.watch key reaction).1 := by
  unfold watch
  dsimp only
  split
  · have registered : exchange.Tells { exchange with
        nextWatcher := exchange.nextWatcher + 1
        watchers := exchange.watchers.add key ⟨exchange.nextWatcher, reaction⟩ } :=
      ⟨rfl, rfl, rfl, rfl, rfl, List.prefix_rfl, fun ⟨sent, next⟩ => ⟨sent, next⟩⟩
    split
    · exact registered.trans (tells_sendWatch _ key)
    · exact registered
  · exact .refl exchange

theorem tells_openStream (exchange : Exchange) : exchange.Tells exchange.openStream.1 :=
  ⟨rfl, rfl, rfl, rfl, rfl, List.prefix_rfl, fun ⟨sent, next⟩ => ⟨sent, next⟩⟩

theorem tells_unread (exchange : Exchange) (unread : Bytes) :
    exchange.Tells { exchange with unread } :=
  ⟨rfl, rfl, rfl, rfl, rfl, List.prefix_rfl, fun ⟨sent, next⟩ => ⟨sent, next⟩⟩

theorem tells_arrive (exchange : Exchange) (bytes : Bytes) :
    exchange.Tells (exchange.arrive bytes) := by
  unfold arrive
  split
  · exact .refl exchange
  · exact exchange.tells_unread _

theorem tells_foldl {Operation : Type} {apply : Exchange → Operation → Exchange}
    (tells : ∀ exchange operation, Tells exchange (apply exchange operation))
    (exchange : Exchange) (operations : List Operation) :
    exchange.Tells (operations.foldl apply exchange) := by
  induction operations generalizing exchange with
  | nil => exact .refl exchange
  | cons operation later inductionHypothesis =>
      exact (tells exchange operation).trans (inductionHypothesis (apply exchange operation))

theorem tells_runCallback (exchange : Exchange) (key : String) (value : Option Value)
    (watcher : Watcher) : exchange.Tells (exchange.runCallback key value watcher) := by
  have noted : exchange.Tells
      { exchange with calls := exchange.calls ++ [⟨watcher.id, key, value⟩] } :=
    ⟨rfl, rfl, rfl, rfl, rfl, List.prefix_rfl, fun ⟨sent, next⟩ => ⟨sent, next⟩⟩
  rw [runCallback_eq]
  exact noted.trans (tells_foldl tells_unregister _ _)

theorem tells_handleEvent (exchange : Exchange) (key : String) (value : Option Value) :
    exchange.Tells (exchange.handleEvent key value) := by
  unfold handleEvent
  split
  · exact .refl exchange
  · refine .trans (tells_foldl ?_ exchange _) (tells_sendWatch _ key)
    exact fun exchange watcher => exchange.tells_runCallback key value watcher

theorem tells_event (exchange : Exchange) (key : String) (value : Option Value) (unread : Bytes) :
    exchange.Tells ({ exchange with unread }.handleEvent key value) :=
  (exchange.tells_unread unread).trans (tells_handleEvent _ key value)

theorem calls_foldl_unregister (handles : List WatcherHandle) (exchange : Exchange) :
    (handles.foldl unregister exchange).calls = exchange.calls := by
  induction handles generalizing exchange with
  | nil => rfl
  | cons handle later inductionHypothesis =>
      rw [List.foldl_cons, inductionHypothesis, unregister]
      dsimp only
      split <;> rfl

theorem calls_foldl_runCallback (watchers : List Watcher) (exchange : Exchange) (key : String)
    (value : Option Value) :
    (watchers.foldl (fun exchange watcher => exchange.runCallback key value watcher)
      exchange).calls = exchange.calls ++ watchers.map (·.call key value) := by
  induction watchers generalizing exchange with
  | nil => simp
  | cons watcher later inductionHypothesis =>
      rw [List.foldl_cons, inductionHypothesis, runCallback_eq, callback, calls_foldl_unregister]
      simp [Watcher.call]

def newFuture (exchange : Exchange) (now : Instant) : ResponseFuture UInt64 :=
  (ResponseFuture.pending.withTimeout now exchange.timeout).onTimeout exchange.nextSync

theorem send_eq {exchange : Exchange} (connected : exchange.isConnected = true) (now : Instant)
    (stream : UInt64) (request : Request) :
    exchange.send now stream request = ({ exchange with
      nextSync := exchange.nextSync + 1
      pending := exchange.pending ++ [exchange.nextSync]
      futures := exchange.futures ++ [(exchange.nextSync, exchange.newFuture now)]
      sent := exchange.sent ++ [.request exchange.nextSync stream request] },
        .ok exchange.nextSync) := by
  rw [send, if_pos connected]
  rfl

theorem newFuture_eq (exchange : Exchange) (now : Instant) :
    ∃ deadline, exchange.newFuture now =
      ⟨.pending .empty, deadline, if deadline.isSome then some exchange.nextSync else none⟩ := by
  unfold newFuture ResponseFuture.withTimeout
  split
  · exact ⟨some _, rfl⟩
  · exact ⟨none, rfl⟩

theorem mem_of_lookup {exchange : Exchange} {sync : UInt64} {future : ResponseFuture UInt64}
    (isHeld : exchange.futures.lookup sync = some future) : (sync, future) ∈ exchange.futures := by
  obtain ⟨_, _, isSplit, _⟩ := List.lookup_eq_some_iff.mp isHeld
  simp [isSplit]

theorem poll_of_early {exchange : Exchange} {sync : UInt64} {future : ResponseFuture UInt64}
    (isHeld : exchange.futures.lookup sync = some future)
    (waits : future.state = .pending .empty) {now : Instant} (isEarly : future.isLate now = false) :
    exchange.poll now sync = (exchange.modifyFuture sync fun _ => future, .pending) := by
  have polled : future.poll now = ⟨future, .pending, none⟩ := by
    simp only [ResponseFuture.poll, waits, isEarly, Bool.false_eq_true, if_false]
  simp only [poll, isHeld, polled]

/-- What a poll of a future gives that waits no more: what it was sent, or that nothing will be
sent. It gives that once. -/
structure GivesOnce (future : ResponseFuture UInt64) (result : Poll) : Prop where
  decided : result ≠ .pending
  gives : future.state ≠ .pending .taken → ∃ outcome, result = .ready outcome
  sent : ∀ outcome, result = .ready outcome →
    outcome = .error .canceled ∨ future.state = .pending (.sent outcome)

theorem poll_of_settled {exchange : Exchange} {sync : UInt64} {future : ResponseFuture UInt64}
    (isHeld : exchange.futures.lookup sync = some future) (isPending : future.isPending = true)
    (isSettled : future.state ≠ .pending .empty) (now : Instant) :
    ∃ result, exchange.poll now sync =
        (exchange.modifyFuture sync fun _ => { future with state := .pending .taken }, result) ∧
      GivesOnce future result := by
  suffices polled : ∃ result, future.poll now =
      ⟨{ future with state := .pending .taken }, result, none⟩ ∧ GivesOnce future result by
    obtain ⟨result, isPolled, givesOnce⟩ := polled
    refine ⟨result, ?_, givesOnce⟩
    simp only [poll, isHeld, isPolled]
  obtain ⟨state, deadline, hook⟩ := future
  cases state with
  | ready outcome => simp [ResponseFuture.isPending] at isPending
  | pending inbox =>
      cases inbox with
      | empty => exact absurd rfl isSettled
      | sent outcome => exact ⟨_, rfl, nofun, fun _ => ⟨_, rfl⟩, by rintro _ ⟨⟩; exact .inr rfl⟩
      | abandoned => exact ⟨_, rfl, nofun, fun _ => ⟨_, rfl⟩, by rintro _ ⟨⟩; exact .inl rfl⟩
      | taken => exact ⟨_, rfl, nofun, fun isLeft => absurd rfl isLeft, nofun⟩

/-- Time is up for a request: it is in flight no longer, and its future gets nothing. -/
theorem poll_of_late {exchange : Exchange} {sync : UInt64} {future : ResponseFuture UInt64}
    (isHeld : exchange.futures.lookup sync = some future)
    (waits : future.state = .pending .empty) (hook : future.hook = some sync) {now : Instant}
    (isLate : future.isLate now = true) :
    exchange.poll now sync = ({ exchange with
      pending := exchange.pending.filter (· ≠ sync)
      futures := exchange.futures.map fun (number, other) =>
        (number, if number = sync then ⟨.pending .abandoned, future.deadline, none⟩ else other) },
      .ready (.error .timeout)) := by
  have polled : future.poll now =
      ⟨{ future with hook := none }, .ready (.error .timeout), some sync⟩ := by
    simp only [ResponseFuture.poll, waits, isLate, if_true, hook]
  simp only [poll, isHeld, polled, modifyFuture, List.map_map]
  congr 2
  apply List.map_congr_left
  intro entry _
  by_cases same : entry.1 = sync <;> simp [same, ResponseFuture.abandon, waits]

theorem resolve_of_not_mem {exchange : Exchange} {sync : UInt64}
    (notPending : sync ∉ exchange.pending) (outcome : Outcome) :
    exchange.resolve sync outcome = exchange := by
  rw [resolve, if_neg (by simpa using notPending)]

theorem resolve_of_mem {exchange : Exchange} {sync : UInt64} (isPending : sync ∈ exchange.pending)
    (outcome : Outcome) : exchange.resolve sync outcome = { exchange with
      pending := exchange.pending.filter (· ≠ sync)
      futures := exchange.futures.map fun (number, future) =>
        (number, if number = sync then future.send outcome else future) } := by
  rw [resolve, if_pos (by simpa using isPending)]
  rfl

/-- Give all requests in flight with these numbers the same result. -/
def resolveAll (exchange : Exchange) (syncs : List UInt64) (outcome : Outcome) : Exchange :=
  { exchange with
    pending := exchange.pending.filter (· ∉ syncs)
    futures := exchange.futures.map fun (number, future) =>
      (number,
        if number ∈ syncs ∧ number ∈ exchange.pending then future.send outcome else future) }

theorem resolveAll_nil (exchange : Exchange) (outcome : Outcome) :
    exchange.resolveAll [] outcome = exchange := by
  cases exchange
  simp [resolveAll]

theorem resolveAll_cons (exchange : Exchange) (sync : UInt64) (later : List UInt64)
    (outcome : Outcome) :
    exchange.resolveAll (sync :: later) outcome =
      (exchange.resolve sync outcome).resolveAll later outcome := by
  by_cases isPending : sync ∈ exchange.pending
  · rw [resolve_of_mem isPending]
    simp only [resolveAll, List.filter_filter, List.map_map]
    congr 1
    · apply List.filter_congr
      intro number _
      simp [Bool.and_comm]
    · apply List.map_congr_left
      intro entry _
      by_cases same : entry.1 = sync <;> simp [same, isPending]
  · rw [resolve_of_not_mem isPending]
    unfold resolveAll
    congr 1
    · apply List.filter_congr
      intro number inFlight
      have different : number ≠ sync := fun same => isPending (same ▸ inFlight)
      simp [different]
    · apply List.map_congr_left
      intro entry _
      by_cases same : entry.1 = sync <;> simp [same, isPending]

theorem foldl_resolve (exchange : Exchange) (syncs : List UInt64) :
    syncs.foldl
      (fun exchange sync => exchange.resolve sync (.error (.connectionClosed exchange.address)))
      exchange = exchange.resolveAll syncs (.error (.connectionClosed exchange.address)) := by
  induction syncs generalizing exchange with
  | nil => exact (exchange.resolveAll_nil _).symm
  | cons sync later inductionHypothesis =>
      have sameAddress (outcome : Outcome) :
          (exchange.resolve sync outcome).address = exchange.address := by
        unfold resolve
        split <;> rfl
      rw [List.foldl_cons, inductionHypothesis, sameAddress, resolveAll_cons]

/-- A future as the end of the connection leaves it. -/
def failInFlight (exchange : Exchange) (sync : UInt64) (future : ResponseFuture UInt64) :
    ResponseFuture UInt64 :=
  if sync ∈ exchange.pending then future.send (.error (.connectionClosed exchange.address))
  else future

/-- The end of a connection fails all that is in flight, and announces itself. -/
theorem teardown_eq {exchange : Exchange} (isOpen : exchange.isClosed = false) :
    exchange.teardown = { exchange with
      state := .closed
      events := exchange.events ++ [.closed]
      pending := []
      futures := exchange.futures.map fun (sync, future) =>
        (sync, exchange.failInFlight sync future) } := by
  have noneLeft : exchange.pending.filter (· ∉ exchange.pending) = [] := by
    simp
  unfold teardown
  rw [if_neg (by simp [isOpen]), foldl_resolve]
  simp only [resolveAll, and_self, noneLeft, failInFlight]

theorem close_fst (exchange : Exchange) : exchange.close.1 = exchange.teardown := by
  unfold close teardown
  split <;> rfl

theorem sent_resolve (exchange : Exchange) (sync : UInt64) (outcome : Outcome) :
    (exchange.resolve sync outcome).sent = exchange.sent := by
  unfold resolve
  split <;> rfl

/-- To poll takes requests out of flight at most, and changes futures. -/
theorem poll_fst (exchange : Exchange) (now : Instant) (sync : UInt64) :
    ∃ pending futures, (exchange.poll now sync).1 = { exchange with pending, futures } ∧
      pending.Sublist exchange.pending := by
  unfold poll
  split
  · exact ⟨_, _, rfl, List.Sublist.refl _⟩
  · dsimp only
    split
    · exact ⟨_, _, rfl, List.Sublist.refl _⟩
    · exact ⟨_, _, rfl, List.filter_sublist⟩

theorem sent_teardown (exchange : Exchange) : exchange.teardown.sent = exchange.sent := by
  cases isOpen : exchange.isClosed with
  | true => rw [teardown, if_pos isOpen]
  | false => rw [teardown_eq isOpen]

theorem prefix_of_sent_eq {before after : Exchange} (same : after.sent = before.sent) :
    before.sent <+: after.sent :=
  same ▸ List.prefix_rfl

theorem sent_readNext (exchange : Exchange) : exchange.sent <+: exchange.readNext.sent := by
  cases isOpen : exchange.isClosed with
  | true => exact prefix_of_sent_eq (by rw [readNext_of_isClosed isOpen])
  | false =>
      have reads := reads_readNext isOpen
      generalize exchange.incoming = incoming, exchange.readNext = after at reads ⊢
      cases reads with
      | nothing => exact List.prefix_rfl
      | event key value unread => exact (exchange.tells_event key value unread).sent
      | response response unread => exact prefix_of_sent_eq (sent_resolve _ _ _)
      | breach error unread => exact prefix_of_sent_eq (sent_teardown _)

theorem sent_step (exchange : Exchange) (move : Move) :
    exchange.sent <+: (exchange.step move).sent := by
  cases move with
  | send now stream request =>
      show exchange.sent <+: (exchange.send now stream request).1.sent
      unfold send
      dsimp only
      split
      · exact List.prefix_append _ _
      · exact List.prefix_rfl
  | watch key reaction => exact (exchange.tells_watch key reaction).sent
  | unregister handle => exact (exchange.tells_unregister handle).sent
  | openStream => exact exchange.tells_openStream.sent
  | poll now sync =>
      obtain ⟨pending, futures, isPoll, _⟩ := exchange.poll_fst now sync
      have isSame : (exchange.poll now sync).1.sent = exchange.sent := by rw [isPoll]
      exact prefix_of_sent_eq isSame
  | forget sync => exact List.prefix_rfl
  | arrive bytes => exact (exchange.tells_arrive bytes).sent
  | read => exact exchange.sent_readNext
  | endInput | fail => exact prefix_of_sent_eq exchange.sent_teardown
  | close => exact prefix_of_sent_eq (by rw [step, close_fst, sent_teardown])

theorem sent_run (exchange : Exchange) (moves : List Move) :
    exchange.sent <+: (exchange.run moves).sent := by
  induction moves generalizing exchange with
  | nil => exact List.prefix_rfl
  | cons move later inductionHypothesis =>
      exact (exchange.sent_step move).trans (inductionHypothesis (exchange.step move))

end Exchange
end FailoverPool
