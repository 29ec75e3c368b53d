import FailoverPool.Proofs.Exchange.Effects

/-!
Nobody waits in vain.

A future that waits is that of a request in flight, which it takes out of flight when its time is up
(`Attends`). Every move keeps this up, however many frames are sent. So nobody waits once nothing is
in flight.
-/

namespace FailoverPool
namespace Exchange

variable {exchange before after : Exchange} {sync : UInt64} {future : ResponseFuture UInt64}

/-- The future of a request is attended to as long as it waits. -/
structure Attended (exchange : Exchange) (sync : UInt64) (future : ResponseFuture UInt64) :
    Prop where
  isPending : future.isPending = true
  inFlight : future.state = .pending .empty → sync ∈ exchange.pending
  /-- The hook takes the request out of flight. -/
  hook : future.state = .pending .empty → future.deadline.isSome = true → future.hook = some sync

/-- All futures that callers hold are attended to. -/
def Attends (exchange : Exchange) : Prop :=
  ∀ entry ∈ exchange.futures, exchange.Attended entry.1 entry.2

theorem Attended.hook_of_isLate (attended : exchange.Attended sync future)
    (waits : future.state = .pending .empty) {now : Instant} (isLate : future.isLate now = true) :
    future.hook = some sync := by
  apply attended.hook waits
  unfold ResponseFuture.isLate at isLate
  split at isLate
  · next isSome => rw [isSome, Option.isSome_some]
  · cases isLate

theorem attended_of_settled (isPending : future.isPending = true)
    (isSettled : future.state ≠ .pending .empty) : exchange.Attended sync future :=
  ⟨isPending, fun waits => absurd waits isSettled, fun waits => absurd waits isSettled⟩

/-- A future that waits needs its request in flight, and nothing else of the connection. -/
theorem Attended.mono (attended : before.Attended sync future)
    (staysInFlight : sync ∈ before.pending → sync ∈ after.pending) :
    after.Attended sync future :=
  ⟨attended.isPending, fun waits => staysInFlight (attended.inFlight waits), attended.hook⟩

/-- A future that has been sent something does not wait. -/
theorem Attended.send (attended : before.Attended sync future) (outcome : Outcome) :
    after.Attended sync (future.send outcome) := by
  unfold ResponseFuture.send
  split
  · exact attended_of_settled rfl (by simp)
  · next isSettled => exact attended_of_settled attended.isPending isSettled

theorem attends_established (address : String) (timeout : Duration) (unread : Bytes) :
    (established address timeout unread).Attends :=
  fun _ isEntry => absurd isEntry List.not_mem_nil

theorem Attends.tells (attends : before.Attends) (tells : before.Tells after) : after.Attends := by
  intro entry isEntry
  rw [tells.futures] at isEntry
  apply (attends entry isEntry).mono
  rw [tells.pending]
  exact id

theorem Attends.send (attends : exchange.Attends) (now : Instant) (stream : UInt64)
    (request : Request) : (exchange.send now stream request).1.Attends := by
  cases connected : exchange.isConnected with
  | false =>
      rw [Exchange.send, if_neg (by simp [connected])]
      exact attends
  | true =>
      rw [send_eq connected]
      intro entry isEntry
      rcases List.mem_append.mp isEntry with wasEntry | isLast
      · apply (attends entry wasEntry).mono
        exact List.mem_append_left _
      · obtain ⟨deadline, isFuture⟩ := exchange.newFuture_eq now
        rw [List.mem_singleton.mp isLast, isFuture]
        constructor
        · rfl
        · intro _
          exact List.mem_append_right _ List.mem_cons_self
        · intro _ hasDeadline
          exact if_pos hasDeadline

theorem Attends.resolve (attends : exchange.Attends) (sync : UInt64) (outcome : Outcome) :
    (exchange.resolve sync outcome).Attends := by
  by_cases isPending : sync ∈ exchange.pending
  · rw [resolve_of_mem isPending]
    intro entry isEntry
    obtain ⟨⟨number, future⟩, wasEntry, rfl⟩ := List.mem_map.mp isEntry
    have attended := attends _ wasEntry
    dsimp only at attended ⊢
    split
    · exact attended.send outcome
    · next isOther =>
      apply attended.mono
      intro inFlight
      exact List.mem_filter.mpr ⟨inFlight, by simpa using isOther⟩
  · rw [resolve_of_not_mem isPending]
    exact attends

theorem Attends.teardown (attends : exchange.Attends) : exchange.teardown.Attends := by
  cases isOpen : exchange.isClosed with
  | true =>
      rw [Exchange.teardown, if_pos isOpen]
      exact attends
  | false =>
      rw [teardown_eq isOpen]
      intro entry isEntry
      obtain ⟨⟨number, future⟩, wasEntry, rfl⟩ := List.mem_map.mp isEntry
      have attended := attends _ wasEntry
      dsimp only [failInFlight] at attended ⊢
      split
      · exact attended.send _
      · next notPending =>
        exact attended_of_settled attended.isPending fun waits =>
          notPending (attended.inFlight waits)

theorem Attends.replace (attends : exchange.Attends) (attended : exchange.Attended sync future) :
    (exchange.modifyFuture sync fun _ => future).Attends := by
  intro entry isEntry
  obtain ⟨⟨number, former⟩, wasEntry, rfl⟩ := List.mem_map.mp isEntry
  dsimp only
  split
  · next same =>
    subst same
    exact attended.mono id
  · exact (attends _ wasEntry).mono id

theorem Attends.poll (attends : exchange.Attends) (now : Instant) (sync : UInt64) :
    (exchange.poll now sync).1.Attends := by
  cases isHeld : exchange.futures.lookup sync with
  | none =>
      simp only [Exchange.poll, isHeld]
      exact attends
  | some future =>
      have attended := attends _ (mem_of_lookup isHeld)
      by_cases waits : future.state = .pending .empty
      · cases isLate : future.isLate now with
        | false =>
            rw [poll_of_early isHeld waits isLate]
            exact attends.replace attended
        | true =>
            rw [poll_of_late isHeld waits (attended.hook_of_isLate waits isLate) isLate]
            intro entry isEntry
            obtain ⟨⟨number, other⟩, wasEntry, rfl⟩ := List.mem_map.mp isEntry
            dsimp only
            split
            · exact attended_of_settled rfl (by simp)
            · next isOther =>
              apply (attends _ wasEntry).mono
              intro inFlight
              exact List.mem_filter.mpr ⟨inFlight, by simpa using isOther⟩
      · obtain ⟨outcome, isPoll, _⟩ := poll_of_settled isHeld attended.isPending waits now
        rw [isPoll]
        exact attends.replace (attended_of_settled rfl (by simp))

theorem Attends.read (attends : exchange.Attends) : exchange.readNext.Attends := by
  cases isOpen : exchange.isClosed with
  | true =>
      rw [readNext_of_isClosed isOpen]
      exact attends
  | false =>
      have reads := reads_readNext isOpen
      generalize exchange.incoming = incoming, exchange.readNext = after at reads ⊢
      cases reads with
      | nothing => exact attends
      | event key value unread => exact attends.tells (exchange.tells_event key value unread)
      | response response unread => exact (attends.tells (exchange.tells_unread unread)).resolve _ _
      | breach error unread => exact (attends.tells (exchange.tells_unread unread)).teardown

theorem Attends.step (attends : exchange.Attends) (move : Move) : (exchange.step move).Attends := by
  cases move with
  | send now stream request => exact attends.send now stream request
  | watch key reaction => exact attends.tells (exchange.tells_watch key reaction)
  | unregister handle => exact attends.tells (exchange.tells_unregister handle)
  | openStream => exact attends.tells exchange.tells_openStream
  | poll now sync => exact attends.poll now sync
  | forget sync => exact fun entry isEntry => (attends entry (List.mem_filter.mp isEntry).1).mono id
  | arrive bytes => exact attends.tells (exchange.tells_arrive bytes)
  | read => exact attends.read
  | endInput | fail => exact attends.teardown
  | close =>
      rw [Exchange.step, close_fst]
      exact attends.teardown

theorem Attends.run (attends : exchange.Attends) (moves : List Move) :
    (exchange.run moves).Attends := by
  induction moves generalizing exchange with
  | nil => exact attends
  | cons move later inductionHypothesis => exact inductionHypothesis (attends.step move)

/-- Once nothing is in flight, everyone who holds a future has an answer, unless it has been given
already. -/
theorem Attends.answers (attends : exchange.Attends) (noneInFlight : exchange.pending = [])
    (isHeld : exchange.futures.lookup sync = some future) (now : Instant) :
    GivesOnce future (exchange.poll now sync).2 := by
  have attended := attends _ (mem_of_lookup isHeld)
  have isSettled : future.state ≠ .pending .empty := by
    intro waits
    have inFlight := attended.inFlight waits
    rw [noneInFlight] at inFlight
    exact absurd inFlight List.not_mem_nil
  obtain ⟨result, isPoll, givesOnce⟩ := poll_of_settled isHeld attended.isPending isSettled now
  rwa [isPoll]

end Exchange
end FailoverPool
