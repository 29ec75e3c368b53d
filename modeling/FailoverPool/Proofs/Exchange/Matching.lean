import FailoverPool.Proofs.Exchange.History
import FailoverPool.Proofs.Exchange.Waiting
import Mathlib.Data.List.Nodup

/-!
Responses reach exactly their own requests.

`Matches` ties a connection to its history: a number is in flight exactly while its request waits
(`Awaits`), and what a future was sent is the answer to its own request (`Answers`). Every move
keeps this up as long as numbers are not used up. Main statement: `matched_of_run`.
-/

namespace FailoverPool

/-- The number of frames that a connection can send before their numbers begin anew. The number
zero is that of the proof of the password. -/
def Outgoing.capacity : Nat := UInt64.size - 1

namespace Outgoing

theorem toNat_numberAt {place : Nat} (isSmall : place < capacity) :
    (numberAt place).toNat = place + 1 :=
  UInt64.toNat_ofNat_of_lt' (Nat.lt_sub_iff_add_lt.mp isSmall)

theorem numberAt_injOn {first second : Nat} (isSmall : first < capacity)
    (isSmallToo : second < capacity) (same : numberAt first = numberAt second) :
    first = second := by
  have sameNat := congrArg UInt64.toNat same
  rw [toNat_numberAt isSmall, toNat_numberAt isSmallToo] at sameNat
  omega

/-- As long as numbers are not used up, none comes twice, and none is zero. -/
theorem nodup_numbers {count : Nat} (isSmall : count ≤ capacity) :
    (0 :: (List.range count).map numberAt).Nodup := by
  apply List.nodup_cons.mpr
  constructor
  · intro isNumber
    obtain ⟨place, isPlace, isZero⟩ := List.mem_map.mp isNumber
    have isNat := toNat_numberAt (Nat.lt_of_lt_of_le (List.mem_range.mp isPlace) isSmall)
    rw [isZero] at isNat
    cases isNat
  · apply List.Nodup.map_on _ List.nodup_range
    intro first isFirst second isSecond same
    rw [List.mem_range] at isFirst isSecond
    exact numberAt_injOn (Nat.lt_of_lt_of_le isFirst isSmall)
      (Nat.lt_of_lt_of_le isSecond isSmall) same

end Outgoing

namespace Exchange

variable {exchange before after : Exchange} {history : List Happening} {sync : UInt64}

def numbers (exchange : Exchange) : List UInt64 := exchange.sent.map Outgoing.sync

theorem Numbered.mem_numbers (numbered : exchange.Numbered) :
    sync ∈ exchange.numbers ↔ ∃ place < exchange.sent.length, Outgoing.numberAt place = sync := by
  rw [numbers, numbered.sent]
  simp

theorem Numbered.nodup (numbered : exchange.Numbered)
    (isSmall : exchange.sent.length ≤ Outgoing.capacity) : (0 :: exchange.numbers).Nodup := by
  rw [numbers, numbered.sent]
  exact Outgoing.nodup_numbers isSmall

theorem Numbered.next_not_mem (numbered : exchange.Numbered)
    (isSmall : exchange.sent.length < Outgoing.capacity) :
    exchange.nextSync ∉ exchange.numbers := by
  intro isUsed
  obtain ⟨place, isPlace, same⟩ := numbered.mem_numbers.mp isUsed
  rw [numbered.next] at same
  have samePlace := Outgoing.numberAt_injOn (Nat.lt_trans isPlace isSmall) isSmall same
  exact Nat.ne_of_lt isPlace samePlace

/-- What holds of the future of a request as long as its caller has it. -/
structure Belongs (exchange : Exchange) (history : List Happening) (sync : UInt64)
    (future : ResponseFuture UInt64) : Prop where
  isSent : sync ∈ exchange.numbers
  /-- A future of a request in flight still waits. -/
  waiting : sync ∈ exchange.pending → future.state = .pending .empty
  /-- What it was sent is the answer to its request, unless the connection has ended. -/
  sent : ∀ outcome, future.state = .pending (.sent outcome) →
    outcome = .error (.connectionClosed exchange.address) ∨ Answers history sync outcome

theorem Belongs.mono {future : ResponseFuture UInt64} (belongs : before.Belongs history sync future)
    (sameAddress : after.address = before.address) (grows : before.sent <+: after.sent)
    (noNewRequest : sync ∈ after.pending → sync ∈ before.pending) (more : List Happening) :
    after.Belongs (history ++ more) sync future where
  isSent := (grows.map Outgoing.sync).subset belongs.isSent
  waiting isPending := belongs.waiting (noNewRequest isPending)
  sent outcome isSent := by
    rw [sameAddress]
    exact (belongs.sent outcome isSent).imp_right (·.append more)

/-- A connection is as its history tells. -/
structure Matches (exchange : Exchange) (history : List Happening) : Prop where
  numbered : exchange.Numbered
  pending : ∀ sync, sync ∈ exchange.pending ↔ Awaits history sync
  requests : (requestNumbers history).Sublist exchange.numbers
  futures : ∀ entry ∈ exchange.futures, exchange.Belongs history entry.1 entry.2

theorem matches_established (address : String) (timeout : Duration) (unread : Bytes) :
    (established address timeout unread).Matches [] where
  numbered := ⟨rfl, rfl⟩
  pending sync := ⟨nofun, fun awaits => absurd awaits (not_awaits_nil sync)⟩
  requests := List.Sublist.slnil
  futures _ isEntry := absurd isEntry List.not_mem_nil

theorem Matches.tells (isMatch : before.Matches history) (tells : before.Tells after) :
    after.Matches history where
  numbered := tells.numbered isMatch.numbered
  pending sync := by
    rw [tells.pending]
    exact isMatch.pending sync
  requests := isMatch.requests.trans (tells.sent.map Outgoing.sync).sublist
  futures entry isEntry := by
    rw [tells.futures] at isEntry
    have belongs := (isMatch.futures entry isEntry).mono tells.address tells.sent
      (fun isPending => tells.pending ▸ isPending) []
    rwa [List.append_nil] at belongs

theorem Matches.send (isMatch : exchange.Matches history) (connected : exchange.isConnected = true)
    (isSmall : exchange.sent.length < Outgoing.capacity) (now : Instant) (stream : UInt64)
    (request : Request) :
    (exchange.send now stream request).1.Matches (history ++ [.requested exchange.nextSync]) := by
  have isNew : exchange.nextSync ∉ exchange.numbers := isMatch.numbered.next_not_mem isSmall
  rw [send_eq connected]
  dsimp only
  constructor
  · exact isMatch.numbered.push rfl rfl rfl
  · intro sync
    rw [awaits_concat, ← isMatch.pending]
    simp [Happening.Settles, or_comm, eq_comm]
  · rw [numbers, List.map_append, requestNumbers, List.filterMap_append]
    exact isMatch.requests.append (List.Sublist.refl _)
  · intro entry isEntry
    rcases List.mem_append.mp isEntry with wasEntry | isLast
    · have belongs := isMatch.futures entry wasEntry
      apply belongs.mono
      · rfl
      · exact List.prefix_append _ _
      · intro isPending
        rcases List.mem_append.mp isPending with wasPending | isLast
        · exact wasPending
        · rw [List.mem_singleton.mp isLast] at belongs
          exact absurd belongs.isSent isNew
    · obtain ⟨deadline, isFuture⟩ := exchange.newFuture_eq now
      rw [List.mem_singleton.mp isLast, isFuture]
      constructor
      · simp [numbers, Outgoing.sync]
      · exact fun _ => rfl
      · rintro _ ⟨⟩

/-- Something happens that no request in flight is settled by. -/
theorem Matches.remark (isMatch : exchange.Matches history) {happening : Happening}
    (noRequest : happening.request? = none)
    (settlesNone : ∀ sync ∈ exchange.pending, ¬ happening.Settles sync) :
    exchange.Matches (history ++ [happening]) where
  numbered := isMatch.numbered
  pending sync := by
    rw [awaits_concat, ← isMatch.pending]
    constructor
    · exact fun isPending => .inr ⟨isPending, settlesNone sync isPending⟩
    · rintro (isRequest | ⟨isPending, _⟩)
      · rw [isRequest] at noRequest
        cases noRequest
      · exact isPending
  requests := by
    rw [requestNumbers_concat noRequest]
    exact isMatch.requests
  futures entry isEntry := (isMatch.futures entry isEntry).mono rfl List.prefix_rfl id _

theorem Matches.answer (isMatch : exchange.Matches history) (response : Response) :
    (exchange.resolve response.sync response.toResult).Matches
      (history ++ [.answered response]) := by
  by_cases isPending : response.sync ∈ exchange.pending
  · rw [resolve_of_mem isPending]
    constructor
    · exact ⟨isMatch.numbered.sent, isMatch.numbered.next⟩
    · intro sync
      rw [awaits_concat, ← isMatch.pending]
      simp only [List.mem_filter, Happening.Settles, reduceCtorEq, false_or, decide_eq_true_eq,
        ne_eq, @eq_comm _ sync]
    · rw [requestNumbers_concat rfl]
      exact isMatch.requests
    · intro entry isEntry
      obtain ⟨⟨number, future⟩, wasEntry, rfl⟩ := List.mem_map.mp isEntry
      have belongs := isMatch.futures _ wasEntry
      dsimp only at belongs ⊢
      by_cases same : number = response.sync
      · subst same
        rw [if_pos rfl, ResponseFuture.send, belongs.waiting isPending]
        constructor
        · exact belongs.isSent
        · intro isStillPending
          simp at isStillPending
        · rintro _ ⟨⟩
          exact .inr (answers_concat ((isMatch.pending response.sync).mp isPending))
      · rw [if_neg same]
        apply belongs.mono
        · rfl
        · exact List.prefix_rfl
        · exact fun isStillPending => (List.mem_filter.mp isStillPending).1
  · rw [resolve_of_not_mem isPending]
    apply isMatch.remark
    · rfl
    · intro sync inFlight same
      exact isPending (same ▸ inFlight)

theorem Matches.teardown (isMatch : exchange.Matches history) (isOpen : exchange.isClosed = false) :
    exchange.teardown.Matches (history ++ [.ended]) := by
  rw [teardown_eq isOpen]
  constructor
  · exact ⟨isMatch.numbered.sent, isMatch.numbered.next⟩
  · intro sync
    rw [awaits_concat]
    simp [Happening.Settles]
  · rw [requestNumbers_concat rfl]
    exact isMatch.requests
  · intro entry isEntry
    obtain ⟨⟨number, future⟩, wasEntry, rfl⟩ := List.mem_map.mp isEntry
    have belongs := isMatch.futures _ wasEntry
    dsimp only [failInFlight] at belongs ⊢
    by_cases isPending : number ∈ exchange.pending
    · rw [if_pos isPending, ResponseFuture.send, belongs.waiting isPending]
      constructor
      · exact belongs.isSent
      · exact nofun
      · rintro _ ⟨⟩
        exact .inl rfl
    · rw [if_neg isPending]
      apply belongs.mono
      · rfl
      · exact List.prefix_rfl
      · exact nofun

theorem Matches.forget (isMatch : exchange.Matches history) (sync : UInt64) :
    (exchange.forget sync).Matches history where
  numbered := ⟨isMatch.numbered.sent, isMatch.numbered.next⟩
  pending := isMatch.pending
  requests := isMatch.requests
  futures entry isEntry := by
    have belongs := isMatch.futures entry (List.mem_filter.mp isEntry).1
    exact ⟨belongs.isSent, belongs.waiting, belongs.sent⟩

/-- A future is replaced by one that belongs to its request as well. -/
theorem Matches.replace (isMatch : exchange.Matches history) {future : ResponseFuture UInt64}
    (belongs : exchange.Belongs history sync future) :
    (exchange.modifyFuture sync fun _ => future).Matches history where
  numbered := ⟨isMatch.numbered.sent, isMatch.numbered.next⟩
  pending := isMatch.pending
  requests := isMatch.requests
  futures entry isEntry := by
    obtain ⟨⟨number, former⟩, wasEntry, rfl⟩ := List.mem_map.mp isEntry
    have kept : ∀ {number other}, exchange.Belongs history number other →
        (exchange.modifyFuture sync fun _ => future).Belongs history number other :=
      fun belongs => ⟨belongs.isSent, belongs.waiting, belongs.sent⟩
    dsimp only
    split
    · next same =>
      subst same
      exact kept belongs
    · exact kept (isMatch.futures _ wasEntry)

theorem Matches.expire (isMatch : exchange.Matches history) {future : ResponseFuture UInt64}
    (isHeld : exchange.futures.lookup sync = some future)
    (waits : future.state = .pending .empty) (hook : future.hook = some sync) {now : Instant}
    (isLate : future.isLate now = true) :
    (exchange.poll now sync).1.Matches (history ++ [.expired sync]) := by
  have belongs := isMatch.futures _ (mem_of_lookup isHeld)
  rw [poll_of_late isHeld waits hook isLate]
  constructor
  · exact ⟨isMatch.numbered.sent, isMatch.numbered.next⟩
  · intro number
    rw [awaits_concat, ← isMatch.pending]
    simp only [List.mem_filter, Happening.Settles, reduceCtorEq, false_or, decide_eq_true_eq,
      ne_eq, @eq_comm _ number]
  · rw [requestNumbers_concat rfl]
    exact isMatch.requests
  · intro entry isEntry
    obtain ⟨⟨number, other⟩, wasEntry, rfl⟩ := List.mem_map.mp isEntry
    dsimp only
    by_cases same : number = sync
    · subst same
      rw [if_pos rfl]
      exact ⟨belongs.isSent, by simp, nofun⟩
    · rw [if_neg same]
      apply (isMatch.futures _ wasEntry).mono
      · rfl
      · exact List.prefix_rfl
      · exact fun isPending => (List.mem_filter.mp isPending).1

theorem Matches.poll (isMatch : exchange.Matches history) (attends : exchange.Attends)
    (now : Instant) (sync : UInt64) :
    (exchange.poll now sync).1.Matches
      (history ++ (exchange.happening? (.poll now sync)).toList) := by
  cases isHeld : exchange.futures.lookup sync with
  | none =>
      have isPoll : exchange.poll now sync = (exchange, .pending) := by
        simp only [Exchange.poll, isHeld]
      simpa [happening?, isPoll] using isMatch
  | some future =>
      have belongs := isMatch.futures _ (mem_of_lookup isHeld)
      have attended := attends _ (mem_of_lookup isHeld)
      by_cases waits : future.state = .pending .empty
      · cases isLate : future.isLate now with
        | true =>
            have hook := attended.hook_of_isLate waits isLate
            have expired := isMatch.expire isHeld waits hook isLate
            have isPoll := poll_of_late isHeld waits hook isLate
            rw [happening?, isPoll]
            rwa [isPoll] at expired
        | false =>
            rw [happening?, poll_of_early isHeld waits isLate]
            simpa using isMatch.replace belongs
      · obtain ⟨result, isPoll, _⟩ := poll_of_settled isHeld attended.isPending waits now
        have isSettled : sync ∉ exchange.pending := fun isPending =>
          waits (belongs.waiting isPending)
        have taken : (exchange.poll now sync).1.Matches history := by
          rw [isPoll]
          apply isMatch.replace
          constructor
          · exact belongs.isSent
          · exact fun isPending => absurd isPending isSettled
          · rintro _ ⟨⟩
        have samePending : (exchange.poll now sync).1.pending = exchange.pending := by
          rw [isPoll]
          rfl
        rw [happening?]
        split
        · apply taken.remark
          · rfl
          · intro number isPending same
            rw [samePending] at isPending
            exact isSettled (same ▸ isPending)
        · simpa using taken

theorem Matches.read (isMatch : exchange.Matches history) :
    exchange.readNext.Matches (history ++ (exchange.happening? .read).toList) := by
  rw [happening?]
  cases isOpen : exchange.isClosed with
  | true => simpa [readNext_of_isClosed isOpen] using isMatch
  | false =>
      have skipped (unread : Bytes) : ({ exchange with unread } : Exchange).Matches history :=
        isMatch.tells (exchange.tells_unread unread)
      rw [if_neg Bool.false_ne_true]
      have reads := reads_readNext isOpen
      generalize exchange.incoming = incoming, exchange.readNext = after at reads ⊢
      cases reads with
      | nothing => simpa using isMatch
      | event key value unread => simpa using isMatch.tells (exchange.tells_event key value unread)
      | response response unread => exact (skipped unread).answer response
      | breach error unread => exact (skipped unread).teardown isOpen

theorem Matches.breakDown (isMatch : exchange.Matches history) :
    exchange.teardown.Matches
      (history ++ (if exchange.isClosed then none else some Happening.ended).toList) := by
  cases isOpen : exchange.isClosed with
  | true =>
      rw [Exchange.teardown, if_pos isOpen]
      simpa using isMatch
  | false => exact isMatch.teardown isOpen

/-- Every move keeps a connection as its history tells, unless it sends the last frame that has a
number of its own. -/
theorem Matches.step (isMatch : exchange.Matches history) (attends : exchange.Attends)
    (move : Move) (isSmall : (exchange.step move).sent.length < Outgoing.capacity) :
    (exchange.step move).Matches (history ++ (exchange.happening? move).toList) := by
  have quiet {after : Exchange} (tells : exchange.Tells after) :
      after.Matches (history ++ (none : Option Happening).toList) := by
    simpa using isMatch.tells tells
  cases move with
  | send now stream request =>
      rw [happening?]
      cases connected : exchange.isConnected with
      | true =>
          apply isMatch.send connected
          rw [Exchange.step, send_eq connected] at isSmall
          exact Nat.lt_of_succ_lt (by simpa using isSmall)
      | false =>
          rw [Exchange.step, Exchange.send, if_neg (by simp [connected])]
          simpa using isMatch
  | watch key reaction => exact quiet (exchange.tells_watch key reaction)
  | unregister handle => exact quiet (exchange.tells_unregister handle)
  | openStream => exact quiet exchange.tells_openStream
  | poll now sync => exact isMatch.poll attends now sync
  | forget sync => simpa [happening?, Exchange.step] using isMatch.forget sync
  | arrive bytes => exact quiet (exchange.tells_arrive bytes)
  | read => exact isMatch.read
  | endInput | fail => exact isMatch.breakDown
  | close =>
      rw [Exchange.step, close_fst]
      exact isMatch.breakDown

theorem Matches.run (isMatch : exchange.Matches history) (attends : exchange.Attends)
    (moves : List Move) (isSmall : (exchange.run moves).sent.length < Outgoing.capacity) :
    (exchange.run moves).Matches (history ++ exchange.history moves) := by
  induction moves generalizing exchange history with
  | nil => simpa [Exchange.history, Exchange.run] using isMatch
  | cons move later inductionHypothesis =>
      have isSmallNow : (exchange.step move).sent.length < Outgoing.capacity :=
        Nat.lt_of_le_of_lt ((exchange.step move).sent_run later).length_le isSmall
      rw [Exchange.history, ← List.append_assoc]
      exact inductionHypothesis (isMatch.step attends move isSmallNow) (attends.step move) isSmall

/-- Nothing that a future gives is the answer to another request. -/
theorem Matches.outcome (isMatch : exchange.Matches history) (attends : exchange.Attends)
    {now : Instant} {outcome : Outcome} (isPolled : (exchange.poll now sync).2 = .ready outcome) :
    outcome = .error .timeout ∨ outcome = .error .canceled ∨
      outcome = .error (.connectionClosed exchange.address) ∨ Answers history sync outcome := by
  cases isHeld : exchange.futures.lookup sync with
  | none => simp [Exchange.poll, isHeld] at isPolled
  | some future =>
      have belongs := isMatch.futures _ (mem_of_lookup isHeld)
      have attended := attends _ (mem_of_lookup isHeld)
      by_cases waits : future.state = .pending .empty
      · cases isLate : future.isLate now with
        | true =>
            have hook := attended.hook_of_isLate waits isLate
            rw [poll_of_late isHeld waits hook isLate] at isPolled
            cases isPolled
            exact .inl rfl
        | false =>
            rw [poll_of_early isHeld waits isLate] at isPolled
            cases isPolled
      · obtain ⟨result, isPoll, givesOnce⟩ :=
          poll_of_settled isHeld attended.isPending waits now
        rw [isPoll] at isPolled
        rcases givesOnce.sent outcome isPolled with canceled | isSent
        · exact .inr (.inl canceled)
        · exact .inr (.inr (belongs.sent outcome isSent))

theorem readNext_of_stray (isOpen : exchange.isClosed = false) {response : Response}
    (isIncoming : exchange.incoming = .response response)
    (isStray : response.sync ∉ exchange.pending) :
    exchange.readNext.pending = exchange.pending ∧
      exchange.readNext.futures = exchange.futures := by
  have reads := reads_readNext isOpen
  rw [isIncoming] at reads
  generalize exchange.readNext = after at reads ⊢
  cases reads with
  | response _ unread =>
      rw [resolve_of_not_mem]
      · exact ⟨rfl, rfl⟩
      · exact isStray

/-- Requests and responses find each other. -/
structure Matched (exchange : Exchange) (history : List Happening) : Prop where
  /-- No two frames have the same number. The proof of the password had the number zero. -/
  numbers : (0 :: exchange.numbers).Nodup
  requests : (requestNumbers history).Nodup
  /-- In flight is what waits for a response. -/
  pending : ∀ sync, sync ∈ exchange.pending ↔ Awaits history sync
  /-- What a future gives was not the answer to another request. -/
  outcome : ∀ now sync outcome, (exchange.poll now sync).2 = .ready outcome →
    outcome = .error .timeout ∨ outcome = .error .canceled ∨
      outcome = .error (.connectionClosed exchange.address) ∨ Answers history sync outcome
  /-- A response that no request in flight has the number of is without effect. -/
  stray : exchange.isClosed = false → ∀ response, exchange.incoming = .response response →
    response.sync ∉ exchange.pending →
      exchange.readNext.pending = exchange.pending ∧ exchange.readNext.futures = exchange.futures

/-- Whatever happens to a connection, and in whatever order: requests and responses find each other
as long as the connection has numbers for its frames. -/
theorem matched_of_run (address : String) (timeout : Duration) (unread : Bytes)
    (moves : List Move)
    (isSmall : ((established address timeout unread).run moves).sent.length < Outgoing.capacity) :
    ((established address timeout unread).run moves).Matched
      ((established address timeout unread).history moves) := by
  have startAttends := attends_established address timeout unread
  have isMatch := (matches_established address timeout unread).run startAttends moves isSmall
  rw [List.nil_append] at isMatch
  have distinct := isMatch.numbered.nodup (Nat.le_of_lt isSmall)
  constructor
  · exact distinct
  · exact isMatch.requests.nodup (List.nodup_cons.mp distinct).2
  · exact isMatch.pending
  · exact fun _ _ _ => isMatch.outcome (startAttends.run moves)
  · exact fun isOpen _ => readNext_of_stray isOpen

/-- The second of two requests is answered first. -/
theorem matched_of_two_requests :
    let moves : List Move :=
      [.send 0 0 .ping, .send 0 0 .ping, .arrive [0x05, 0x82, 0x00, 0x00, 0x01, 0x02], .read]
    let exchange := (established "a" (.ofSeconds 1) []).run moves
    exchange.sent.length < Outgoing.capacity ∧ exchange.pending = [1] ∧
      (exchange.poll 5 2).2 = .ready (.ok { Response.empty with sync := 2 }) ∧
      exchange.Matched ((established "a" (.ofSeconds 1) []).history moves) :=
  ⟨by decide, rfl, rfl, matched_of_run _ _ _ _ (by decide)⟩

end Exchange
end FailoverPool
