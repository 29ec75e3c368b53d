import FailoverPool.Proofs.Exchange.Matching
import FailoverPool.Proofs.Protocol.Framing

/-!
The streams of one connection, and what its frames say of them.

Whatever happens to a connection meanwhile, its streams are numbered from one on (`opened_eq`). It
puts a number of a stream on the wire for the requests that it was given with that number, and for
no other frame (`mem_sent_run`, `Outgoing.streamId_mem_header`).
-/

namespace FailoverPool

namespace Outgoing

def header : Outgoing → Fields
  | .request sync stream asked => Frame.headerFields asked.code sync stream
  | .watch sync _ => Frame.headerFields .watch sync 0
  | .unwatch sync _ => Frame.headerFields .unwatch sync 0

def body : Outgoing → Bytes
  | .request _ _ asked => asked.body
  | .watch _ key | .unwatch _ key => Frame.watchBody key

/-- A reader of the frame finds the header right after the length. -/
theorem decode_encode (frame : Outgoing) :
    Value.decode (frame.encode.drop 5) = .ok (frame.header.toValue, frame.body) := by
  cases frame <;> exact Frame.decode_header _

theorem streamId_mem_header {frame : Outgoing} {value : Value} :
    (Key.streamId, value) ∈ frame.header ↔
      ∃ sync stream request, frame = .request sync stream request ∧
        stream ≠ 0 ∧ value = .ofUInt64 stream := by
  cases frame with
  | request => simp [header, Frame.streamId_mem_headerFields]
  | watch | unwatch => simp [header, Frame.streamId_mem_headerFields]

end Outgoing

namespace Exchange

def Move.isOpening : Move → Bool
  | .openStream => true
  | _ => false

/-- The numbers of the streams that a run opens, in their order. -/
def opened (exchange : Exchange) : List Move → List UInt64
  | [] => []
  | move :: later =>
      (if move.isOpening then [exchange.openStream.2] else []) ++ (exchange.step move).opened later

/-- Between two moments no stream was opened, and no request was sent. -/
structure Abstains (before after : Exchange) : Prop where
  nextStream : after.nextStream = before.nextStream
  sent : ∀ sync stream request, .request sync stream request ∈ after.sent →
    .request sync stream request ∈ before.sent

namespace Abstains

theorem refl (exchange : Exchange) : exchange.Abstains exchange :=
  ⟨rfl, fun _ _ _ isSent => isSent⟩

theorem trans {first second third : Exchange} (earlier : first.Abstains second)
    (later : second.Abstains third) : first.Abstains third where
  nextStream := later.nextStream.trans earlier.nextStream
  sent sync stream request isSent := earlier.sent _ _ _ (later.sent sync stream request isSent)

theorem of_eq {before after : Exchange} (sameNext : after.nextStream = before.nextStream)
    (sameSent : after.sent = before.sent) : before.Abstains after :=
  ⟨sameNext, fun _ _ _ isSent => sameSent ▸ isSent⟩

end Abstains

theorem abstains_sendWatch (exchange : Exchange) (key : String) :
    exchange.Abstains (exchange.sendWatch key) := by
  refine ⟨rfl, fun sync stream request isSent => ?_⟩
  simpa [sendWatch] using isSent

theorem abstains_unregister (exchange : Exchange) (handle : WatcherHandle) :
    exchange.Abstains (exchange.unregister handle) := by
  unfold unregister
  dsimp only
  split
  · refine ⟨rfl, fun sync stream request isSent => ?_⟩
    simpa [sendUnwatch] using isSent
  · exact .of_eq rfl rfl

theorem abstains_watch (exchange : Exchange) (key : String) (reaction : Reaction) :
    exchange.Abstains (exchange.watch key reaction).1 := by
  have registered (nextWatcher : Nat) (watchers : WatcherRegistry) :
      exchange.Abstains { exchange with nextWatcher, watchers } := .of_eq rfl rfl
  unfold watch
  dsimp only
  split
  · split
    · exact (registered _ _).trans (abstains_sendWatch _ key)
    · exact registered _ _
  · exact .refl exchange

theorem abstains_runCallback (exchange : Exchange) (key : String) (value : Option Value)
    (watcher : Watcher) : exchange.Abstains (exchange.runCallback key value watcher) := by
  rw [runCallback_eq, callback]
  apply List.foldlRecOn
  · exact .of_eq rfl rfl
  · exact fun before abstains handle _ => abstains.trans (before.abstains_unregister handle)

theorem abstains_handleEvent (exchange : Exchange) (key : String) (value : Option Value) :
    exchange.Abstains (exchange.handleEvent key value) := by
  unfold handleEvent
  split
  · exact .refl exchange
  · refine .trans ?_ (abstains_sendWatch _ key)
    apply List.foldlRecOn
    · exact .refl exchange
    · exact fun before abstains watcher _ =>
        abstains.trans (before.abstains_runCallback key value watcher)

theorem abstains_resolve (exchange : Exchange) (sync : UInt64) (outcome : Outcome) :
    exchange.Abstains (exchange.resolve sync outcome) := by
  unfold resolve
  split
  · exact .of_eq rfl rfl
  · exact .refl exchange

theorem abstains_teardown (exchange : Exchange) : exchange.Abstains exchange.teardown := by
  cases isOpen : exchange.isClosed with
  | true =>
      rw [teardown, if_pos isOpen]
      exact .refl exchange
  | false =>
      rw [teardown_eq isOpen]
      exact .of_eq rfl rfl

theorem abstains_readNext (exchange : Exchange) : exchange.Abstains exchange.readNext := by
  have unread (bytes : Bytes) : exchange.Abstains { exchange with unread := bytes } :=
    .of_eq rfl rfl
  cases isOpen : exchange.isClosed with
  | true =>
      rw [readNext_of_isClosed isOpen]
      exact .refl exchange
  | false =>
      have reads := reads_readNext isOpen
      generalize exchange.incoming = incoming, exchange.readNext = after at reads ⊢
      cases reads with
      | nothing => exact .refl exchange
      | event key value bytes => exact (unread bytes).trans (abstains_handleEvent _ key value)
      | response response bytes => exact (unread bytes).trans (abstains_resolve _ _ _)
      | breach error bytes => exact (unread bytes).trans (abstains_teardown _)

def Move.isSend : Move → Bool
  | .send _ _ _ => true
  | _ => false

theorem abstains_step (exchange : Exchange) {move : Move} (opensNone : move.isOpening = false)
    (sendsNone : move.isSend = false) : exchange.Abstains (exchange.step move) := by
  cases move with
  | send => cases sendsNone
  | openStream => cases opensNone
  | watch key reaction => exact exchange.abstains_watch key reaction
  | unregister handle => exact exchange.abstains_unregister handle
  | poll now sync =>
      obtain ⟨pending, futures, isPoll, _⟩ := exchange.poll_fst now sync
      rw [step, isPoll]
      exact .of_eq rfl rfl
  | forget sync => exact .of_eq rfl rfl
  | arrive bytes =>
      rw [step, arrive]
      split
      · exact .refl exchange
      · exact .of_eq rfl rfl
  | read => exact exchange.abstains_readNext
  | endInput | fail => exact exchange.abstains_teardown
  | close =>
      rw [step, close_fst]
      exact exchange.abstains_teardown

theorem nextStream_step (exchange : Exchange) (move : Move) :
    (exchange.step move).nextStream =
      if move.isOpening then exchange.nextStream + 1 else exchange.nextStream := by
  cases move with
  | openStream => rfl
  | send now stream request =>
      rw [step, send]
      split <;> rfl
  | watch | unregister | poll | forget | arrive | read | endInput | fail | close =>
      exact (exchange.abstains_step rfl rfl).nextStream

/-- Streams are numbered in order, whatever happens between their openings. -/
theorem opened_of_next {exchange : Exchange} {place : Nat}
    (isNext : exchange.nextStream = Outgoing.numberAt place) (moves : List Move) :
    exchange.opened moves =
      (List.range' place (moves.countP Move.isOpening)).map Outgoing.numberAt := by
  induction moves generalizing exchange place with
  | nil => rfl
  | cons move later inductionHypothesis =>
      have isNextStep := exchange.nextStream_step move
      rw [opened, List.countP_cons]
      cases opens : move.isOpening with
      | true =>
          rw [opens, if_pos rfl, isNext] at isNextStep
          have follows : Outgoing.numberAt place + 1 = Outgoing.numberAt (place + 1) :=
            (UInt64.ofNat_add (place + 1) 1).symm
          rw [inductionHypothesis (isNextStep.trans follows)]
          simp [openStream, isNext, List.range'_succ]
      | false =>
          rw [opens, if_neg Bool.false_ne_true, isNext] at isNextStep
          rw [inductionHypothesis isNextStep]
          simp

theorem opened_eq (address : String) (timeout : Duration) (unread : Bytes) (moves : List Move) :
    (established address timeout unread).opened moves =
      (List.range (moves.countP Move.isOpening)).map Outgoing.numberAt := by
  rw [List.range_eq_range']
  exact opened_of_next rfl moves

/-- A request is sent once it is asked for, with the number of the stream that was given. -/
theorem mem_sent_step {exchange : Exchange} {move : Move} {sync stream : UInt64} {request : Request}
    (isSent : .request sync stream request ∈ (exchange.step move).sent) :
    .request sync stream request ∈ exchange.sent ∨ ∃ now, move = .send now stream request := by
  cases move with
  | openStream => exact .inl isSent
  | send now given asked =>
      rw [step, send] at isSent
      split at isSent
      · rcases List.mem_append.mp isSent with wasSent | isNew
        · exact .inl wasSent
        · cases List.mem_singleton.mp isNew
          exact .inr ⟨now, rfl⟩
      · exact .inl isSent
  | watch | unregister | poll | forget | arrive | read | endInput | fail | close =>
      exact .inl ((exchange.abstains_step rfl rfl).sent _ _ _ isSent)

theorem mem_sent_run {exchange : Exchange} {moves : List Move} {sync stream : UInt64}
    {request : Request} (isSent : .request sync stream request ∈ (exchange.run moves).sent) :
    .request sync stream request ∈ exchange.sent ∨ ∃ now, .send now stream request ∈ moves := by
  induction moves generalizing exchange with
  | nil => exact .inl isSent
  | cons move later inductionHypothesis =>
      rcases inductionHypothesis isSent with wasSent | ⟨now, isLater⟩
      · rcases mem_sent_step wasSent with before | ⟨now, rfl⟩
        · exact .inl before
        · exact .inr ⟨now, List.mem_cons_self⟩
      · exact .inr ⟨now, .tail _ isLater⟩

end Exchange
end FailoverPool
