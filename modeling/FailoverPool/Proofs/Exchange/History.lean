import FailoverPool.Proofs.Exchange.Moves

/-!
What is to be told of the life of a connection: which requests were sent, which responses were
dispatched, which requests were given up, and the end.

`Awaits` and `Answers` read off a history which requests wait for a response and which response is
the answer to a request, without a look at the connection itself.
-/

namespace FailoverPool

/-- Something that decides which requests of a connection wait for a response. -/
inductive Happening where
  | requested (sync : UInt64)
  /-- A response was dispatched, whether or not a request waits for it. -/
  | answered (response : Response)
  /-- The future of the request with this number has told that time is up. -/
  | expired (sync : UInt64)
  /-- The connection was closed, or broke down. -/
  | ended

namespace Happening

def request? : Happening → Option UInt64
  | .requested sync => some sync
  | .answered _ | .expired _ | .ended => none

/-- No request with this number waits any more afterwards. -/
def Settles (happening : Happening) (sync : UInt64) : Prop :=
  match happening with
  | .requested _ => False
  | .answered response => response.sync = sync
  | .expired number => number = sync
  | .ended => True

end Happening

/-- The numbers of the requests that were sent, in their order. -/
def requestNumbers (history : List Happening) : List UInt64 := history.filterMap Happening.request?

/-- A request was sent with this number, and has not been settled since. -/
def Awaits (history : List Happening) (sync : UInt64) : Prop :=
  ∃ earlier later, history = earlier ++ .requested sync :: later ∧
    ∀ happening ∈ later, ¬ happening.Settles sync

/-- The outcome is that of a response with this number, the first one that was dispatched while a
request with this number waited. -/
def Answers (history : List Happening) (sync : UInt64) (outcome : Outcome) : Prop :=
  ∃ earlier response later, history = earlier ++ .answered response :: later ∧
    Awaits earlier sync ∧ response.sync = sync ∧ outcome = response.toResult

theorem not_awaits_nil (sync : UInt64) : ¬ Awaits [] sync := by
  rintro ⟨earlier, later, isEmpty, _⟩
  simp at isEmpty

/-- Whether a request waits is decided by the last thing that happened to it. -/
theorem awaits_concat {history : List Happening} {happening : Happening} {sync : UInt64} :
    Awaits (history ++ [happening]) sync ↔
      happening = .requested sync ∨ Awaits history sync ∧ ¬ happening.Settles sync := by
  constructor
  · rintro ⟨earlier, later, isHistory, areUnsettled⟩
    rcases List.eq_nil_or_concat later with rfl | ⟨before, last, rfl⟩
    · exact .inl (List.singleton_inj.mp (List.append_inj' isHistory rfl).2)
    · rw [List.concat_eq_append] at isHistory areUnsettled
      rw [← List.cons_append, ← List.append_assoc] at isHistory
      obtain ⟨rfl, isLast⟩ := List.append_inj' isHistory rfl
      obtain rfl : happening = last := List.singleton_inj.mp isLast
      refine .inr ⟨⟨earlier, before, rfl, ?_⟩, areUnsettled _ (by simp)⟩
      exact fun other isBefore => areUnsettled other (by simp [isBefore])
  · rintro (rfl | ⟨⟨earlier, later, rfl, areUnsettled⟩, isUnsettled⟩)
    · exact ⟨history, [], rfl, nofun⟩
    · refine ⟨earlier, later ++ [happening], by simp, ?_⟩
      intro other isLater
      rcases List.mem_append.mp isLater with wasLater | isLast
      · exact areUnsettled other wasLater
      · rwa [List.mem_singleton.mp isLast]

theorem requestNumbers_concat {history : List Happening} {happening : Happening}
    (noRequest : happening.request? = none) :
    requestNumbers (history ++ [happening]) = requestNumbers history := by
  simp [requestNumbers, noRequest]

theorem Answers.append {history : List Happening} {sync : UInt64} {outcome : Outcome}
    (answers : Answers history sync outcome) (more : List Happening) :
    Answers (history ++ more) sync outcome := by
  obtain ⟨earlier, response, later, rfl, awaits, isNumber, isOutcome⟩ := answers
  exact ⟨earlier, response, later ++ more, by simp, awaits, isNumber, isOutcome⟩

theorem answers_concat {history : List Happening} {response : Response}
    (awaits : Awaits history response.sync) :
    Answers (history ++ [.answered response]) response.sync response.toResult :=
  ⟨history, response, [], rfl, awaits, rfl, rfl⟩

namespace Exchange

/-- What there is to tell of a move. -/
def happening? (exchange : Exchange) : Move → Option Happening
  | .send _ _ _ => if exchange.isConnected then some (.requested exchange.nextSync) else none
  | .poll now sync =>
      match (exchange.poll now sync).2 with
      | .ready (.error .timeout) => some (.expired sync)
      | _ => none
  | .read =>
      if exchange.isClosed then none
      else match exchange.incoming with
        | .response response => some (.answered response)
        | .breach _ => some .ended
        | .nothing | .event _ _ => none
  | .endInput | .fail | .close => if exchange.isClosed then none else some .ended
  | .watch _ _ | .unregister _ | .openStream | .forget _ | .arrive _ => none

/-- All that there is to tell of a run, in the order in which it happened. -/
def history (exchange : Exchange) : List Move → List Happening
  | [] => []
  | move :: later => (exchange.happening? move).toList ++ (exchange.step move).history later

end Exchange
end FailoverPool
