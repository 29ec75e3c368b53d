import FailoverPool.Future.Basic
import Mathlib.Data.List.Induction

/-!
What a poll of a future gives.

Whoever builds, sends, waits and polls makes a history (`FutureHistory`). Three readings of it
decide the next poll, whatever the order of things: what was settled first, the last deadline, and
the last hook that found a deadline to go with. Main statement: `gives_of_history`.
-/

namespace FailoverPool

/-- Something that is done to a future, or time that passes. -/
inductive FutureAct (Hook : Type) where
  | withTimeout (timeout : Duration)
  | onTimeout (hook : Hook)
  | send (outcome : Outcome)
  /-- The sender is dropped. -/
  | abandon
  | wait (milliseconds : Nat)
  | poll

/-- What has happened to a future, oldest first. -/
abbrev FutureHistory (Hook : Type) := List (FutureAct Hook)

theorem getLast?_append_toList {α : Type} (values : List α) (last : Option α) :
    (values ++ last.toList).getLast? = last.or values.getLast? := by
  cases last <;> simp

variable {Hook : Type}

namespace FutureAct

def elapsed : FutureAct Hook → Nat
  | .wait milliseconds => milliseconds
  | _ => 0

/-- The result that is settled by it. A sender that is gone settles that there will be none. -/
def settles? : FutureAct Hook → Option Outcome
  | .send outcome => some outcome
  | .abandon => some (.error .canceled)
  | _ => none

/-- The deadline that it sets at this moment; a time of zero sets none. -/
def deadline? (now : Instant) : FutureAct Hook → Option Instant
  | .withTimeout timeout =>
      if timeout.isZero then none else some (Instant.after now timeout.ticks)
  | _ => none

def hook? : FutureAct Hook → Option Hook
  | .onTimeout hook => some hook
  | _ => none

/-- It sets a deadline. -/
def isTimed : FutureAct Hook → Bool
  | .withTimeout timeout => !timeout.isZero
  | _ => false

theorem deadline?_eq_none_iff (act : FutureAct Hook) (now : Instant) :
    act.deadline? now = none ↔ act.isTimed = false := by
  cases act with
  | withTimeout => simp [deadline?, isTimed]
  | onTimeout | send | abandon | wait | poll => simp [deadline?, isTimed]

end FutureAct

/-- What a poll will find settled, as long as nothing has been taken out. -/
inductive Inbox.Holds : Inbox → Option Outcome → Prop where
  | empty : Holds .empty none
  | sent (outcome : Outcome) : Holds (.sent outcome) (some outcome)
  | abandoned : Holds .abandoned (some (.error .canceled))

namespace ResponseFuture

variable {future : ResponseFuture Hook} {now : Instant}

theorem withTimeout_eq (isPending : future.isPending = true) (now : Instant) (timeout : Duration) :
    future.withTimeout now timeout =
      { future with
        deadline := ((FutureAct.withTimeout timeout : FutureAct Hook).deadline? now).or
          future.deadline } := by
  rw [withTimeout, isPending, Bool.and_true, FutureAct.deadline?]
  cases timeout.isZero <;> rfl

theorem onTimeout_eq (future : ResponseFuture Hook) (hook : Hook) :
    future.onTimeout hook =
      { future with hook := if future.deadline.isSome then some hook else future.hook } := by
  rw [onTimeout]
  split <;> rfl

/-- What the sender does changes the state alone, and only the first thing counts. -/
theorem send_eq {inbox : Inbox} (state : future.state = .pending inbox) {settled : Option Outcome}
    (holds : inbox.Holds settled) (outcome : Outcome) :
    ∃ next, future.send outcome = { future with state := .pending next } ∧
      next.Holds (settled.or (some outcome)) := by
  obtain ⟨_, deadline, hook⟩ := future
  subst state
  cases holds with
  | empty => exact ⟨.sent outcome, rfl, .sent outcome⟩
  | sent first => exact ⟨_, rfl, .sent first⟩
  | abandoned => exact ⟨_, rfl, .abandoned⟩

theorem abandon_eq {inbox : Inbox} (state : future.state = .pending inbox)
    {settled : Option Outcome} (holds : inbox.Holds settled) :
    ∃ next, future.abandon = { future with state := .pending next } ∧
      next.Holds (settled.or (some (.error .canceled))) := by
  obtain ⟨_, deadline, hook⟩ := future
  subst state
  cases holds with
  | empty => exact ⟨.abandoned, rfl, .abandoned⟩
  | sent first => exact ⟨_, rfl, .sent first⟩
  | abandoned => exact ⟨_, rfl, .abandoned⟩

theorem isLate_iff :
    future.isLate now = true ↔ ∃ deadline, future.deadline = some deadline ∧ deadline ≤ now := by
  rw [isLate]
  cases future.deadline <;> simp

/-- A poll that gives nothing leaves the future as it was, and the future is still pending. -/
theorem poll_of_silent {inbox : Inbox} (state : future.state = .pending inbox)
    {settled : Option Outcome} (holds : inbox.Holds settled)
    (isSilent : (future.poll now).result.outcome? = none) :
    future.poll now = ⟨future, .pending, none⟩ := by
  cases holds with
  | sent | abandoned => simp [poll, state, Poll.outcome?] at isSilent
  | empty =>
      cases isLate : future.isLate now with
      | true => simp [poll, state, isLate, Poll.outcome?] at isSilent
      | false => simp [poll, state, isLate]

end ResponseFuture

namespace FutureHistory

/-- The time at the end. -/
def clock (start : Instant) (history : FutureHistory Hook) : Instant :=
  history.foldl (fun now act => now + act.elapsed) start

/-- What the sender has settled: whatever it did first. -/
def settled? (history : FutureHistory Hook) : Option Outcome :=
  history.findSome? FutureAct.settles?

/-- The deadlines that were set, each counted from the moment at which it was. -/
def deadlines (start : Instant) : FutureHistory Hook → List Instant
  | [] => []
  | act :: later => (act.deadline? start).toList ++ deadlines (start + act.elapsed) later

/-- The hooks that were attached after a time that is not zero. -/
def hooks : FutureHistory Hook → List Hook
  | [] => []
  | act :: later => if act.isTimed then later.filterMap FutureAct.hook? else hooks later

/-- What the next poll gives, and the hook that it releases. -/
inductive Gives (start : Instant) (history : FutureHistory Hook) :
    Poll → Option Hook → Prop where
  /-- What is settled is given, also if the deadline has passed. -/
  | settled {outcome} : history.settled? = some outcome → Gives start history (.ready outcome) none
  | late {deadline} :
      history.settled? = none → (deadlines start history).getLast? = some deadline →
      deadline ≤ clock start history →
      Gives start history (.ready (.error .timeout)) history.hooks.getLast?
  | early :
      history.settled? = none →
      (∀ deadline, (deadlines start history).getLast? = some deadline →
        clock start history < deadline) →
      Gives start history .pending none

variable {start : Instant} {history : FutureHistory Hook} {act : FutureAct Hook}

theorem clock_concat : clock start (history ++ [act]) = clock start history + act.elapsed := by
  simp [clock]

theorem settled?_concat :
    settled? (history ++ [act]) = history.settled?.or act.settles? := by
  simp [settled?, List.findSome?_append]

theorem deadlines_concat : deadlines start (history ++ [act]) =
    deadlines start history ++ (act.deadline? (clock start history)).toList := by
  induction history generalizing start with
  | nil => simp [deadlines, clock]
  | cons first later inductionHypothesis =>
      simp [deadlines, clock, inductionHypothesis]

theorem deadlines_eq_nil_iff :
    deadlines start history = [] ↔ history.any FutureAct.isTimed = false := by
  induction history generalizing start with
  | nil => simp [deadlines]
  | cons first later inductionHypothesis =>
      simp [deadlines, inductionHypothesis, first.deadline?_eq_none_iff]

theorem isSome_getLast?_deadlines :
    (deadlines start history).getLast?.isSome = history.any FutureAct.isTimed := by
  rw [Bool.eq_iff_iff, List.getLast?_isSome, ne_eq, deadlines_eq_nil_iff, Bool.not_eq_false]

/-- A hook counts if a deadline has been set before. -/
theorem hooks_concat : hooks (history ++ [act]) =
    history.hooks ++ if history.any FutureAct.isTimed then act.hook?.toList else [] := by
  induction history with
  | nil => simp [hooks]
  | cons first later inductionHypothesis =>
      cases isTimed : first.isTimed with
      | true =>
          have ofAct : [act].filterMap FutureAct.hook? = act.hook?.toList := by
            cases h : act.hook? <;> simp [h]
          simp [hooks, isTimed, ofAct]
      | false => simp [hooks, isTimed, inductionHypothesis]

end FutureHistory

/-- A future in the course of its life, with the clock and with what its polls have given. -/
structure FutureRun (Hook : Type) where
  now : Instant
  future : ResponseFuture Hook
  /-- What the first poll gave that gave anything. -/
  outcome : Option Outcome
  released : List Hook

namespace FutureRun

/-- What a poll would give now. -/
def polled (run : FutureRun Hook) : ResponseFuture.Polled Hook := run.future.poll run.now

def step (run : FutureRun Hook) : FutureAct Hook → FutureRun Hook
  | .withTimeout timeout => { run with future := run.future.withTimeout run.now timeout }
  | .onTimeout hook => { run with future := run.future.onTimeout hook }
  | .send outcome => { run with future := run.future.send outcome }
  | .abandon => { run with future := run.future.abandon }
  | .wait milliseconds => { run with now := run.now + milliseconds }
  | .poll =>
      { run with
        future := run.polled.future
        outcome := run.outcome.or run.polled.result.outcome?
        released := run.released ++ run.polled.released.toList }

def after (start : Instant) (future : ResponseFuture Hook) (history : FutureHistory Hook) :
    FutureRun Hook :=
  history.foldl step ⟨start, future, none, []⟩

variable {run : FutureRun Hook} {start : Instant} {history : FutureHistory Hook}

/-- What an act does to a future that waits, and has not given anything by then. -/
structure Advances (before : FutureRun Hook) (settled : Option Outcome) (act : FutureAct Hook)
    (after : FutureRun Hook) : Prop where
  now : after.now = before.now + act.elapsed
  inbox : ∃ next, after.future.state = .pending next ∧ next.Holds (settled.or act.settles?)
  deadline : after.future.deadline = (act.deadline? before.now).or before.future.deadline
  hook : after.future.hook =
    if before.future.deadline.isSome then act.hook?.or before.future.hook else before.future.hook
  released : after.released = before.released

theorem advances_step {inbox : Inbox} (state : run.future.state = .pending inbox)
    {settled : Option Outcome} (holds : inbox.Holds settled) {act : FutureAct Hook}
    (goesOn : (run.step act).outcome = none) : run.Advances settled act (run.step act) := by
  have same : ∃ next, run.future.state = .pending next ∧ next.Holds (settled.or none) :=
    ⟨inbox, state, by rwa [Option.or_none]⟩
  have sameHook : run.future.hook =
      if run.future.deadline.isSome then run.future.hook else run.future.hook :=
    (ite_self _).symm
  cases act with
  | withTimeout timeout =>
      have isPending : run.future.isPending = true := by rw [ResponseFuture.isPending, state]
      rw [step, ResponseFuture.withTimeout_eq isPending]
      exact ⟨rfl, same, rfl, sameHook, rfl⟩
  | onTimeout hook =>
      rw [step, ResponseFuture.onTimeout_eq]
      exact ⟨rfl, same, rfl, rfl, rfl⟩
  | send outcome =>
      obtain ⟨next, isSent, nextHolds⟩ := ResponseFuture.send_eq state holds outcome
      rw [step, isSent]
      exact ⟨rfl, ⟨next, rfl, nextHolds⟩, rfl, sameHook, rfl⟩
  | abandon =>
      obtain ⟨next, isAbandoned, nextHolds⟩ := ResponseFuture.abandon_eq state holds
      rw [step, isAbandoned]
      exact ⟨rfl, ⟨next, rfl, nextHolds⟩, rfl, sameHook, rfl⟩
  | wait milliseconds => exact ⟨rfl, same, rfl, sameHook, rfl⟩
  | poll =>
      have isSilent := (Option.or_eq_none_iff.mp goesOn).2
      rw [step, polled, ResponseFuture.poll_of_silent state holds isSilent]
      exact ⟨rfl, same, rfl, sameHook, List.append_nil _⟩

/-- The future waits, and its history says for what. -/
structure Follows (run : FutureRun Hook) (start : Instant) (history : FutureHistory Hook) :
    Prop where
  now : run.now = FutureHistory.clock start history
  inbox : ∃ inbox, run.future.state = .pending inbox ∧ inbox.Holds history.settled?
  deadline : run.future.deadline = (FutureHistory.deadlines start history).getLast?
  hook : run.future.hook = history.hooks.getLast?
  released : run.released = []

theorem Follows.step (follows : run.Follows start history) {act : FutureAct Hook}
    (goesOn : (run.step act).outcome = none) : (run.step act).Follows start (history ++ [act]) := by
  obtain ⟨inbox, state, holds⟩ := follows.inbox
  have advances := advances_step state holds goesOn
  constructor
  · rw [advances.now, follows.now, FutureHistory.clock_concat]
  · rw [FutureHistory.settled?_concat]
    exact advances.inbox
  · rw [advances.deadline, follows.deadline, follows.now, FutureHistory.deadlines_concat,
      getLast?_append_toList]
  · rw [advances.hook, follows.hook, follows.deadline, FutureHistory.isSome_getLast?_deadlines,
      FutureHistory.hooks_concat]
    split
    · rw [getLast?_append_toList]
    · rw [List.append_nil]
  · rw [advances.released, follows.released]

theorem Follows.gives (follows : run.Follows start history) :
    history.Gives start run.polled.result run.polled.released := by
  obtain ⟨inbox, state, holds⟩ := follows.inbox
  rw [polled, ResponseFuture.poll, state]
  generalize isSettled : history.settled? = settled at holds
  cases holds with
  | sent | abandoned => exact .settled isSettled
  | empty =>
      dsimp only
      split
      · next isLate =>
        obtain ⟨deadline, isDeadline, hasPassed⟩ := ResponseFuture.isLate_iff.mp isLate
        rw [follows.hook]
        rw [follows.deadline] at isDeadline
        exact .late isSettled isDeadline (follows.now ▸ hasPassed)
      · next isEarly =>
        apply FutureHistory.Gives.early isSettled
        intro deadline isDeadline
        rw [← follows.now, ← Nat.not_le]
        intro hasPassed
        rw [← follows.deadline] at isDeadline
        exact isEarly (ResponseFuture.isLate_iff.mpr ⟨deadline, isDeadline, hasPassed⟩)

theorem after_concat (start : Instant) (future : ResponseFuture Hook)
    (history : FutureHistory Hook) (act : FutureAct Hook) :
    after start future (history ++ [act]) = (after start future history).step act := by
  rw [after, List.foldl_append]
  rfl

/-- What was given first stays. -/
theorem outcome_step {outcome : Outcome} (given : run.outcome = some outcome)
    (act : FutureAct Hook) : (run.step act).outcome = some outcome := by
  cases act with
  | poll => simp [step, given]
  | withTimeout | onTimeout | send | abandon | wait => exact given

theorem follows_after (goesOn : (after start .pending history).outcome = none) :
    (after start .pending history).Follows start history := by
  induction history using List.reverseRecOn with
  | nil => exact ⟨rfl, ⟨.empty, rfl, .empty⟩, rfl, rfl, rfl⟩
  | append_singleton earlier act inductionHypothesis =>
      rw [after_concat] at goesOn ⊢
      cases wasGiven : (after start .pending earlier).outcome with
      | none => exact (inductionHypothesis wasGiven).step goesOn
      | some outcome =>
          rw [outcome_step wasGiven] at goesOn
          cases goesOn

/-- The future has had its result from the start. -/
structure IsReady (run : FutureRun Hook) (result : Outcome) : Prop where
  future : ∃ known, run.future = ⟨.ready known, none, none⟩ ∧
    (known = some result ∧ run.outcome = none ∨ run.outcome = some result)
  released : run.released = []

/-- Whatever is built onto a future that has its result, it stays as it is until it is polled. -/
theorem step_of_ready {known : Option Outcome} (isKnown : run.future = ⟨.ready known, none, none⟩)
    {act : FutureAct Hook} (isOther : act ≠ .poll) :
    (run.step act).future = run.future ∧ (run.step act).outcome = run.outcome ∧
      (run.step act).released = run.released := by
  obtain ⟨now, _, outcome, released⟩ := run
  subst isKnown
  cases act with
  | withTimeout timeout => simp [step, ResponseFuture.withTimeout, ResponseFuture.isPending]
  | onTimeout | send | abandon | wait => exact ⟨rfl, rfl, rfl⟩
  | poll => exact absurd rfl isOther

theorem IsReady.outcome_poll {result : Outcome} (isReady : run.IsReady result) :
    (run.step .poll).outcome = some result := by
  obtain ⟨known, isKnown, isGiven⟩ := isReady.future
  rcases isGiven with ⟨rfl, isFirst⟩ | wasGiven
  · simp [FutureRun.step, polled, isFirst, isKnown, ResponseFuture.poll, Poll.outcome?]
  · exact outcome_step wasGiven .poll

theorem IsReady.step {result : Outcome} (isReady : run.IsReady result) (act : FutureAct Hook) :
    (run.step act).IsReady result := by
  obtain ⟨known, isKnown, isGiven⟩ := isReady.future
  by_cases isPoll : act = .poll
  · subst isPoll
    constructor
    · refine ⟨none, ?_, .inr isReady.outcome_poll⟩
      simp [FutureRun.step, polled, isKnown, ResponseFuture.poll]
    · simp [FutureRun.step, polled, isKnown, ResponseFuture.poll, isReady.released]
  · obtain ⟨sameFuture, sameOutcome, sameReleased⟩ := step_of_ready isKnown isPoll
    constructor
    · rw [sameFuture, sameOutcome]
      exact isReady.future
    · rw [sameReleased, isReady.released]

theorem isReady_after (start : Instant) (history : FutureHistory Hook) (result : Outcome) :
    (after start (.ready result) history).IsReady result ∧
      (.poll ∈ history → (after start (.ready result) history).outcome = some result) := by
  induction history using List.reverseRecOn with
  | nil => exact ⟨⟨⟨_, rfl, .inl ⟨rfl, rfl⟩⟩, rfl⟩, nofun⟩
  | append_singleton earlier act inductionHypothesis =>
      obtain ⟨isReady, given⟩ := inductionHypothesis
      rw [after_concat]
      refine ⟨isReady.step act, fun isPolled => ?_⟩
      rcases List.mem_append.mp isPolled with wasPolled | isLast
      · exact outcome_step (given wasPolled) act
      · rw [← List.mem_singleton.mp isLast]
        exact isReady.outcome_poll

end FutureRun

/-- A future that waits gives what its history says, at whatever moment it is polled, as long as no
poll has given anything; and no hook has been released by then. A future that has its result from
the start gives it when it is first polled, whatever was built onto it, and never releases a
hook. -/
theorem gives_of_history (start : Instant) (history : FutureHistory Hook) :
    ((FutureRun.after start .pending history).outcome = none →
      (FutureRun.after start .pending history).released = [] ∧
        history.Gives start (FutureRun.after start .pending history).polled.result
          (FutureRun.after start .pending history).polled.released) ∧
      ∀ result, (FutureRun.after start (.ready result) history).released = [] ∧
        (.poll ∈ history →
          (FutureRun.after start (.ready result) history).outcome = some result) := by
  constructor
  · intro goesOn
    have follows := FutureRun.follows_after goesOn
    exact ⟨follows.released, follows.gives⟩
  · intro result
    obtain ⟨isReady, given⟩ := FutureRun.isReady_after start history result
    exact ⟨isReady.released, given⟩

/-- The second deadline counts, and the last hook but for the one that found none. What is sent once
the deadline has passed still comes before it. -/
theorem gives_of_two_deadlines :
    let history : FutureHistory Nat := [.onTimeout 0, .withTimeout (.ofMilliseconds 10),
      .onTimeout 1, .poll, .wait 4, .withTimeout (.ofMilliseconds 20), .onTimeout 2,
      .withTimeout .zero, .wait 19, .poll, .wait 1]
    (FutureRun.after 0 .pending history).outcome = none ∧
      history.Gives 0 (.ready (.error .timeout)) (some 2) ∧
      ∀ outcome, FutureHistory.Gives 0 (history ++ [.send outcome]) (.ready outcome) none ∧
        (FutureRun.after 0 (.ready outcome) history).outcome = some outcome := by
  intro history
  have isPolled : .poll ∈ history := by simp [history]
  refine ⟨rfl, ((gives_of_history 0 history).1 rfl).2, fun outcome => ⟨?_, ?_⟩⟩
  · exact ((gives_of_history 0 (history ++ [.send outcome])).1 rfl).2
  · exact ((gives_of_history 0 history).2 outcome).2 isPolled

end FailoverPool
