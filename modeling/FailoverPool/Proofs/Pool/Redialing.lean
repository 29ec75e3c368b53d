import FailoverPool.Proofs.Pool.Asking
import FailoverPool.Proofs.Pool.Attention
import FailoverPool.Proofs.Pool.Reconciliation

/-!
A connection is redialed once at most because of its events.

Events may be repeated, may come late, and may tell of connections that are long gone. One that is
timely (`PoolRun.IsTimely`) is followed by a dial; any other leaves everything as it was. A
connection that has been redialed is spent (`Course.IsSpent`), and stays so: an address may be
dialed again, but what it had before is never installed again. Main statement:
`redialsOnce_of_traces`.
-/

namespace FailoverPool

namespace Duty

def isRepairing : Duty → Bool
  | .repair .. => true
  | _ => false

end Duty

/-- The moves of a pool, each with what it has done on the network. -/
abbrev Trace := List (Move × List Occurrence)

/-- The course of a pool from one moment to another, move by move. -/
inductive Traces (dialer : Dialer) (start : Course) : Trace → Course → Prop
  | start : Traces dialer start [] start
  | concat {trace before move after} :
      Traces dialer start trace before → Step dialer before move after →
      Traces dialer start (trace ++ [(move, after.run.network.since before.run.network)]) after

/-- If the move is the handling of an event, the connection that the event tells of, for each dial
that was begun. -/
def Move.redialed (deeds : List Occurrence) : Move → List ConnectionId
  | .event handled => (deeds.filterMap Occurrence.dialed?).map fun _ => handled.connection
  | _ => []

/-- The connections that were redialed because of events, one for each dial. -/
def Trace.redialed (trace : Trace) : List ConnectionId :=
  trace.flatMap fun entry => entry.1.redialed entry.2

theorem Trace.redialed_concat (trace : Trace) (move : Move) (deeds : List Occurrence) :
    redialed (trace ++ [(move, deeds)]) = redialed trace ++ move.redialed deeds := by
  simp [redialed]

theorem Traces.reaches {dialer : Dialer} {start course : Course} {trace : Trace}
    (traces : Traces dialer start trace course) : Reaches dialer start course := by
  induction traces with
  | start => exact .refl
  | concat _ step inductionHypothesis => exact inductionHypothesis.tail ⟨_, step⟩

/-- The handling of an event, from its beginning on. The list of occurrences holds what the upkeep
has done since, and the other list how its dials have ended. -/
inductive Handles (dialer : Dialer) (before : Course) (event : Event) :
    Course → List Occurrence → List (Option ConnectionId) → Prop
  | begins {after} :
      Step dialer before (.event event) after →
      Handles dialer before event after (after.run.network.since before.run.network) []
  | meanwhile {between after move deeds ends} :
      Handles dialer before event between deeds ends →
      between.run.duty.isRepairing = true →
      Step dialer between move after → move.isUpkeep = false →
      Handles dialer before event after deeds ends
  | dialed {between after move deeds ends dialEnd} :
      Handles dialer before event between deeds ends →
      between.run.duty.isRepairing = true →
      Step dialer between move after → move.dialEnd? = some dialEnd →
      Handles dialer before event after
        (deeds ++ after.run.network.since between.run.network) (ends ++ [dialEnd])

namespace PoolRun

/-- The event tells the end of a connection that has indeed closed, and that is still the one
installed for its address. -/
structure IsTimely (run : PoolRun) (event : Event) : Prop where
  kind : event.kind = .closed
  closed : run.network.isClosed event.connection = true
  installed : run.pool.entries.installed? (run.network.address event.connection) =
    some event.connection

/-- What the handling of a timely event has come to when it is over. -/
structure Redialed (before : PoolRun) (event : Event) (deeds : List Occurrence)
    (dialEnd : Option ConnectionId) (after : PoolRun) : Prop where
  deeds : deeds = [.dial (before.network.address event.connection)]
  tracked : after.pool.tracked = before.pool.tracked
  /-- The address has the connection that the dial has handed over, and none if it has failed. -/
  joined : after.pool.entries.installed? (before.network.address event.connection) = dialEnd
  others : ∀ address, address ≠ before.network.address event.connection →
    after.pool.entries.installed? address = before.pool.entries.installed? address
  left : ∀ address, after.pool.entries.installed? address ≠ some event.connection

/-- The dial that follows a timely event is under way, and nothing has changed. -/
structure Redialing (before : PoolRun) (event : Event) (run : PoolRun) : Prop where
  duty : run.duty = .repair (before.network.address event.connection) event.connection
  tracked : run.pool.tracked = before.pool.tracked
  entries : run.pool.entries = before.pool.entries
  evolves : before.network.Evolves run.network

variable {run : PoolRun} {event : Event}

theorem handleEvent_of_isTimely (isTimely : run.IsTimely event) :
    run.handleEvent event =
      run.dial (run.network.address event.connection)
        (.repair (run.network.address event.connection) event.connection) := by
  have isInstalled : run.pool.isInstalled run.network event.connection = true := by
    rw [Pool.isInstalled, isTimely.installed, beq_self_eq_true]
  rw [handleEvent, if_pos]
  simp [isTimely.kind, isTimely.closed, isInstalled]

theorem handleEvent_of_not_isTimely (isStale : ¬ run.IsTimely event) :
    run.handleEvent event = run.rest := by
  rw [handleEvent, if_neg]
  intro isActed
  simp only [Bool.and_eq_true, decide_eq_true_eq, Pool.isInstalled, beq_iff_eq] at isActed
  exact isStale ⟨isActed.1.1, isActed.1.2, isActed.2⟩

theorem isRepairing_rest (run : PoolRun) : run.rest.duty.isRepairing = false := by
  unfold rest
  split <;> rfl

/-- What was installed for the address has closed, so that nothing else is closed for the connection
that the dial hands over. -/
theorem Redialing.finishDial {before : PoolRun} (redialing : before.Redialing event run)
    (isTimely : before.IsTimely event) (agrees : before.pool.entries.AgreesWith before.network)
    (isOpen : run.pool.isClosed = false) {dialEnd : Option ConnectionId}
    (isNew : dialEnd ≠ some event.connection) :
    (run.finishDial dialEnd).network.since run.network = [] ∧
      (run.finishDial dialEnd).duty.isRepairing = false ∧
      before.Redialed event [.dial (before.network.address event.connection)] dialEnd
        (run.finishDial dialEnd) := by
  have closed := redialing.evolves.isClosed _ isTimely.closed
  have installed := redialing.entries ▸ isTimely.installed
  -- Whether the dial succeeds or fails, it settles the entry of its address and no other.
  obtain ⟨finished, isRest, sameNetwork, sameTracked, areEntries⟩ : ∃ finished : PoolRun,
      run.finishDial dialEnd = finished.rest ∧ finished.network = run.network ∧
      finished.pool.tracked = run.pool.tracked ∧
      ∀ other, finished.pool.entries.installed? other =
        if before.network.address event.connection = other then dialEnd
        else run.pool.entries.installed? other := by
    rw [PoolRun.finishDial, redialing.duty]
    cases dialEnd with
    | none =>
        refine ⟨_, rfl, rfl, ?_, fun other => ?_⟩
        · rw [Pool.evict_eq]
        · rw [Pool.installed?_evict]
          simp [installed]
    | some id =>
        have isVacant : run.isVacant (before.network.address event.connection) = true := by
          rw [PoolRun.isVacant, installed, Option.all_some, closed]
        obtain ⟨entries, isTaken, areEntries⟩ := takeDialed_of_isVacant isOpen isVacant (some id)
        refine ⟨_, rfl, ?_, ?_, fun other => ?_⟩
        · rw [isTaken]
        · rw [isTaken]
        · rw [isTaken, areEntries, Option.some_or]
  have others : ∀ address, address ≠ before.network.address event.connection →
      finished.rest.pool.entries.installed? address =
        before.pool.entries.installed? address := by
    intro address isOther
    rw [pool_rest, areEntries, if_neg (Ne.symm isOther), redialing.entries]
  rw [isRest]
  refine ⟨?_, finished.isRepairing_rest, rfl, ?_, ?_, others, ?_⟩
  · rw [← sameNetwork]
    exact finished.does_rest.since_eq
  · rw [pool_rest, sameTracked, redialing.tracked]
  · rw [pool_rest, areEntries, if_pos rfl]
  · intro address isInstalled
    by_cases same : address = before.network.address event.connection
    · rw [pool_rest, areEntries, if_pos same.symm] at isInstalled
      exact isNew isInstalled
    · rw [others address same] at isInstalled
      exact same (agrees address _ isInstalled).symm

/-- When the dial has ended, nothing more is dialed, whether the pool is open or not. -/
theorem does_finishDial_of_isRepairing (isRepairing : run.duty.isRepairing = true)
    (dialEnd : Option ConnectionId) :
    ∃ deeds, run.Does deeds (run.finishDial dialEnd) ∧
      deeds.filterMap Occurrence.dialed? = [] := by
  rw [PoolRun.finishDial]
  cases duty : run.duty with
  | idle | check | ask | update | ended => simp [duty, Duty.isRepairing] at isRepairing
  | repair address failed =>
      cases dialEnd with
      | none =>
          let evicted : PoolRun := { run with pool := run.pool.evict address failed }
          exact ⟨_, .after_acts evicted .nil evicted.does_rest, rfl⟩
      | some id =>
          obtain ⟨deeds, acts, areCloses⟩ :=
            acts_takeDialed (fun _ _ => trivial) fun _ _ _ => trivial
          refine ⟨_, .after_acts _ acts (does_rest _), ?_⟩
          rw [List.append_nil, List.filterMap_eq_nil_iff]
          exact fun occurrence isDeed => (areCloses occurrence isDeed).dialed?_eq

end PoolRun

/-- The connection was handed to the pool, and none of its events is timely any more: the pool was
closed, its address is being redialed on its account, or it is installed nowhere. -/
structure Course.IsSpent (course : Course) (id : ConnectionId) : Prop where
  handed : id ∈ course.handed
  isOver : course.run.pool.isClosed = true ∨
    course.run.duty = .repair (course.run.network.address id) id ∨
      ∀ address, course.run.pool.entries.installed? address ≠ some id

section

variable {before after : Course} {move : Move} {id : ConnectionId}

theorem Step.mem_handed {dialer : Dialer} (step : Step dialer before move after)
    (sound : before.Sound) (isHanded : id ∈ before.handed) : id ∈ after.handed := by
  obtain ⟨_, changes⟩ := step.changes sound
  exact (changes.mem_handed id).mpr (.inl isHanded)

/-- A dial hands over no connection that the pool was handed before. -/
theorem Step.ne_opened (step : Step .fresh before move after) (isHanded : id ∈ before.handed) :
    move ≠ .opened id := by
  rintro rfl
  cases step with
  | opened _ _ isFresh => exact isFresh.1 isHanded

theorem Step.isSpent (step : Step .fresh before move after) (sound : before.Sound)
    (agrees : before.run.pool.entries.AgreesWith before.run.network)
    (isSpent : before.IsSpent id) : after.IsSpent id := by
  obtain ⟨_, changes⟩ := step.changes sound
  have isNotNew := step.ne_opened isSpent.handed
  refine ⟨step.mem_handed sound isSpent.handed, ?_⟩
  cases isClosed : after.run.pool.isClosed with
  | true => exact .inl rfl
  | false =>
      have isOpen := step.isOpen_of_isOpen sound isClosed
      by_cases isGone : ∀ address, after.run.pool.entries.installed? address ≠ some id
      · exact .inr (.inr isGone)
      · -- It is installed still, so it was before, and it can only be that it is being redialed.
        simp only [not_forall, not_not] at isGone
        obtain ⟨address, installed⟩ := isGone
        have wasInstalled := (step.eq_opened_of_new sound installed).resolve_right isNotNew
        have isRepaired : before.run.duty = .repair (before.run.network.address id) id := by
          rcases isSpent.isOver with wasClosed | isRepaired | isGone
          · rw [isOpen] at wasClosed
            cases wasClosed
          · exact isRepaired
          · exact absurd wasInstalled (isGone address)
        have known := sound.knowsInstalled address id wasInstalled
        rw [agrees address id wasInstalled] at isRepaired
        rw [changes.affects.evolves.address id known, agrees address id wasInstalled]
        exact .inr (.inl ((step.repair_of_installed isOpen isRepaired installed).resolve_right
          isNotNew))

/-- An event that is timely is followed by a dial, and any other by nothing. -/
theorem Step.of_event {dialer : Dialer} {event : Event}
    (step : Step dialer before (.event event) after) :
    (before.run.IsTimely event ∧
        after.run = before.run.dial (before.run.network.address event.connection)
          (.repair (before.run.network.address event.connection) event.connection) ∧
        after.run.network.since before.run.network =
          [.dial (before.run.network.address event.connection)]) ∨
      (¬ before.run.IsTimely event ∧ after.run = before.run.rest ∧
        after.run.network.since before.run.network = []) := by
  cases step with
  | event _ _ =>
      by_cases isTimely : before.run.IsTimely event
      · have handled := PoolRun.handleEvent_of_isTimely isTimely
        refine .inl ⟨isTimely, handled, ?_⟩
        dsimp only
        rw [handled]
        exact (before.run.does_dial _ _).since_eq
      · have handled := PoolRun.handleEvent_of_not_isTimely isTimely
        refine .inr ⟨isTimely, handled, ?_⟩
        dsimp only
        rw [handled]
        exact before.run.does_rest.since_eq

/-- Nothing but a timely event redials a connection, and it does so once. -/
theorem Step.redialed {dialer : Dialer} (step : Step dialer before move after) :
    move.redialed (after.run.network.since before.run.network) = [] ∨
      ∃ event, move = .event event ∧ before.run.IsTimely event ∧
        move.redialed (after.run.network.since before.run.network) = [event.connection] := by
  cases move with
  | event event =>
      rcases step.of_event with ⟨isTimely, _, isDial⟩ | ⟨_, _, isNothing⟩
      · refine .inr ⟨event, rfl, isTimely, ?_⟩
        rw [isDial]
        rfl
      · rw [isNothing]
        exact .inl rfl
  | surroundings | select | request | check | discovery | answer | refused | opened | close
    | release => exact .inl rfl

end

namespace Traces

variable {start course : Course} {trace : Trace}

/-- Whoever was redialed is spent, and nobody is redialed who is spent. -/
theorem nodup_redialed (traces : Traces .fresh start trace course) (sound : start.Sound)
    (agrees : start.run.pool.entries.AgreesWith start.run.network) :
    trace.redialed.Nodup ∧ ∀ id ∈ trace.redialed, course.IsSpent id := by
  induction traces with
  | start => exact ⟨List.nodup_nil, nofun⟩
  | @concat trace before move after traces step inductionHypothesis =>
      obtain ⟨distinct, areSpent⟩ := inductionHypothesis
      have soundBefore := traces.reaches.sound sound
      have agreesBefore := traces.reaches.agrees Dialer.isTruthful_fresh sound agrees
      have stillSpent : ∀ id ∈ trace.redialed, after.IsSpent id :=
        fun id isRedialed => step.isSpent soundBefore agreesBefore (areSpent id isRedialed)
      rw [Trace.redialed_concat]
      rcases step.redialed with isNone | ⟨event, rfl, isTimely, isOne⟩
      · rw [isNone, List.append_nil]
        exact ⟨distinct, stillSpent⟩
      · rw [isOne]
        cases step with
        | event _ isIdle =>
            have isNew : event.connection ∉ trace.redialed := by
              intro isRedialed
              rcases (areSpent _ isRedialed).isOver with wasClosed | isRepaired | isGone
              · rw [soundBefore.orderly.idle isIdle] at wasClosed
                cases wasClosed
              · rw [isIdle] at isRepaired
                cases isRepaired
              · exact isGone _ isTimely.installed
            have isSpent : Course.IsSpent
                { before with run := before.run.handleEvent event } event.connection := by
              rw [PoolRun.handleEvent_of_isTimely isTimely]
              exact ⟨soundBefore.installed _ _ isTimely.installed, .inr (.inl rfl)⟩
            refine ⟨List.nodup_append.mpr ⟨distinct, List.nodup_singleton _, ?_⟩, ?_⟩
            · rintro id isRedialed _ isLast rfl
              exact isNew (List.mem_singleton.mp isLast ▸ isRedialed)
            · intro id isRedialed
              rcases List.mem_append.mp isRedialed with wasRedialed | isLast
              · exact stillSpent id wasRedialed
              · exact List.mem_singleton.mp isLast ▸ isSpent

end Traces

namespace Handles

variable {dialer : Dialer} {before after : Course} {event : Event} {deeds : List Occurrence}
  {ends : List (Option ConnectionId)}

theorem reaches (handles : Handles dialer before event after deeds ends) :
    Reaches dialer before after := by
  induction handles with
  | begins step => exact .single ⟨_, step⟩
  | meanwhile _ _ step _ inductionHypothesis => exact inductionHypothesis.tail ⟨_, step⟩
  | dialed _ _ step _ inductionHypothesis => exact inductionHypothesis.tail ⟨_, step⟩

/-- Whatever becomes of the pool meanwhile, an event is followed by no second dial. -/
theorem length_dialed_le (handles : Handles dialer before event after deeds ends) :
    (deeds.filterMap Occurrence.dialed?).length ≤ 1 := by
  induction handles with
  | begins step =>
      rcases step.of_event with ⟨_, _, isDial⟩ | ⟨_, _, isNothing⟩
      · rw [isDial]
        exact Nat.le_refl 1
      · rw [isNothing]
        exact Nat.zero_le 1
  | meanwhile _ _ _ _ inductionHypothesis => exact inductionHypothesis
  | @dialed between _ _ _ _ dialEnd _ isRepairing step isEnded inductionHypothesis =>
      obtain ⟨later, does, noDial⟩ :=
        PoolRun.does_finishDial_of_isRepairing isRepairing dialEnd
      rw [step.run_of_dialEnd isEnded, does.since_eq, List.filterMap_append, noDial,
        List.append_nil]
      exact inductionHypothesis

/-- As long as the pool is open, a timely event is being handled by a dial, or this is over. -/
theorem stage (handles : Handles .fresh before event after deeds ends) (sound : before.Sound)
    (agrees : before.run.pool.entries.AgreesWith before.run.network)
    (isTimely : before.run.IsTimely event) (isOpen : after.run.pool.isClosed = false) :
    (before.run.Redialing event after.run ∧ ends = [] ∧
        deeds = [.dial (before.run.network.address event.connection)]) ∨
      (after.run.duty.isRepairing = false ∧
        ∃ dialEnd, ends = [dialEnd] ∧ before.run.Redialed event deeds dialEnd after.run) := by
  have isHanded := sound.installed _ _ isTimely.installed
  induction handles with
  | begins step =>
      rcases step.of_event with ⟨_, isDialing, isDial⟩ | ⟨isStale, _⟩
      · rw [isDial, isDialing]
        exact .inl ⟨⟨rfl, rfl, rfl, before.run.network.evolves_note _⟩, rfl, rfl⟩
      · exact absurd isTimely isStale
  | @meanwhile between _ _ _ _ handles isRepairing step isOther inductionHypothesis =>
      have soundBetween := handles.reaches.sound sound
      obtain ⟨_, changes⟩ := step.changes soundBetween
      rcases inductionHypothesis (step.isOpen_of_isOpen soundBetween isOpen) with
        ⟨redialing, noEnds, areDeeds⟩ | ⟨isOver, _⟩
      · obtain ⟨sameEntries, sameTracked⟩ := step.entries_of_isOther isOther
        have isBusy : between.run.duty ≠ .idle := by simp [redialing.duty]
        refine .inl ⟨⟨?_, ?_, ?_, ?_⟩, noEnds, areDeeds⟩
        · rw [step.duty_of_isBusy isBusy isOther, redialing.duty]
        · rw [sameTracked, redialing.tracked]
        · rw [sameEntries, redialing.entries]
        · exact redialing.evolves.trans changes.affects.evolves
      · rw [isOver] at isRepairing
        cases isRepairing
  | @dialed between _ move _ _ dialEnd handles isRepairing step isEnded inductionHypothesis =>
      have soundBetween := handles.reaches.sound sound
      have isOpenBetween := step.isOpen_of_isOpen soundBetween isOpen
      rcases inductionHypothesis isOpenBetween with ⟨redialing, rfl, rfl⟩ | ⟨isOver, _⟩
      · have stillHanded : event.connection ∈ between.handed := by
          apply soundBetween.installed
          rw [redialing.entries]
          exact isTimely.installed
        have isNew : dialEnd ≠ some event.connection := by
          rintro rfl
          cases move with
          | opened id =>
              cases isEnded
              exact step.ne_opened stillHanded rfl
          | surroundings | select | request | event | check | discovery | answer | refused | close
            | release => cases isEnded
        obtain ⟨nothingElse, isOver, redialed⟩ :=
          redialing.finishDial isTimely agrees isOpenBetween isNew
        rw [step.run_of_dialEnd isEnded, nothingElse]
        exact .inr ⟨isOver, dialEnd, rfl, redialed⟩
      · rw [isOver] at isRepairing
        cases isRepairing

/-- An event that is not timely is over at once, with nothing done. -/
theorem ignores (handles : Handles dialer before event after deeds ends)
    (isStale : ¬ before.run.IsTimely event) :
    deeds = [] ∧ ends = [] ∧ before.run.Ignores after.run := by
  induction handles with
  | begins step =>
      rcases step.of_event with ⟨isTimely, _⟩ | ⟨_, rests, isNothing⟩
      · exact absurd isTimely isStale
      · rw [isNothing, rests]
        exact ⟨rfl, rfl, before.run.ignores_rest before.run.pool.fallback⟩
  | meanwhile _ isRepairing _ _ inductionHypothesis
  | dialed _ isRepairing _ _ inductionHypothesis =>
      obtain ⟨_, _, ignored⟩ := inductionHypothesis
      have duty := ignored.duty
      split at duty
      · rw [duty] at isRepairing
        cases isRepairing
      · rw [duty] at isRepairing
        cases isRepairing

end Handles

/-- Events are followed by one redial of each connection at most, however often they are repeated
and however late they come. Wherever a pool is in its course, an event is followed by one dial at
most, and one that is not timely leaves the addresses, the entries and all connections as they are.
One that is timely is followed by one dial, of the address of its connection; if the pool is still
open when it has ended, the connection is installed no more, and its address has what the dial has
come to. -/
theorem redialsOnce_of_traces {addresses : List String} {options : PoolOptions}
    {start course : Course} {trace : Trace} (opens : Opens .fresh addresses options start)
    (traces : Traces .fresh start trace course) :
    trace.redialed.Nodup ∧
      ∀ event after deeds ends, Handles .fresh course event after deeds ends →
        (deeds.filterMap Occurrence.dialed?).length ≤ 1 ∧
        (¬ course.run.IsTimely event → deeds = [] ∧ ends = [] ∧ course.run.Ignores after.run) ∧
        (course.run.IsTimely event → after.run.pool.isClosed = false →
          after.run.duty.isRepairing = false →
            ∃ dialEnd, ends = [dialEnd] ∧ course.run.Redialed event deeds dialEnd after.run) := by
  have agrees := opens.agrees Dialer.isTruthful_fresh
  have soundHere := traces.reaches.sound opens.sound
  have agreesHere := traces.reaches.agrees Dialer.isTruthful_fresh opens.sound agrees
  refine ⟨(traces.nodup_redialed opens.sound agrees).1, fun event after deeds ends handles => ?_⟩
  refine ⟨handles.length_dialed_le, handles.ignores, fun isTimely isOpen isOver => ?_⟩
  rcases handles.stage soundHere agreesHere isTimely isOpen with ⟨redialing, _⟩ | ⟨_, redialed⟩
  · rw [redialing.duty] at isOver
    cases isOver
  · exact redialed

/-- The end of a connection is told twice. The first time its address is redialed; the second time
another connection is installed there, which is left alone. -/
theorem redialsOnce_of_repeated_event :
    ∃ start lost redialed later trace deeds, Opens .fresh ["a", "b"] .default start ∧
      Traces .fresh start trace later ∧ trace.redialed = [⟨0⟩] ∧ trace.redialed.Nodup ∧
      Handles .fresh lost ⟨⟨0⟩, .closed⟩ redialed deeds [some ⟨2⟩] ∧
      lost.run.Redialed ⟨⟨0⟩, .closed⟩ deeds (some ⟨2⟩) redialed.run ∧
      Handles .fresh redialed ⟨⟨0⟩, .closed⟩ later [] [] ∧ redialed.run.Ignores later.run := by
  have opens : Opens .fresh ["a", "b"] .default _ :=
    @Opens.intro _ _ _ .empty _ _ _ _ rfl
      (.open nofun .connected (.open (by decide) .connecting .done)) rfl
  have known := ((opens.reaches_lose ⟨0⟩).sound opens.sound).known
  obtain ⟨evolves, isKnown, isFresh⟩ := Dialer.fresh_openConnection known "a" .connected ⟨0⟩
  have traced := Traces.start.concat (opens.step_hangUp ⟨0⟩)
  have hears := opens.step_event ⟨0⟩
  have tracedOn : Traces .fresh _ _ _ :=
    ((traced.concat hears).concat (.surroundings evolves)).concat (.opened rfl isKnown isFresh)
  have tracedAgain := tracedOn.concat (.event ⟨⟨0⟩, .closed⟩ rfl)
  have handled : Handles .fresh _ ⟨⟨0⟩, .closed⟩ _ _ _ :=
    .dialed (.meanwhile (.begins hears) rfl (.surroundings evolves) rfl) rfl
      (.opened rfl isKnown isFresh) rfl
  obtain ⟨_, ⟨⟩, redialed⟩ :=
    ((redialsOnce_of_traces opens traced).2 _ _ _ _ handled).2.2 ⟨rfl, rfl, rfl⟩ rfl rfl
  obtain ⟨_, _, ignores⟩ :=
    ((redialsOnce_of_traces opens tracedOn).2 ⟨⟨0⟩, .closed⟩ _ _ _ (.begins (.event _ rfl))).2.1
      fun isTimely => nomatch isTimely.installed
  exact ⟨_, _, _, _, _, _, opens, tracedAgain, rfl, (redialsOnce_of_traces opens tracedAgain).1,
    handled, redialed, .begins (.event _ rfl), ignores⟩

end FailoverPool
