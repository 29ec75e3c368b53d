import FailoverPool.Proofs.Network.News
import FailoverPool.Proofs.Pool.Agreement
import FailoverPool.Proofs.Pool.Closing
import FailoverPool.Proofs.Pool.Deeds

/-!
No failure is forgotten by an upkeep whose queue is informed of everything.

`Informed` is the course of such a pool: no event is lost, whoever closes says so, and a dial hands
over a connection that was not closed when the dial began. As long as the pool is open and its
upkeep has not ended, every installed connection that has closed has its event in the queue, or the
upkeep is at work on it (`PoolRun.Heeds`). Main statement: `heeds_of_informed`.
-/

namespace FailoverPool

namespace PoolRun

theorem queue_continueUpdate (run : PoolRun) (former discovered addresses : List String) :
    (run.continueUpdate former discovered addresses).pool.queue = run.pool.queue := by
  cases addresses with
  | nil => rw [continueUpdate, finishUpdate, pool_rest, removeAll_eq]
  | cons address later =>
      rw [continueUpdate]
      split
      · rw [pool_rest]
      · rfl

theorem queue_beginDiscovery (run : PoolRun) (function : String) :
    (run.beginDiscovery function).pool.queue = run.pool.queue := by
  obtain ⟨fallback, isPool, _⟩ := run.pool.select_eq run.network
  unfold beginDiscovery
  cases isChosen : run.pool.select run.network with
  | mk pool target =>
      obtain rfl : pool = { run.pool with fallback } := by rw [← isPool, isChosen]
      cases target with
      | none => rw [pool_rest]
      | some id =>
          dsimp only
          split
          · rw [pool_rest]
          · rfl

theorem queue_finishDiscovery (run : PoolRun) (outcome : Outcome) :
    (run.finishDiscovery outcome).pool.queue = run.pool.queue := by
  unfold finishDiscovery beginUpdate
  split
  · rw [pool_rest]
  · dsimp only
    split
    · rw [pool_rest]
    · exact run.queue_continueUpdate _ _ _

theorem queue_finishDial (run : PoolRun) (dialed : Option ConnectionId) :
    (run.finishDial dialed).pool.queue = run.pool.queue := by
  unfold finishDial
  cases run.duty with
  | idle | ask | ended => rfl
  | repair address failed =>
      dsimp only [finishRepair]
      cases dialed with
      | none => rw [pool_rest, Pool.evict_eq]
      | some id => rw [pool_rest, pool_takeDialed]
  | check address later => rw [pool_continueCheck, pool_takeDialed]
  | update address later former discovered => rw [queue_continueUpdate, pool_takeDialed]

end PoolRun

/-- A pool has the same queue all along. -/
theorem Step.queue_eq {dialer : Dialer} {before after : Course} {move : Move}
    (step : Step dialer before move after) : after.run.pool.queue = before.run.pool.queue := by
  cases step with
  | surroundings => rfl
  | select =>
      obtain ⟨_, isPool⟩ := before.run.pool_select
      rw [isPool]
  | request request =>
      obtain ⟨_, isPool⟩ := before.run.pool_request request
      rw [isPool]
  | event event _ => rw [PoolRun.pool_handleEvent]
  | check _ => rw [PoolRun.beginCheck, PoolRun.pool_continueCheck]
  | discovery function _ => exact before.run.queue_beginDiscovery function
  | answer outcome _ => exact before.run.queue_finishDiscovery outcome
  | refused _ | opened _ _ _ => exact before.run.queue_finishDial _
  | close => rw [PoolRun.pool_close]
  | release => rw [PoolRun.pool_release]

/-- What a move installs, a dial has handed over. -/
theorem Step.eq_opened_of_new {dialer : Dialer} {before after : Course} {move : Move}
    (step : Step dialer before move after) (sound : before.Sound) {address : String}
    {id : ConnectionId} (installed : after.run.pool.entries.installed? address = some id) :
    before.run.pool.entries.installed? address = some id ∨ move = .opened id := by
  obtain ⟨handed, changes⟩ := step.changes sound
  refine (changes.affects.new address id installed).imp_right fun isNew => ?_
  have isDialed := changes.dialed
  rw [isNew.1] at isDialed
  cases step with
  | opened =>
      cases isDialed
      rfl
  | surroundings | select | request | event | check | discovery | answer | refused | close
    | release => exact absurd isDialed.symm (List.cons_ne_self _ _)

/-- A pool in the making whose queue is informed of everything. A dial opens its connection, so that
it was not closed before, and has it report to the queue. -/
inductive WarmsInformed (dialer : Dialer) : Warming → List String → Warming → Prop where
  | done {warming} : WarmsInformed dialer warming [] warming
  | refused {warming after network address later} :
      (warming.network.note (.dial address)).Informs warming.warmUp.queue network →
      WarmsInformed dialer
        { warming with network, warmUp := warming.warmUp.take network address none } later after →
      WarmsInformed dialer warming (address :: later) after
  | opened {warming after network address later id} :
      (warming.network.note (.dial address)).Informs warming.warmUp.queue network →
      warming.network.isClosed id = false → network.ReportsTo warming.warmUp.queue id →
      network.Knows id → dialer warming.handed network address id →
      WarmsInformed dialer
        ⟨network, warming.warmUp.take network address (some id), id :: warming.handed⟩ later after →
      WarmsInformed dialer warming (address :: later) after

/-- These events wait in the queue of the pool, in place of those that do. -/
def PoolRun.withEvents (run : PoolRun) (events : List Event) : PoolRun :=
  { run with network := run.network.setEvents run.pool.queue events }

/-- A pool at work whose queue is informed of everything. The network is the one in which the upkeep
was last suspended: the dial that is under way has begun there. -/
inductive Informed (dialer : Dialer) (addresses : List String) (options : PoolOptions) :
    Course → Network → Prop where
  | opens {network finished begun warming pool} :
      WarmUp.begin network addresses options = .ok begun →
      WarmsInformed dialer ⟨begun.1, begun.2, []⟩ addresses warming →
      warming.warmUp.finish warming.network = (finished, .ok pool) →
      Informed dialer addresses options ⟨⟨finished, pool, .idle⟩, warming.handed, []⟩ finished
  | surroundings {course begun network} :
      Informed dialer addresses options course begun →
      course.run.network.Informs course.run.pool.queue network →
      Informed dialer addresses options { course with run := { course.run with network } } begun
  /-- The upkeep takes the first event that waits. -/
  | event {course begun event later after} :
      Informed dialer addresses options course begun →
      course.run.network.events course.run.pool.queue = event :: later →
      Step dialer { course with run := course.run.withEvents later } (.event event) after →
      Informed dialer addresses options after after.run.network
  /-- It goes on with something else. -/
  | upkeep {course begun move after} :
      Informed dialer addresses options course begun →
      Step dialer course move after → move.isUpkeep = true → (∀ event, move ≠ .event event) →
      (∀ id, move = .opened id → begun.isClosed id = false ∧
        course.run.network.ReportsTo course.run.pool.queue id) →
      course.run.network.Announces course.run.pool.queue after.run.network →
      Informed dialer addresses options after after.run.network
  | other {course begun move after} :
      Informed dialer addresses options course begun →
      Step dialer course move after → move.isUpkeep = false → move ≠ .surroundings →
      course.run.network.Announces course.run.pool.queue after.run.network →
      Informed dialer addresses options after begun

theorem WarmsInformed.warms {dialer : Dialer} {warming after : Warming} {addresses : List String}
    (warms : WarmsInformed dialer warming addresses after) :
    Warms dialer warming addresses after := by
  induction warms with
  | done => exact .done
  | refused informs _ inductionHypothesis => exact .refused informs.evolves inductionHypothesis
  | opened informs _ _ known isAllowed _ inductionHypothesis =>
      exact .opened informs.evolves known isAllowed inductionHypothesis

theorem Network.evolves_setEvents (network : Network) (queue : QueueId) (events : List Event) :
    network.Evolves (network.setEvents queue events) :=
  .of_connections_eq rfl

/-- It is the course of a pool like any other. -/
theorem Informed.reaches {dialer : Dialer} {addresses : List String} {options : PoolOptions}
    {course : Course} {begun : Network}
    (informed : Informed dialer addresses options course begun) :
    ∃ start, Opens dialer addresses options start ∧ Reaches dialer start course := by
  induction informed with
  | opens isBegun warms isFinished => exact ⟨_, .intro isBegun warms.warms isFinished, .refl⟩
  | surroundings _ informs inductionHypothesis =>
      obtain ⟨start, opens, reaches⟩ := inductionHypothesis
      exact ⟨start, opens, reaches.tail ⟨_, .surroundings informs.evolves⟩⟩
  | @event course _ _ later _ _ _ step inductionHypothesis =>
      obtain ⟨start, opens, reaches⟩ := inductionHypothesis
      have evolves := course.run.network.evolves_setEvents course.run.pool.queue later
      have taken := reaches.tail ⟨_, .surroundings evolves⟩
      exact ⟨start, opens, taken.tail ⟨_, step⟩⟩
  | upkeep _ step _ _ _ _ inductionHypothesis | other _ step _ _ _ inductionHypothesis =>
      obtain ⟨start, opens, reaches⟩ := inductionHypothesis
      exact ⟨start, opens, reaches.tail ⟨_, step⟩⟩

namespace PoolRun

/-- The end of the connection waits in the queue of the pool. -/
def Waits (run : PoolRun) (id : ConnectionId) : Prop :=
  ⟨id, .closed⟩ ∈ run.network.events run.pool.queue

/-- Every installed connection that has closed has its event in the queue, or it is the one whose
event the upkeep is handling. -/
structure Heeds (run : PoolRun) : Prop where
  reports : ∀ address id, run.pool.entries.installed? address = some id →
    run.network.ReportsTo run.pool.queue id
  installed : ∀ address id, run.pool.entries.installed? address = some id →
    run.network.isClosed id = true → run.Waits id ∨ run.duty = .repair address id

/-- Whoever has closed since then has its event in the queue. -/
def HeedsSince (run : PoolRun) (begun : Network) : Prop :=
  ∀ id, run.network.ReportsTo run.pool.queue id → begun.isClosed id = false →
    run.network.isClosed id = true → run.Waits id

theorem heedsSince_self (run : PoolRun) : run.HeedsSince run.network := by
  intro id _ isOpen closed
  rw [isOpen] at closed
  cases closed

theorem HeedsSince.moves {before after : PoolRun} {begun : Network}
    (since : before.HeedsSince begun) (sameQueue : after.pool.queue = before.pool.queue)
    (informs : before.network.Informs before.pool.queue after.network) :
    after.HeedsSince begun := by
  intro id reports isOpen closed
  unfold Waits
  rw [sameQueue] at reports ⊢
  apply informs.waits reports closed
  exact fun wasClosed => since id (informs.reportedBefore reports wasClosed) isOpen wasClosed

/-- The queue is informed of a move that installs nothing but what was dialed since then, and that
finishes no repair. -/
theorem Heeds.moves {before after : PoolRun} {begun : Network} (heeds : before.Heeds)
    (since : before.HeedsSince begun)
    (sameQueue : after.pool.queue = before.pool.queue)
    (informs : before.network.Informs before.pool.queue after.network)
    (new : ∀ address id, after.pool.entries.installed? address = some id →
      before.pool.entries.installed? address = some id ∧
          (before.duty = .repair address id → after.duty = .repair address id) ∨
        before.network.ReportsTo before.pool.queue id ∧ begun.isClosed id = false) :
    after.Heeds := by
  have stillReports {id : ConnectionId} (reports : before.network.ReportsTo before.pool.queue id) :
      after.network.ReportsTo before.pool.queue id :=
    (informs.reports id (Network.knows_of_reportsTo reports)).mpr reports
  constructor
  · intro address id installed
    rw [sameQueue]
    rcases new address id installed with ⟨wasInstalled, _⟩ | ⟨reports, _⟩
    · exact stillReports (heeds.reports address id wasInstalled)
    · exact stillReports reports
  · intro address id installed closed
    unfold Waits
    rw [sameQueue]
    rcases new address id installed with ⟨wasInstalled, staysInRepair⟩ | ⟨reports, isOpen⟩
    · have reports := stillReports (heeds.reports address id wasInstalled)
      -- Either it closes now, or its event was waiting, or it is being handled.
      cases wasClosed : before.network.isClosed id with
      | false => exact .inl (informs.announces id reports wasClosed closed)
      | true =>
          exact (heeds.installed address id wasInstalled wasClosed).imp
            (informs.keeps _) staysInRepair
    · exact .inl (informs.waits (stillReports reports) closed
        fun wasClosed => since id reports isOpen wasClosed)

/-- An upkeep that rests and has not ended is where it was, with nothing to do. -/
theorem rest_of_goesOn {run : PoolRun} (goesOn : run.rest.duty ≠ .ended) :
    run.rest = { run with duty := .idle } := by
  unfold rest at goesOn ⊢
  split at goesOn
  · exact absurd rfl goesOn
  · next isOpen => rw [if_neg isOpen]

/-- Of the event that is taken nothing is lost: either it is stale, or it is handled from now on. -/
theorem Heeds.handleEvent {run : PoolRun} {event : Event} {later : List Event}
    (heeds : run.Heeds) (agrees : run.pool.entries.AgreesWith run.network)
    (isIdle : run.duty = .idle)
    (areEvents : run.network.events run.pool.queue = event :: later)
    (goesOn : ((run.withEvents later).handleEvent event).duty ≠ .ended) :
    ((run.withEvents later).handleEvent event).Heeds := by
  have stillWaits {id : ConnectionId} (isLater : ⟨id, .closed⟩ ∈ later) :
      (run.withEvents later).Waits id := by
    rw [Waits, withEvents, Network.events_setEvents areEvents]
    exact isLater
  -- Whoever waited still waits, but for the connection whose event was taken.
  have waited {address : String} {id : ConnectionId}
      (installed : run.pool.entries.installed? address = some id)
      (closed : run.network.isClosed id = true) :
      event = ⟨id, .closed⟩ ∨ ⟨id, .closed⟩ ∈ later := by
    rcases heeds.installed address id installed closed with waits | isRepaired
    · rw [Waits, areEvents] at waits
      exact (List.mem_cons.mp waits).imp_left Eq.symm
    · rw [isIdle] at isRepaired
      cases isRepaired
  have isInstalled {address : String} {id : ConnectionId}
      (installed : run.pool.entries.installed? address = some id) :
      run.network.address id = address ∧ run.pool.isInstalled run.network id = true := by
    have isAddress := agrees address id installed
    exact ⟨isAddress, by rw [Pool.isInstalled, isAddress, installed, beq_self_eq_true]⟩
  unfold PoolRun.handleEvent at goesOn ⊢
  split at goesOn
  · next isActed =>
    rw [if_pos isActed]
    refine ⟨heeds.reports, fun address id installed closed => ?_⟩
    rcases waited installed closed with rfl | isLater
    · refine .inr ?_
      rw [← (isInstalled installed).1]
      rfl
    · exact .inl (stillWaits isLater)
  · next isStale =>
    rw [if_neg isStale, rest_of_goesOn goesOn]
    refine ⟨heeds.reports, fun address id installed closed => .inl ?_⟩
    rcases waited installed closed with rfl | isLater
    · refine absurd ?_ isStale
      rw [Bool.and_eq_true, Bool.and_eq_true, decide_eq_true_eq]
      exact ⟨⟨rfl, closed⟩, (isInstalled installed).2⟩
    · exact stillWaits isLater

/-- The end of the dial of a repair: the failed connection has given way or is forgotten. -/
theorem eq_of_finishRepair {run : PoolRun} {address : String} {failed : ConnectionId}
    (isOpen : run.pool.isClosed = false) {dialed : Option ConnectionId}
    (installed : (run.finishRepair address failed dialed).pool.entries.installed? address =
      some failed) : dialed = some failed := by
  unfold finishRepair at installed
  cases dialed with
  | none =>
      rw [pool_rest, Pool.installed?_evict] at installed
      split at installed
      · cases installed
      · next isOther => exact absurd ⟨installed, rfl⟩ isOther
  | some id =>
      have isPool : (run.takeDialed address (some id)).pool = _ :=
        run.pool.install_fst run.network address id
      rw [pool_rest, isPool, if_neg (by simp [isOpen]), Entries.installed?_put, if_pos rfl]
        at installed
      exact installed

end PoolRun

/-- If a repair goes on, it is the same repair; else its failed connection is not installed any
more, unless it was dialed again. -/
theorem Step.repair_of_installed {dialer : Dialer} {before after : Course} {move : Move}
    (step : Step dialer before move after) (isOpen : before.run.pool.isClosed = false)
    {address : String} {id : ConnectionId} (isRepaired : before.run.duty = .repair address id)
    (installed : after.run.pool.entries.installed? address = some id) :
    after.run.duty = .repair address id ∨ move = .opened id := by
  have finishes (dialed : Option ConnectionId) :
      before.run.finishDial dialed = before.run.finishRepair address id dialed := by
    rw [PoolRun.finishDial, isRepaired]
  cases isUpkeep : move.isUpkeep with
  | false =>
      refine .inl ((step.duty_of_isBusy ?_ isUpkeep).trans isRepaired)
      rw [isRepaired]
      exact nofun
  | true =>
      cases step with
      | surroundings | select | request | close | release => cases isUpkeep
      | event _ duty | check duty | discovery _ duty | answer _ duty =>
          rw [isRepaired] at duty
          cases duty
      | refused _ =>
          dsimp only at installed
          rw [finishes] at installed
          cases PoolRun.eq_of_finishRepair isOpen installed
      | opened _ _ _ =>
          dsimp only at installed
          rw [finishes] at installed
          cases PoolRun.eq_of_finishRepair isOpen installed
          exact .inr rfl

/-- A pool that does something itself informs its queue, as long as whoever it closes says so. -/
theorem Step.informs {dialer : Dialer} {before after : Course} {move : Move}
    (step : Step dialer before move after) (isInside : move ≠ .surroundings)
    (goesOn : after.run.duty ≠ .ended)
    (announces : before.run.network.Announces before.run.pool.queue after.run.network) :
    before.run.network.Informs before.run.pool.queue after.run.network := by
  obtain ⟨deeds, does⟩ := step.does isInside
  exact ⟨does.evolves, fun _ => does.mem_events goesOn, fun id _ => does.reportsTo _ id, announces⟩

theorem Step.heeds {dialer : Dialer} {before after : Course} {move : Move} {begun : Network}
    (step : Step dialer before move after) (sound : before.Sound)
    (isOpen : before.run.pool.isClosed = false) (heeds : before.run.Heeds)
    (since : before.run.HeedsSince begun)
    (informs : before.run.network.Informs before.run.pool.queue after.run.network)
    (isNew : ∀ id, move = .opened id →
      begun.isClosed id = false ∧ before.run.network.ReportsTo before.run.pool.queue id) :
    after.run.Heeds := by
  apply heeds.moves since step.queue_eq informs
  intro address id installed
  by_cases isOpened : move = .opened id
  · exact .inr (isNew id isOpened).symm
  · have wasInstalled := (step.eq_opened_of_new sound installed).resolve_right isOpened
    refine .inl ⟨wasInstalled, fun isRepaired => ?_⟩
    exact (step.repair_of_installed isOpen isRepaired installed).resolve_right isOpened

/-- What holds while a pool is being made and its queue is informed of everything: nobody takes its
events. -/
structure Warming.Heeds (warming : Warming) : Prop where
  reports : ∀ id ∈ warming.handed, warming.network.ReportsTo warming.warmUp.queue id
  closed : ∀ id ∈ warming.handed, warming.network.isClosed id = true →
    ⟨id, .closed⟩ ∈ warming.network.events warming.warmUp.queue

theorem Warming.Heeds.informed {warming : Warming} (heeds : warming.Heeds) {network : Network}
    (informs : warming.network.Informs warming.warmUp.queue network) :
    Warming.Heeds { warming with network } := by
  have stillReports (id) (isHanded : id ∈ warming.handed) :
      network.ReportsTo warming.warmUp.queue id :=
    (informs.reports id (Network.knows_of_reportsTo (heeds.reports id isHanded))).mpr
      (heeds.reports id isHanded)
  refine ⟨stillReports, fun id isHanded closed => ?_⟩
  exact informs.waits (stillReports id isHanded) closed (heeds.closed id isHanded)

theorem WarmsInformed.heeds {dialer : Dialer} {warming after : Warming} {addresses : List String}
    (warms : WarmsInformed dialer warming addresses after) (heeds : warming.Heeds) :
    after.Heeds ∧ after.warmUp.queue = warming.warmUp.queue := by
  induction warms with
  | done => exact ⟨heeds, rfl⟩
  | @refused warming _ _ address _ informs _ inductionHypothesis =>
      have noted : Warming.Heeds { warming with network := warming.network.note (.dial address) } :=
        ⟨heeds.reports, heeds.closed⟩
      have informed := noted.informed informs
      exact inductionHypothesis ⟨informed.reports, informed.closed⟩
  | @opened warming _ network address _ id informs wasOpen reports _ _ _ inductionHypothesis =>
      have noted : Warming.Heeds { warming with network := warming.network.note (.dial address) } :=
        ⟨heeds.reports, heeds.closed⟩
      have informed := noted.informed informs
      apply inductionHypothesis
      refine ⟨List.forall_mem_cons.mpr ⟨reports, informed.reports⟩,
        List.forall_mem_cons.mpr ⟨fun closed => ?_, informed.closed⟩⟩
      exact informs.announces id reports wasOpen closed

/-- The upkeep of an open pool goes on, and has gone on so far. -/
def PoolRun.GoesOn (run : PoolRun) : Prop :=
  run.pool.isClosed = false ∧ run.duty ≠ .ended

theorem Step.wentOn {dialer : Dialer} {before after : Course} {move : Move}
    (step : Step dialer before move after) (sound : before.Sound) (goesOn : after.run.GoesOn) :
    before.run.GoesOn := by
  refine ⟨step.isOpen_of_isOpen sound goesOn.1, fun isEnded => goesOn.2 ?_⟩
  rw [step.duty_of_isBusy (by simp [isEnded]) (step.isUpkeep_of_ended isEnded), isEnded]

theorem Informed.soundAgrees {dialer : Dialer} {addresses : List String} {options : PoolOptions}
    {course : Course} {begun : Network} (isTruthful : dialer.IsTruthful)
    (informed : Informed dialer addresses options course begun) :
    course.Sound ∧ course.run.pool.entries.AgreesWith course.run.network := by
  obtain ⟨start, opens, reaches⟩ := informed.reaches
  exact ⟨reaches.sound opens.sound,
    reaches.agrees isTruthful opens.sound (opens.agrees isTruthful)⟩

theorem Informed.heeds {dialer : Dialer} {addresses : List String} {options : PoolOptions}
    {course : Course} {begun : Network} (isTruthful : dialer.IsTruthful)
    (informed : Informed dialer addresses options course begun) (goesOn : course.run.GoesOn) :
    course.run.Heeds ∧ course.run.HeedsSince begun := by
  induction informed with
  | @opens _ _ _ warming _ isBegun warms isFinished =>
      obtain ⟨queue, isWarmUp⟩ := WarmUp.begin_eq isBegun
      have sound := (Opens.intro isBegun warms.warms isFinished).sound
      obtain ⟨_, rfl, rfl⟩ := WarmUp.finish_eq isFinished
      obtain ⟨heeds, _⟩ := warms.heeds ⟨nofun, nofun⟩
      refine ⟨⟨fun address id installed => ?_, fun address id installed closed => ?_⟩,
        PoolRun.heedsSince_self _⟩
      · exact heeds.reports id (sound.installed address id installed)
      · exact .inl (heeds.closed id (sound.installed address id installed) closed)
  | @surroundings course _ _ informed informs inductionHypothesis =>
      obtain ⟨heeds, since⟩ := inductionHypothesis goesOn
      refine ⟨heeds.moves since rfl informs ?_, since.moves rfl informs⟩
      exact fun _ _ installed => .inl ⟨installed, fun isRepaired => isRepaired⟩
  | @event course _ event later _ informed areEvents step inductionHypothesis =>
      obtain ⟨sound, agrees⟩ := informed.soundAgrees isTruthful
      have evolves := course.run.network.evolves_setEvents course.run.pool.queue later
      have taken := (Step.surroundings evolves : Step dialer course .surroundings _).sound sound
      obtain ⟨heeds, _⟩ := inductionHypothesis (step.wentOn taken goesOn)
      refine ⟨?_, PoolRun.heedsSince_self _⟩
      cases step with
      | event _ isIdle => exact heeds.handleEvent agrees isIdle areEvents goesOn.2
  | @upkeep course _ move _ informed step isUpkeep _ isNew announces inductionHypothesis =>
      have sound := (informed.soundAgrees isTruthful).1
      have wentOn := step.wentOn sound goesOn
      obtain ⟨heeds, since⟩ := inductionHypothesis wentOn
      have isInside : move ≠ .surroundings := by
        rintro rfl
        cases isUpkeep
      have informs := step.informs isInside goesOn.2 announces
      exact ⟨step.heeds sound wentOn.1 heeds since informs isNew, PoolRun.heedsSince_self _⟩
  | @other course _ move _ informed step isOther isInside announces inductionHypothesis =>
      have sound := (informed.soundAgrees isTruthful).1
      have wentOn := step.wentOn sound goesOn
      obtain ⟨heeds, since⟩ := inductionHypothesis wentOn
      have informs := step.informs isInside goesOn.2 announces
      refine ⟨step.heeds sound wentOn.1 heeds since informs ?_, since.moves step.queue_eq informs⟩
      rintro id rfl
      cases isOther

/-- No failure is forgotten. Whenever the upkeep of an open pool is suspended, every installed
connection that has closed has its event in the queue, or it is the one whose event the upkeep is
handling; and if the upkeep has nothing to do and no event waits, then no installed connection has
closed. -/
theorem heeds_of_informed {dialer : Dialer} {addresses : List String} {options : PoolOptions}
    {course : Course} {begun : Network} (isTruthful : dialer.IsTruthful)
    (informed : Informed dialer addresses options course begun)
    (isOpen : course.run.pool.isClosed = false) (goesOn : course.run.duty ≠ .ended) :
    (∀ address id, course.run.pool.entries.installed? address = some id →
      course.run.network.isClosed id = true →
        ⟨id, .closed⟩ ∈ course.run.network.events course.run.pool.queue ∨
          course.run.duty = .repair address id) ∧
    (course.run.duty = .idle → course.run.network.events course.run.pool.queue = [] →
      ∀ address id, course.run.pool.entries.installed? address = some id →
        course.run.network.isClosed id = false) := by
  have heeds := (informed.heeds isTruthful ⟨isOpen, goesOn⟩).1
  refine ⟨heeds.installed, fun isIdle isEmpty address id installed => ?_⟩
  by_contra closed
  rcases heeds.installed address id installed (by simpa using closed) with waits | isRepaired
  · rw [PoolRun.Waits, isEmpty] at waits
    cases waits
  · rw [isIdle] at isRepaired
    cases isRepaired

/-- The next address is connected, and its connection reports to the queue. -/
theorem WarmsInformed.open {warming after : Warming} {address : String} {later : List String}
    (known : ∀ id ∈ warming.handed, warming.network.Knows id) {state : ConnectionState}
    (isAlive : state ≠ .closed)
    (warms :
      let (network, id) := (warming.network.note (.dial address)).openConnection address state
        warming.warmUp.queue
      WarmsInformed .fresh
        ⟨network, warming.warmUp.take network address (some id), id :: warming.handed⟩
        later after) :
    WarmsInformed .fresh warming (address :: later) after := by
  let dialed := warming.network.note (.dial address)
  have knownBefore : ∀ id ∈ warming.handed, dialed.Knows id := known
  obtain ⟨_, isKnown, isFresh⟩ :=
    Dialer.fresh_openConnection knownBefore address state warming.warmUp.queue
  refine .opened (dialed.informs_openConnection address isAlive _) ?_ ?_ isKnown isFresh warms
  · exact Network.isClosed_eq_false_of_not_knows (Nat.lt_irrefl _)
  · exact (dialed.connection?_openConnection_new address state warming.warmUp.queue).2

/-- While a connection is redialed that has closed, another one closes. -/
theorem heeds_of_two_losses :
    ∃ course begun, Informed .fresh ["a", "b"] .default course begun ∧
      course.run.duty = .repair "a" ⟨0⟩ ∧
      course.run.network.events course.run.pool.queue = [⟨⟨1⟩, .closed⟩] ∧
      ∀ address id, course.run.pool.entries.installed? address = some id →
        course.run.network.isClosed id = true →
          ⟨id, .closed⟩ ∈ course.run.network.events course.run.pool.queue ∨
            course.run.duty = .repair address id := by
  have opened : Informed .fresh ["a", "b"] .default _ _ :=
    @Informed.opens _ _ _ .empty _ _ _ _ rfl
      (.open nofun (nofun : ConnectionState.connected ≠ .closed)
        (.open (by decide) (nofun : ConnectionState.connecting ≠ .closed) .done)) rfl
  have lost := opened.surroundings (Network.informs_hangUp ⟨_, rfl, rfl, by decide⟩ ⟨0⟩)
  have repaired := ((lost.event rfl (.event ⟨⟨0⟩, .connected⟩ rfl)).event rfl
    (.event ⟨⟨1⟩, .connected⟩ rfl)).event rfl (.event ⟨⟨0⟩, .closed⟩ rfl)
  have informed := repaired.surroundings (Network.informs_hangUp ⟨_, rfl, rfl, by decide⟩ ⟨1⟩)
  exact ⟨_, _, informed, rfl, rfl,
    (heeds_of_informed Dialer.isTruthful_fresh informed rfl nofun).1⟩

end FailoverPool
