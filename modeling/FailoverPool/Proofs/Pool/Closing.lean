import FailoverPool.Proofs.Pool.Accounting

/-!
Closing a pool is final.

A closed pool installs nothing, and its upkeep does not begin anything. What it was suspended in
when the pool was closed it goes on with once: then it has ended, and has done nothing but close
connections (`EndsQuietly`). Main statement: `closed_of_reaches`.
-/

namespace FailoverPool

namespace PoolRun

/-- The upkeep ends, and does nothing before but close connections. -/
structure EndsQuietly (before after : PoolRun) : Prop where
  duty : after.duty = .ended
  onlyCloses : before.network.OnlyCloses after.network

variable {run : PoolRun}

theorem EndsQuietly.trans {first second third : PoolRun}
    (earlier : first.network.OnlyCloses second.network) (later : second.EndsQuietly third) :
    first.EndsQuietly third :=
  ⟨later.duty, earlier.trans later.onlyCloses⟩

theorem endsQuietly_rest (closed : run.pool.isClosed = true) : run.EndsQuietly run.rest := by
  refine ⟨rest_of_isClosed closed, .of_record_eq ?_⟩
  unfold rest
  split <;> rfl

theorem endsQuietly_continueCheck (closed : run.pool.isClosed = true) (addresses : List String) :
    run.EndsQuietly (run.continueCheck addresses) := by
  cases addresses with
  | nil => exact endsQuietly_rest closed
  | cons address later =>
      rw [continueCheck, if_pos closed]
      exact endsQuietly_rest closed

theorem onlyCloses_removeAll (run : PoolRun) (addresses : List String) :
    run.network.OnlyCloses (run.removeAll addresses).network := by
  induction addresses generalizing run with
  | nil => exact .of_record_eq rfl
  | cons address later inductionHypothesis =>
      rw [removeAll]
      refine .trans ?_ (inductionHypothesis _)
      dsimp only
      split
      · exact .of_record_eq rfl
      · exact run.network.onlyCloses_dismiss _

theorem endsQuietly_continueUpdate (closed : run.pool.isClosed = true)
    (former discovered addresses : List String) :
    run.EndsQuietly (run.continueUpdate former discovered addresses) := by
  cases addresses with
  | nil =>
      let left := run.removeAll (former.filter fun address => !discovered.contains address)
      let switched : PoolRun := { left with pool := { left.pool with tracked := discovered } }
      have closedAfter : switched.pool.isClosed = true := by
        simp only [switched, left]
        rw [removeAll_eq]
        exact closed
      have onlyCloses : run.network.OnlyCloses switched.network := run.onlyCloses_removeAll _
      exact .trans onlyCloses (endsQuietly_rest closedAfter)
  | cons address later =>
      rw [continueUpdate, if_pos closed]
      exact endsQuietly_rest closed

theorem endsQuietly_finishDiscovery (closed : run.pool.isClosed = true) (outcome : Outcome) :
    run.EndsQuietly (run.finishDiscovery outcome) := by
  unfold finishDiscovery
  split
  · exact endsQuietly_rest closed
  · unfold beginUpdate
    dsimp only
    split
    · exact endsQuietly_rest closed
    · exact endsQuietly_continueUpdate closed _ _ _

/-- A closed pool only closes what a dial hands over. -/
theorem takeDialed_of_isClosed (closed : run.pool.isClosed = true) (address : String)
    (dialed : Option ConnectionId) :
    (run.takeDialed address dialed).pool.isClosed = true ∧
      run.network.OnlyCloses (run.takeDialed address dialed).network := by
  cases dialed with
  | none => exact ⟨closed, .of_record_eq rfl⟩
  | some id =>
      have isInstall : run.pool.install run.network address id =
          (run.pool, run.network.dismiss id) := by
        rw [Pool.install, if_pos closed]
      simp only [takeDialed, isInstall]
      exact ⟨closed, run.network.onlyCloses_dismiss id⟩

theorem endsQuietly_finishDial {address : String} (closed : run.pool.isClosed = true)
    (isDialed : run.duty.dialing? = some address) (dialed : Option ConnectionId) :
    run.EndsQuietly (run.finishDial dialed) := by
  unfold finishDial
  cases duty : run.duty with
  | idle | ask | ended => simp [duty, Duty.dialing?] at isDialed
  | repair target failed =>
      cases dialed with
      | none =>
          let evicted : PoolRun := { run with pool := run.pool.evict target failed }
          have closedAfter : evicted.pool.isClosed = true := by
            simp only [evicted]
            rw [Pool.evict_eq]
            exact closed
          have onlyCloses : run.network.OnlyCloses evicted.network := .of_record_eq rfl
          exact .trans onlyCloses (endsQuietly_rest closedAfter)
      | some id =>
          have taken := takeDialed_of_isClosed closed target (some id)
          exact .trans taken.2 (endsQuietly_rest taken.1)
  | check target later =>
      have taken := takeDialed_of_isClosed closed target dialed
      exact .trans taken.2 (endsQuietly_continueCheck taken.1 later)
  | update target later former discovered =>
      have taken := takeDialed_of_isClosed closed target dialed
      exact .trans taken.2 (endsQuietly_continueUpdate taken.1 former discovered later)

theorem duty_request (run : PoolRun) (request : Request) :
    (run.request request).duty = run.duty := by
  unfold PoolRun.request
  split <;> rfl

end PoolRun

/-- In a closed pool nothing new is begun. The upkeep ends with whatever it goes on with. -/
theorem Step.endsQuietly {dialer : Dialer} {before after : Course} {move : Move}
    (step : Step dialer before move after) (closed : before.run.pool.isClosed = true)
    (isBusy : before.run.duty ≠ .idle) (isUpkeep : move.isUpkeep = true) :
    move.isBeginning = false ∧ before.run.EndsQuietly after.run := by
  cases step with
  | surroundings | select | request | close | release => cases isUpkeep
  | event _ isIdle | check isIdle | discovery _ isIdle => exact absurd isIdle isBusy
  | answer outcome _ => exact ⟨rfl, PoolRun.endsQuietly_finishDiscovery closed outcome⟩
  | refused isDialed => exact ⟨rfl, PoolRun.endsQuietly_finishDial closed isDialed none⟩
  | opened isDialed _ _ => exact ⟨rfl, PoolRun.endsQuietly_finishDial closed isDialed _⟩

theorem Step.isUpkeep_of_ended {dialer : Dialer} {before after : Course} {move : Move}
    (step : Step dialer before move after) (isEnded : before.run.duty = .ended) :
    move.isUpkeep = false := by
  cases step with
  | surroundings | select | request | close | release => rfl
  | event _ duty | check duty | discovery _ duty | answer _ duty =>
      rw [isEnded] at duty
      cases duty
  | refused isDialed | opened isDialed =>
      rw [isEnded] at isDialed
      cases isDialed

theorem Step.duty_of_isBusy {dialer : Dialer} {before after : Course} {move : Move}
    (step : Step dialer before move after) (isBusy : before.run.duty ≠ .idle)
    (isOther : move.isUpkeep = false) : after.run.duty = before.run.duty := by
  cases step with
  | surroundings | select => rfl
  | request request => exact before.run.duty_request request
  | close => rw [PoolRun.duty_close, if_neg isBusy]
  | release => rw [PoolRun.release, if_neg isBusy]
  | event | check | discovery | answer | refused | opened => cases isOther

theorem Reaches.ended_of_ended {dialer : Dialer} {before after : Course}
    (reaches : Reaches dialer before after) (isEnded : before.run.duty = .ended) :
    after.run.duty = .ended := by
  induction reaches with
  | refl => exact isEnded
  | tail _ moves inductionHypothesis =>
      obtain ⟨move, step⟩ := moves
      rw [step.duty_of_isBusy (by simp [inductionHypothesis])
        (step.isUpkeep_of_ended inductionHypothesis)]
      exact inductionHypothesis

/-- A closed pool stays closed. -/
theorem Step.isOpen_of_isOpen {dialer : Dialer} {before after : Course} {move : Move}
    (step : Step dialer before move after) (sound : before.Sound)
    (isOpen : after.run.pool.isClosed = false) : before.run.pool.isClosed = false := by
  obtain ⟨_, changes⟩ := step.changes sound
  cases wasClosed : before.run.pool.isClosed with
  | false => rfl
  | true =>
      rw [changes.affects.isClosed wasClosed] at isOpen
      cases isOpen

theorem Reaches.isOpen_of_isOpen {dialer : Dialer} {before after : Course}
    (reaches : Reaches dialer before after) (sound : before.Sound)
    (isOpen : after.run.pool.isClosed = false) : before.run.pool.isClosed = false := by
  induction reaches with
  | refl => exact isOpen
  | tail earlier moves inductionHypothesis =>
      obtain ⟨move, step⟩ := moves
      exact inductionHypothesis (step.isOpen_of_isOpen (Reaches.sound earlier sound) isOpen)

def Course.close (course : Course) : Course := { course with run := course.run.close.1 }

theorem Course.Sound.close {course : Course} (sound : course.Sound) : course.close.Sound :=
  (Step.close : Step .fresh course .close course.close).sound sound

/-- What has become of a pool since it was closed. -/
structure Course.ClosedSince (before after : Course) : Prop where
  isClosed : after.run.pool.isClosed = true
  /-- The upkeep waits for what it waited for when the pool was closed, or has ended. -/
  duty : after.run.duty = .ended ∨
    after.run.duty = before.run.duty ∧ before.run.duty ≠ .idle
  /-- Nothing was installed since. -/
  installed : ∀ address id, after.run.pool.entries.installed? address = some id →
    before.run.pool.entries.installed? address = some id
  closed : ∀ address id, before.run.pool.entries.installed? address = some id →
    after.run.network.isClosed id = true
  /-- So are all connections that the upkeep has dialed, before or since. -/
  closedDialed : ∀ id ∈ after.dialed, after.run.network.isClosed id = true

theorem Course.ClosedSince.isBusy {before after : Course} (closedSince : before.ClosedSince after) :
    after.run.duty ≠ .idle := by
  rcases closedSince.duty with isEnded | ⟨same, wasBusy⟩
  · rw [isEnded]
    exact nofun
  · rw [same]
    exact wasBusy

theorem PoolRun.isClosed_of_installed {run : PoolRun} (knows : run.KnowsInstalled)
    {address : String} {id : ConnectionId}
    (installed : run.pool.entries.installed? address = some id) :
    run.close.1.network.isClosed id = true := by
  have closed := Pool.isClosed_close installed (knows address id installed)
  unfold PoolRun.close
  dsimp only
  split
  · exact (affects_rest _).evolves.isClosed id closed
  · exact closed

theorem Course.Sound.closedSince {course : Course} (sound : course.Sound)
    (accounted : ∀ id ∈ course.dialed, course.run.Accounts id) :
    course.ClosedSince course.close := by
  have closed : ∀ address id, course.run.pool.entries.installed? address = some id →
      course.close.run.network.isClosed id = true :=
    fun _ _ => PoolRun.isClosed_of_installed sound.knowsInstalled
  constructor
  · exact course.run.isClosed_close
  · rw [Course.close, PoolRun.duty_close]
    split
    · exact .inl rfl
    · next isBusy => exact .inr ⟨rfl, isBusy⟩
  · intro address id installed
    rcases course.run.affects_close.new address id installed with wasInstalled | ⟨isHanded, _⟩
    · exact wasInstalled
    · cases isHanded
  · exact closed
  · intro id isDialed
    rcases accounted id isDialed with wasClosed | ⟨address, installed⟩
    · exact course.run.affects_close.evolves.isClosed id wasClosed
    · exact closed address id installed

theorem Step.closedSince {dialer : Dialer} {closing before after : Course} {move : Move}
    (step : Step dialer before move after) (sound : before.Sound)
    (closedSince : closing.ClosedSince before) : closing.ClosedSince after := by
  obtain ⟨handed, changes⟩ := step.changes sound
  have affects := changes.affects
  have isClosed := closedSince.isClosed
  constructor
  · exact affects.isClosed isClosed
  · cases isUpkeep : move.isUpkeep with
    | true => exact .inl (step.endsQuietly isClosed closedSince.isBusy isUpkeep).2.duty
    | false =>
        rw [step.duty_of_isBusy closedSince.isBusy isUpkeep]
        exact closedSince.duty
  · intro address id installed
    rcases affects.new address id installed with wasInstalled | ⟨_, isOpen⟩
    · exact closedSince.installed address id wasInstalled
    · rw [isClosed] at isOpen
      cases isOpen
  · intro address id wasInstalled
    exact affects.evolves.isClosed id (closedSince.closed address id wasInstalled)
  · intro id isDialed
    rw [changes.dialed, List.mem_append] at isDialed
    rcases isDialed with isNew | wasDialed
    · simp only [Option.mem_toList, Option.map_eq_some_iff, Prod.exists] at isNew
      obtain ⟨address, _, isHanded, rfl⟩ := isNew
      rcases affects.taken address _ isHanded with closed | ⟨_, isOpen⟩
      · exact closed
      · rw [isClosed] at isOpen
        cases isOpen
    · exact affects.evolves.isClosed id (closedSince.closedDialed id wasDialed)

/-- The upkeep goes on for the last time, after the pool was closed. -/
structure Course.EndsWith (dialer : Dialer) (before : Course) (move : Move) (after : Course) :
    Prop where
  /-- No event, tick or call for addresses is taken up. -/
  isBeginning : move.isBeginning = false
  /-- No dial begins, and no discovery call is sent. -/
  endsQuietly : before.run.EndsQuietly after.run
  /-- What the dial under way hands over is closed at once, and installed nowhere. -/
  closes : ∀ id, move = .opened id → after.run.network.isClosed id = true
  installed : ∀ address id, after.run.pool.entries.installed? address = some id →
    before.run.pool.entries.installed? address = some id
  isLast : ∀ later next move, Reaches dialer after later → Step dialer later move next →
    move.isUpkeep = false

theorem Step.endsWith {dialer : Dialer} {closing before after : Course} {move : Move}
    (step : Step dialer before move after) (sound : before.Sound)
    (closedSince : closing.ClosedSince before) (isUpkeep : move.isUpkeep = true) :
    before.EndsWith dialer move after := by
  obtain ⟨isNoBeginning, endsQuietly⟩ :=
    step.endsQuietly closedSince.isClosed closedSince.isBusy isUpkeep
  obtain ⟨handed, changes⟩ := step.changes sound
  constructor
  · exact isNoBeginning
  · exact endsQuietly
  · rintro id rfl
    have isDialed : id ∈ after.dialed := by
      cases step
      exact List.mem_cons_self
    exact (step.closedSince sound closedSince).closedDialed id isDialed
  · intro address id installed
    rcases changes.affects.new address id installed with wasInstalled | ⟨_, isOpen⟩
    · exact wasInstalled
    · rw [closedSince.isClosed] at isOpen
      cases isOpen
  · intro later next move reaches stepLater
    exact stepLater.isUpkeep_of_ended (reaches.ended_of_ended endsQuietly.duty)

/-- The connections that the upkeep of a pool dials are closed or installed, wherever the pool is
in its course. -/
theorem Reaches.accounts {dialer : Dialer} {start course : Course}
    (reaches : Reaches dialer start course) (sound : start.Sound)
    (accounted : ∀ id ∈ start.dialed, start.run.Accounts id) :
    ∀ id ∈ course.dialed, course.run.Accounts id := by
  induction reaches with
  | refl => exact accounted
  | @tail between _ earlier moves inductionHypothesis =>
      obtain ⟨move, step⟩ := moves
      have soundBefore := Reaches.sound earlier sound
      have accountedBefore : ∀ id ∈ between.dialed ++ [], between.run.Accounts id := by
        simpa using inductionHypothesis
      simpa using step.accounts soundBefore accountedBefore

/-- Close is final, at whatever moment it comes. From then on the pool stays closed, nothing is
installed, and what was installed or was dialed by the upkeep is closed. The upkeep goes on once at
most, and begins nothing any more. -/
theorem closed_of_reaches {dialer : Dialer} {addresses : List String} {options : PoolOptions}
    {start before after : Course} (opens : Opens dialer addresses options start)
    (reaches : Reaches dialer start before) (later : Reaches dialer before.close after) :
    before.ClosedSince after ∧
      ∀ move next, Step dialer after move next → move.isUpkeep = true →
        after.EndsWith dialer move next := by
  have startSound := opens.sound
  have sound := reaches.sound startSound
  have accounted : ∀ id ∈ before.dialed, before.run.Accounts id := by
    apply reaches.accounts startSound
    cases opens
    exact nofun
  have reached : after.Sound ∧ before.ClosedSince after := by
    induction later with
    | refl => exact ⟨sound.close, sound.closedSince accounted⟩
    | tail _ moves inductionHypothesis =>
        obtain ⟨move, step⟩ := moves
        exact ⟨step.sound inductionHypothesis.1,
          step.closedSince inductionHypothesis.1 inductionHypothesis.2⟩
  exact ⟨reached.2, fun _ _ step isUpkeep => step.endsWith reached.1 reached.2 isUpkeep⟩

/-- A pool is closed while an address is redialed. The dial succeeds too late. -/
theorem closed_of_redial :
    ∃ start before after, Opens .fresh ["a", "b"] .default start ∧ Reaches .fresh start before ∧
      before.run.duty = .repair "a" ⟨0⟩ ∧ Reaches .fresh before.close after ∧
      after.run.duty = .ended ∧ after.dialed = [⟨2⟩] ∧ before.ClosedSince after := by
  have opens : Opens .fresh ["a", "b"] .default _ :=
    @Opens.intro _ _ _ .empty _ _ _ _ rfl
      (.open nofun .connected (.open (by decide) .connecting .done)) rfl
  have failed := opens.reaches_lose ⟨0⟩
  have later := Course.reaches_open (failed.sound opens.sound).close.known .connected
  exact ⟨_, _, _, opens, failed, rfl, later, rfl, rfl, (closed_of_reaches opens failed later).1⟩

end FailoverPool
