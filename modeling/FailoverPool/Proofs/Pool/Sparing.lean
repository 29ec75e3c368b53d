import FailoverPool.Proofs.Pool.Reconciliation

/-!
The upkeep of a pool never harms a live connection.

What is to be dialed is settled before the first dial, and anything may happen while a dial is under
way. Two things outlast it (`PoolRun.Careful`): no address waits twice to be dialed, and whoever is
installed where a dial is due has closed. Main statement: `spares_of_reaches`.
-/

namespace FailoverPool

namespace PoolRun

/-- No address is listed twice, and whoever is installed where a dial is due has closed. -/
structure Careful (run : PoolRun) : Prop where
  tracked : run.pool.tracked.Nodup
  upcoming : run.duty.upcoming.Nodup
  discovered : run.duty.discovered.Nodup
  vacant : ∀ address ∈ run.duty.upcoming, ∀ id,
    run.pool.entries.installed? address = some id → run.network.isClosed id = true

/-- Nothing new is due, and the entries are as they were. -/
theorem Careful.mono {before after : PoolRun} (careful : before.Careful)
    (upcoming : after.duty.upcoming.Sublist before.duty.upcoming)
    (discovered : after.duty.discovered.Sublist before.duty.discovered)
    (sameTracked : after.pool.tracked = before.pool.tracked)
    (sameEntries : after.pool.entries = before.pool.entries)
    (evolves : before.network.Evolves after.network) : after.Careful where
  tracked := sameTracked ▸ careful.tracked
  upcoming := upcoming.nodup careful.upcoming
  discovered := discovered.nodup careful.discovered
  vacant address isUpcoming id installed := by
    rw [sameEntries] at installed
    exact evolves.isClosed id (careful.vacant address (upcoming.mem isUpcoming) id installed)

theorem careful_rest {run : PoolRun} (distinct : run.pool.tracked.Nodup) : run.rest.Careful := by
  unfold rest
  split <;> exact ⟨distinct, List.nodup_nil, List.nodup_nil, nofun⟩

theorem careful_continueCheck {run : PoolRun} {addresses : List String}
    (distinct : run.pool.tracked.Nodup) (upcoming : addresses.Nodup)
    (vacant : ∀ address ∈ addresses, ∀ id,
      run.pool.entries.installed? address = some id → run.network.isClosed id = true) :
    (run.continueCheck addresses).Careful := by
  cases addresses with
  | nil => exact careful_rest distinct
  | cons address later =>
      rw [continueCheck]
      split
      · exact careful_rest distinct
      · exact ⟨distinct, upcoming, List.nodup_nil, vacant⟩

theorem careful_continueUpdate {run : PoolRun} {former discovered addresses : List String}
    (distinct : run.pool.tracked.Nodup) (distinctDiscovered : discovered.Nodup)
    (upcoming : addresses.Nodup)
    (vacant : run.pool.isClosed = false → ∀ address ∈ addresses, ∀ id,
      run.pool.entries.installed? address = some id → run.network.isClosed id = true) :
    (run.continueUpdate former discovered addresses).Careful := by
  cases addresses with
  | nil => exact careful_rest distinctDiscovered
  | cons address later =>
      rw [continueUpdate]
      split
      · exact careful_rest distinct
      · next isOpen =>
        exact ⟨distinct, upcoming, distinctDiscovered, vacant (by simpa using isOpen)⟩

theorem careful_beginCheck {run : PoolRun} (distinct : run.pool.tracked.Nodup) :
    run.beginCheck.Careful := by
  apply careful_continueCheck distinct (distinct.filter _)
  intro address isMissing id installed
  have isLost := (List.mem_filter.mp isMissing).2
  rwa [installed] at isLost

theorem careful_handleEvent {run : PoolRun} (distinct : run.pool.tracked.Nodup) (event : Event) :
    (run.handleEvent event).Careful := by
  unfold handleEvent
  split
  · next acted =>
    simp only [Bool.and_eq_true, decide_eq_true_eq, Pool.isInstalled, beq_iff_eq] at acted
    obtain ⟨⟨_, closed⟩, isInstalled⟩ := acted
    refine ⟨distinct, List.nodup_singleton _, List.nodup_nil, fun _ isUpcoming id installed => ?_⟩
    obtain rfl := List.mem_singleton.mp isUpcoming
    cases isInstalled.symm.trans installed
    exact closed
  · exact careful_rest distinct

theorem careful_beginDiscovery {run : PoolRun} (distinct : run.pool.tracked.Nodup)
    (function : String) : (run.beginDiscovery function).Careful := by
  obtain ⟨fallback, isPool, _⟩ := run.pool.select_eq run.network
  unfold beginDiscovery
  cases isChosen : run.pool.select run.network with
  | mk pool target =>
      obtain rfl : pool = { run.pool with fallback } := by rw [← isPool, isChosen]
      cases target with
      | none => exact careful_rest distinct
      | some id =>
          dsimp only
          split
          · exact careful_rest distinct
          · exact ⟨distinct, List.nodup_nil, List.nodup_nil, nofun⟩

/-- A newcomer has no entry yet. -/
theorem careful_finishDiscovery {run : PoolRun} (distinct : run.pool.tracked.Nodup)
    (tracks : run.TracksInstalled) (outcome : Outcome) : (run.finishDiscovery outcome).Careful := by
  unfold finishDiscovery
  split
  · exact careful_rest distinct
  · next discovered tells =>
    have distinctDiscovered := Discovery.nodup_of_tells tells
    rw [beginUpdate_eq]
    apply careful_continueUpdate distinct distinctDiscovered
    · exact Pool.nodup_newcomers distinctDiscovered
    · intro isOpen address isNewcomer id installed
      exact absurd (tracks isOpen address id installed) (Pool.mem_newcomers.mp isNewcomer).2

/-- A dial installs nothing under the addresses that are dialed after it. -/
theorem Careful.vacant_takeDialed {run : PoolRun} {address : String} {later : List String}
    (careful : run.Careful) (isUpcoming : run.duty.upcoming = address :: later)
    (dialed : Option ConnectionId) :
    ∀ other ∈ later, ∀ id,
      (run.takeDialed address dialed).pool.entries.installed? other = some id →
        (run.takeDialed address dialed).network.isClosed id = true := by
  intro other isLater id installed
  rcases installed_of_takeDialed installed with wasInstalled | ⟨rfl, _⟩
  · have wasClosed := careful.vacant other (isUpcoming ▸ .tail _ isLater) id wasInstalled
    exact (run.evolves_takeDialed address dialed).isClosed id wasClosed
  · have distinct := careful.upcoming
    rw [isUpcoming, List.nodup_cons] at distinct
    exact absurd isLater distinct.1

theorem Careful.finishDial {run : PoolRun} (careful : run.Careful) (dialed : Option ConnectionId) :
    (run.finishDial dialed).Careful := by
  have distinct (address : String) : (run.takeDialed address dialed).pool.tracked.Nodup := by
    rw [pool_takeDialed]
    exact careful.tracked
  have upcoming := careful.upcoming
  have discovered := careful.discovered
  unfold PoolRun.finishDial
  cases duty : run.duty with
  | idle | ask | ended => exact careful
  | repair address failed =>
      cases dialed with
      | none =>
          apply careful_rest
          rw [Pool.evict_eq]
          exact careful.tracked
      | some id => exact careful_rest (distinct address)
  | check address later =>
      rw [duty] at upcoming
      exact careful_continueCheck (distinct address) (List.nodup_cons.mp upcoming).2
        (careful.vacant_takeDialed (by rw [duty]; rfl) dialed)
  | update address later former found =>
      rw [duty] at upcoming discovered
      exact careful_continueUpdate (distinct address) discovered (List.nodup_cons.mp upcoming).2
        fun _ => careful.vacant_takeDialed (by rw [duty]; rfl) dialed

end PoolRun

/-- Wherever the upkeep of a pool without repeats is suspended, it is careful. -/
theorem Step.careful {dialer : Dialer} {before after : Course} {move : Move}
    (step : Step dialer before move after) (sound : before.Sound)
    (careful : before.run.Careful) : after.run.Careful := by
  obtain ⟨_, changes⟩ := step.changes sound
  have evolves := changes.affects.evolves
  have other (isOther : move.isUpkeep = false)
      (upcoming : after.run.duty.upcoming.Sublist before.run.duty.upcoming)
      (discovered : after.run.duty.discovered.Sublist before.run.duty.discovered) :
      after.run.Careful := by
    obtain ⟨sameEntries, sameTracked⟩ := step.entries_of_isOther isOther
    exact careful.mono upcoming discovered sameTracked sameEntries evolves
  cases step with
  | surroundings | select => exact other rfl (.refl _) (.refl _)
  | request request =>
      have sameDuty := before.run.duty_request request
      exact other rfl (by rw [sameDuty]) (by rw [sameDuty])
  | event event _ => exact PoolRun.careful_handleEvent careful.tracked event
  | check _ => exact PoolRun.careful_beginCheck careful.tracked
  | discovery function _ => exact PoolRun.careful_beginDiscovery careful.tracked function
  | answer outcome isAsked =>
      have tracks := sound.orderly.tracksInstalled (by rw [isAsked]; rfl)
      exact PoolRun.careful_finishDiscovery careful.tracked tracks outcome
  | refused _ => exact careful.finishDial none
  | opened _ _ _ => exact careful.finishDial _
  | close =>
      have duty := before.run.duty_close
      split at duty
      · exact other rfl (by rw [duty]; exact List.nil_sublist _)
          (by rw [duty]; exact List.nil_sublist _)
      · exact other rfl (by rw [duty]) (by rw [duty])
  | release =>
      by_cases isIdle : before.run.duty = .idle
      · have isRest : before.run.release =
            PoolRun.rest { before.run with pool := { before.run.pool with isHeld := false } } := by
          rw [PoolRun.release, if_pos isIdle]
        dsimp only
        rw [isRest]
        exact PoolRun.careful_rest careful.tracked
      · have duty : before.run.release.duty = before.run.duty := by
          rw [PoolRun.release, if_neg isIdle]
        exact other rfl (by rw [duty]) (by rw [duty])

theorem Opens.careful {dialer : Dialer} {addresses : List String} {options : PoolOptions}
    {course : Course} (opens : Opens dialer addresses options course)
    (distinct : addresses.Nodup) : course.run.Careful := by
  have areTracked := opens.tracked_eq
  have isIdle := opens.isIdle
  constructor
  · rwa [areTracked]
  · rw [isIdle]
    exact List.nodup_nil
  · rw [isIdle]
    exact List.nodup_nil
  · rw [isIdle]
    exact nofun

/-- What holds in the course of a pool whose addresses do not repeat and whose dialer is
truthful. -/
structure Course.Guarded (course : Course) : Prop where
  sound : course.Sound
  agrees : course.run.pool.entries.AgreesWith course.run.network
  careful : course.run.Careful

theorem Opens.guarded {addresses : List String} {options : PoolOptions} {course : Course}
    (opens : Opens .fresh addresses options course) (distinct : addresses.Nodup) :
    course.Guarded :=
  ⟨opens.sound, opens.agrees Dialer.isTruthful_fresh, opens.careful distinct⟩

theorem Step.guarded {before after : Course} {move : Move} (step : Step .fresh before move after)
    (guarded : before.Guarded) : after.Guarded where
  sound := step.sound guarded.sound
  agrees := step.agrees Dialer.isTruthful_fresh guarded.sound guarded.agrees
  careful := step.careful guarded.sound guarded.careful

theorem Reaches.guarded {start course : Course} (reaches : Reaches .fresh start course)
    (guarded : start.Guarded) : course.Guarded := by
  induction reaches with
  | refl => exact guarded
  | tail _ moves inductionHypothesis =>
      obtain ⟨move, step⟩ := moves
      exact step.guarded inductionHypothesis

section

variable {before after : Course} {move : Move} {address : String} {id : ConnectionId}

/-- Whoever a move has to close, it is no live connection of an address that is kept. -/
theorem Step.covers_others (step : Step .fresh before move after) (guarded : before.Guarded)
    (installed : before.run.pool.entries.installed? address = some id)
    (isOpen : before.run.network.isClosed id = false) (isKept : after.run.Admits address)
    (isNoClose : move ≠ .close) : move.Covers (· ≠ id) before.run after.run := by
  constructor
  · rintro dialed rfl rfl
    cases step with
    | opened _ _ isFresh => exact isFresh.1 (guarded.sound.installed address _ installed)
  · rintro other isDialed former isFormer wasOpen rfl
    have isUpcoming := Duty.mem_upcoming_of_dialing isDialed
    rw [guarded.careful.vacant other isUpcoming _ isFormer] at wasOpen
    cases wasOpen
  · rintro other former isFormer isLost rfl
    have same : other = address :=
      (guarded.agrees other _ isFormer).symm.trans (guarded.agrees address _ installed)
    exact isLost (same ▸ isKept)
  · exact fun isClose => absurd isClose isNoClose

theorem Step.spares (step : Step .fresh before move after) (guarded : before.Guarded)
    (installed : before.run.pool.entries.installed? address = some id)
    (isOpen : before.run.network.isClosed id = false) (isKept : after.run.Admits address)
    (isInside : move ≠ .surroundings) (isNoClose : move ≠ .close) :
    ∃ deeds, before.run.Does deeds after.run ∧ some id ∉ deeds.map Occurrence.closes? := by
  cases isSilent : move.isSilent with
  | false =>
      cases step with
      | surroundings => exact absurd rfl isInside
      | request request =>
          obtain ⟨deeds, does, areRequests⟩ := before.run.does_request request
          refine ⟨deeds, does, fun isClosed => ?_⟩
          obtain ⟨occurrence, isDeed, isClose⟩ := List.mem_map.mp isClosed
          obtain ⟨_, rfl⟩ := areRequests occurrence isDeed
          cases isClose
      | select | event | check | discovery | answer | refused | opened | close | release =>
          cases isSilent
  | true =>
      have covers := step.covers_others guarded installed isOpen isKept isNoClose
      obtain ⟨deeds, does, areWork⟩ := step.toils isSilent covers
      refine ⟨deeds, does, fun isClosed => ?_⟩
      obtain ⟨occurrence, isDeed, isClose⟩ := List.mem_map.mp isClosed
      cases areWork occurrence isDeed with
      | close isOther => exact isOther (Option.some.inj isClose)
      | dial | ask => cases isClose

/-- The connection is installed as before, was not told to close, and has not closed. -/
structure PoolRun.LeavesAlone (before after : PoolRun) (address : String) (id : ConnectionId) :
    Prop where
  installed : after.pool.entries.installed? address = some id
  untold : some id ∉ (after.network.since before.network).map Occurrence.closes?
  isOpen : after.network.isClosed id = false

theorem Step.leavesAlone (step : Step .fresh before move after) (guarded : before.Guarded)
    (installed : before.run.pool.entries.installed? address = some id)
    (isOpen : before.run.network.isClosed id = false) (isKept : after.run.Admits address)
    (isInside : move ≠ .surroundings) (isNoClose : move ≠ .close) :
    before.run.LeavesAlone after.run address id := by
  obtain ⟨deeds, does, isSpared⟩ :=
    step.spares guarded installed isOpen isKept isInside isNoClose
  obtain ⟨_, changes⟩ := step.changes guarded.sound
  have isOpenAfter := (does.isClosed_eq isSpared).trans isOpen
  refine ⟨(changes.affects.kept address id installed).resolve_right ?_, ?_, isOpenAfter⟩
  · simp [isOpenAfter]
  · rw [does.since_eq]
    exact isSpared

/-- A move through which the address is kept, and in which neither the owner closes the pool nor
the connection closes by itself. -/
def Course.Keeps (address : String) (id : ConnectionId) (before after : Course) : Prop :=
  ∃ move, Step .fresh before move after ∧ after.run.Admits address ∧ move ≠ .close ∧
    (move = .surroundings → after.run.network.isClosed id = false)

theorem Course.Keeps.guarded (keeps : before.Keeps address id after)
    (guarded : before.Guarded) : after.Guarded := by
  obtain ⟨move, step, _⟩ := keeps
  exact step.guarded guarded

theorem Course.Keeps.staysInstalled (keeps : before.Keeps address id after)
    (guarded : before.Guarded) (installed : before.run.pool.entries.installed? address = some id)
    (isOpen : before.run.network.isClosed id = false) :
    after.run.pool.entries.installed? address = some id ∧
      after.run.network.isClosed id = false := by
  obtain ⟨move, step, isKept, isNoClose, ofItself⟩ := keeps
  by_cases isOutside : move = .surroundings
  · subst isOutside
    rw [(step.entries_of_isOther rfl).1]
    exact ⟨installed, ofItself rfl⟩
  · have leavesAlone := step.leavesAlone guarded installed isOpen isKept isOutside isNoClose
    exact ⟨leavesAlone.installed, leavesAlone.isOpen⟩

end

/-- Upkeep never harms a live connection. Wherever a pool is in its course, whoever is installed
where a dial is under way has closed, so that no live connection gives way to what the dial hands
over. An installed connection that has not closed is left alone by every move through which its
address is kept, but for a close of the pool and what is outside the pool; and through any number of
such moves it stays installed until one of these two ends it. -/
theorem spares_of_reaches {addresses : List String} {options : PoolOptions} {start course : Course}
    (distinct : addresses.Nodup) (opens : Opens .fresh addresses options start)
    (reaches : Reaches .fresh start course) :
    (∀ address former, course.run.duty.dialing? = some address →
      course.run.pool.entries.installed? address = some former →
        course.run.network.isClosed former = true) ∧
    ∀ address id, course.run.pool.entries.installed? address = some id →
      course.run.network.isClosed id = false →
      (∀ move after, Step .fresh course move after → after.run.Admits address →
        move ≠ .surroundings → move ≠ .close →
          course.run.LeavesAlone after.run address id) ∧
      ∀ after, Relation.ReflTransGen (Course.Keeps address id) course after →
        after.run.pool.entries.installed? address = some id ∧
          after.run.network.isClosed id = false := by
  have guarded := reaches.guarded (opens.guarded distinct)
  constructor
  · intro address former isDialed isFormer
    exact guarded.careful.vacant address (Duty.mem_upcoming_of_dialing isDialed) former isFormer
  · intro address id installed isOpen
    constructor
    · intro move after step isKept isInside isNoClose
      exact step.leavesAlone guarded installed isOpen isKept isInside isNoClose
    · intro after keepsAll
      have kept : after.Guarded ∧ after.run.pool.entries.installed? address = some id ∧
          after.run.network.isClosed id = false := by
        induction keepsAll with
        | refl => exact ⟨guarded, installed, isOpen⟩
        | tail _ keeps inductionHypothesis =>
            obtain ⟨guarded, installed, isOpen⟩ := inductionHypothesis
            exact ⟨keeps.guarded guarded, keeps.staysInstalled guarded installed isOpen⟩
      exact kept.2

/-- One of two connections closes and is redialed. The other, which is still connecting, stays. -/
theorem spares_of_redial :
    ∃ start course after, Opens .fresh ["a", "b"] .default start ∧ Reaches .fresh start course ∧
      course.run.duty = .repair "a" ⟨0⟩ ∧
      Relation.ReflTransGen (Course.Keeps "b" ⟨1⟩) course after ∧
      after.run.pool.entries = [("a", ⟨2⟩), ("b", ⟨1⟩)] ∧
      course.run.network.isClosed ⟨0⟩ = true ∧ after.run.network.isClosed ⟨1⟩ = false := by
  have opens : Opens .fresh ["a", "b"] .default _ :=
    @Opens.intro _ _ _ .empty _ _ _ _ rfl
      (.open nofun .connected (.open (by decide) .connecting .done)) rfl
  have reaches := opens.reaches_lose ⟨0⟩
  obtain ⟨vacant, spares⟩ := spares_of_reaches (by decide) opens reaches
  obtain ⟨evolves, isKnown, isFresh⟩ :=
    Dialer.fresh_openConnection (reaches.sound opens.sound).known "a" .connected ⟨0⟩
  have keeps : Relation.ReflTransGen (Course.Keeps "b" ⟨1⟩) _ _ :=
    .tail (.single ⟨_, .surroundings evolves, .inl (by decide), nofun, fun _ => by decide⟩)
      ⟨_, .opened rfl isKnown isFresh, .inl (by decide), nofun, nofun⟩
  exact ⟨_, _, _, opens, reaches, rfl, keeps, rfl, vacant "a" ⟨0⟩ rfl rfl,
    ((spares "b" ⟨1⟩ rfl rfl).2 _ keeps).2⟩

end FailoverPool
