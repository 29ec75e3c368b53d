import FailoverPool.Proofs.Pool.Effects

/-!
What holds in the course of every pool, whatever its addresses and its dialer.

`PoolRun.Orderly` says what the upkeep of a pool may rely on while it is suspended, and
`Course.Sound` adds where the pool's connections come from. Main statement: every course that a pool
can reach is sound (`Reaches.sound`).
-/

namespace FailoverPool

namespace Duty

/-- The addresses that are being dialed or will be. -/
def upcoming : Duty → List String
  | .repair address _ => [address]
  | .check address later | .update address later _ _ => address :: later
  | .idle | .ask _ | .ended => []

/-- The addresses that an update is going to track. -/
def discovered : Duty → List String
  | .update _ _ _ discovered => discovered
  | _ => []

def isUpdating : Duty → Bool
  | .update .. => true
  | _ => false

theorem discovered_eq_nil {duty : Duty} (isNoUpdate : duty.isUpdating = false) :
    duty.discovered = [] := by
  cases duty with
  | update => cases isNoUpdate
  | _ => rfl

theorem mem_upcoming_of_dialing {duty : Duty} {address : String}
    (isDialed : duty.dialing? = some address) : address ∈ duty.upcoming := by
  cases duty with
  | idle | ask | ended => cases isDialed
  | repair | check | update =>
      cases isDialed
      exact List.mem_cons_self

end Duty

namespace PoolRun

/-- The address is tracked, or will be after the update in progress. -/
def Admits (run : PoolRun) (address : String) : Prop :=
  address ∈ run.pool.tracked ∨ address ∈ run.duty.discovered

/-- What the upkeep relies on while it is suspended. -/
structure Orderly (run : PoolRun) : Prop where
  idle : run.duty = .idle → run.pool.isClosed = false
  repair : ∀ address failed, run.duty = .repair address failed →
    run.network.isClosed failed = true
  installed : run.pool.isClosed = false → ∀ address id,
    run.pool.entries.installed? address = some id → run.Admits address
  upcoming : run.pool.isClosed = false → ∀ address ∈ run.duty.upcoming, run.Admits address
  update : run.pool.isClosed = false → ∀ address later former discovered,
    run.duty = .update address later former discovered →
      former = run.pool.tracked ∧ ∀ upcoming ∈ address :: later, upcoming ∈ discovered

/-- While the pool is open, only tracked addresses have an entry. -/
def TracksInstalled (run : PoolRun) : Prop :=
  run.pool.isClosed = false → ∀ address id,
    run.pool.entries.installed? address = some id → address ∈ run.pool.tracked

theorem Orderly.tracksInstalled {run : PoolRun} (orderly : run.Orderly)
    (isNoUpdate : run.duty.isUpdating = false) : run.TracksInstalled := by
  intro isOpen address id installed
  have admitted := orderly.installed isOpen address id installed
  simpa [Admits, Duty.discovered_eq_nil isNoUpdate] using admitted

theorem orderly_rest {run : PoolRun} (tracks : run.TracksInstalled) : run.rest.Orderly := by
  unfold rest
  split
  · exact ⟨nofun, nofun,
      fun isOpen address id installed => .inl (tracks isOpen address id installed), nofun, nofun⟩
  · next goesOn =>
    refine ⟨fun _ => ?_, nofun,
      fun isOpen address id installed => .inl (tracks isOpen address id installed), nofun, nofun⟩
    simp only [Bool.or_eq_true, not_or, Bool.not_eq_true] at goesOn
    exact goesOn.1

theorem orderly_continueCheck {run : PoolRun} (tracks : run.TracksInstalled)
    {addresses : List String}
    (areTracked : run.pool.isClosed = false → ∀ address ∈ addresses, address ∈ run.pool.tracked) :
    (run.continueCheck addresses).Orderly := by
  cases addresses with
  | nil => exact orderly_rest tracks
  | cons address later =>
      rw [continueCheck]
      split
      · exact orderly_rest tracks
      · constructor
        · rintro ⟨⟩
        · rintro _ _ ⟨⟩
        · exact fun isOpen other id installed => .inl (tracks isOpen other id installed)
        · exact fun isOpen other isUpcoming => .inl (areTracked isOpen other isUpcoming)
        · rintro _ _ _ _ _ ⟨⟩

/-- The update ends with the discovered addresses tracked, and with no entry for any other. -/
theorem orderly_finishUpdate {run : PoolRun} {former discovered : List String}
    (admits : run.pool.isClosed = false → ∀ address id,
      run.pool.entries.installed? address = some id → address ∈ former ∨ address ∈ discovered) :
    (run.finishUpdate former discovered).Orderly := by
  unfold finishUpdate
  apply orderly_rest
  intro isOpen address id installed
  dsimp only at isOpen installed ⊢
  rw [removeAll_eq] at isOpen
  rw [installed?_removeAll] at installed
  split at installed
  · cases installed
  · next isKept =>
    rcases admits isOpen address id installed with isFormer | isDiscovered
    · simpa [isFormer] using isKept
    · exact isDiscovered

theorem orderly_continueUpdate {run : PoolRun} {former discovered addresses : List String}
    (isFormer : run.pool.isClosed = false → former = run.pool.tracked)
    (admits : run.pool.isClosed = false → ∀ address id,
      run.pool.entries.installed? address = some id → address ∈ former ∨ address ∈ discovered)
    (areDiscovered : run.pool.isClosed = false → ∀ address ∈ addresses, address ∈ discovered) :
    (run.continueUpdate former discovered addresses).Orderly := by
  cases addresses with
  | nil => exact orderly_finishUpdate admits
  | cons address later =>
      rw [continueUpdate]
      split
      · next closed =>
        exact orderly_rest fun isOpen => absurd closed (by simp [isOpen])
      · constructor
        · rintro ⟨⟩
        · rintro _ _ ⟨⟩
        · intro isOpen other id installed
          exact (admits isOpen other id installed).imp_left fun tracked =>
            isFormer isOpen ▸ tracked
        · intro isOpen other isUpcoming
          exact .inr (areDiscovered isOpen other isUpcoming)
        · rintro isOpen _ _ _ _ ⟨⟩
          exact ⟨isFormer isOpen, areDiscovered isOpen⟩

theorem orderly_handleEvent {run : PoolRun} (tracks : run.TracksInstalled) (event : Event) :
    (run.handleEvent event).Orderly := by
  unfold handleEvent
  split
  · next acted =>
    simp only [Bool.and_eq_true, decide_eq_true_eq, Pool.isInstalled, beq_iff_eq] at acted
    obtain ⟨⟨_, closed⟩, installed⟩ := acted
    constructor
    · exact nofun
    · rintro _ _ ⟨⟩
      exact closed
    · exact fun isOpen address id isInstalled => .inl (tracks isOpen address id isInstalled)
    · intro isOpen address isUpcoming
      rw [List.mem_singleton.mp isUpcoming]
      exact .inl (tracks isOpen _ _ installed)
    · exact nofun
  · exact orderly_rest tracks

theorem orderly_beginDiscovery {run : PoolRun} (tracks : run.TracksInstalled) (function : String) :
    (run.beginDiscovery function).Orderly := by
  obtain ⟨fallback, isPool, _⟩ := run.pool.select_eq run.network
  unfold beginDiscovery
  cases isChosen : run.pool.select run.network with
  | mk pool target =>
      obtain rfl : pool = { run.pool with fallback } := by rw [← isPool, isChosen]
      cases target with
      | none => exact orderly_rest tracks
      | some id =>
          dsimp only
          split
          · exact orderly_rest tracks
          · exact ⟨nofun, nofun, fun isOpen address id installed =>
              .inl (tracks isOpen address id installed), nofun, nofun⟩

theorem orderly_finishDiscovery {run : PoolRun} (tracks : run.TracksInstalled)
    (outcome : Outcome) : (run.finishDiscovery outcome).Orderly := by
  unfold finishDiscovery
  split
  · exact orderly_rest tracks
  · next discovered _ =>
    unfold beginUpdate
    dsimp only
    split
    · exact orderly_rest tracks
    · apply orderly_continueUpdate
      · exact fun _ => rfl
      · exact fun isOpen address id installed => .inl (tracks isOpen address id installed)
      · exact fun _ address isNew => (List.mem_filter.mp isNew).1

theorem Orderly.continueCheck {run : PoolRun} {address : String} {later : List String}
    (orderly : run.Orderly) (duty : run.duty = .check address later) :
    (run.continueCheck later).Orderly := by
  apply orderly_continueCheck (orderly.tracksInstalled (by rw [duty]; rfl))
  intro isOpen other isLater
  have admitted := orderly.upcoming isOpen other (by rw [duty]; exact .tail _ isLater)
  simpa [Admits, duty, Duty.discovered] using admitted

theorem Orderly.continueUpdate {run : PoolRun} {address : String}
    {later former discovered : List String} (orderly : run.Orderly)
    (duty : run.duty = .update address later former discovered) :
    (run.continueUpdate former discovered later).Orderly := by
  apply orderly_continueUpdate
  · exact fun isOpen => (orderly.update isOpen _ _ _ _ duty).1
  · intro isOpen other id installed
    rw [(orderly.update isOpen _ _ _ _ duty).1]
    simpa [Admits, duty, Duty.discovered] using orderly.installed isOpen other id installed
  · intro isOpen other isLater
    exact (orderly.update isOpen _ _ _ _ duty).2 other (.tail _ isLater)

/-- The upkeep stays suspended where it is, while connections change and some are installed that it
waits for. -/
theorem Orderly.of_duty_eq {before after : PoolRun} (orderly : before.Orderly)
    (sameDuty : after.duty = before.duty)
    (sameTracked : after.pool.tracked = before.pool.tracked)
    (sameClosed : after.pool.isClosed = before.pool.isClosed)
    (evolves : before.network.Evolves after.network)
    (new : ∀ address id, after.pool.entries.installed? address = some id →
      before.pool.entries.installed? address = some id ∨ address ∈ before.duty.upcoming) :
    after.Orderly := by
  constructor
  · rw [sameDuty, sameClosed]
    exact orderly.idle
  · intro address failed duty
    exact evolves.isClosed failed (orderly.repair address failed (sameDuty ▸ duty))
  · rw [sameClosed]
    intro isOpen address id installed
    unfold Admits
    rw [sameTracked, sameDuty]
    rcases new address id installed with before | isUpcoming
    · exact orderly.installed isOpen address id before
    · exact orderly.upcoming isOpen address isUpcoming
  · unfold Admits
    rw [sameClosed, sameTracked, sameDuty]
    exact orderly.upcoming
  · rw [sameClosed, sameTracked, sameDuty]
    exact orderly.update

theorem Orderly.takeDialed {run : PoolRun} {address : String} (orderly : run.Orderly)
    (isDialed : run.duty.dialing? = some address) (id : ConnectionId) :
    (run.takeDialed address (some id)).Orderly := by
  apply orderly.of_duty_eq
  · rfl
  · rw [pool_takeDialed]
  · rw [pool_takeDialed]
  · exact run.evolves_takeDialed address (some id)
  · intro other installedId installed
    rcases installed_of_takeDialed installed with wasInstalled | ⟨rfl, _⟩
    · exact .inl wasInstalled
    · exact .inr (Duty.mem_upcoming_of_dialing isDialed)

theorem orderly_evict {run : PoolRun} (tracks : run.TracksInstalled) (address : String)
    (failed : ConnectionId) :
    ({ run with pool := run.pool.evict address failed } : PoolRun).rest.Orderly := by
  apply orderly_rest
  intro isOpen other id installed
  rw [Pool.installed?_evict] at installed
  split at installed
  · cases installed
  · rw [Pool.evict_eq] at isOpen ⊢
    exact tracks isOpen other id installed

theorem orderly_finishDial_none {run : PoolRun} (orderly : run.Orderly) :
    (run.finishDial none).Orderly := by
  unfold finishDial
  cases duty : run.duty with
  | idle | ask | ended => exact orderly
  | repair address failed =>
      exact orderly_evict (orderly.tracksInstalled (by rw [duty]; rfl)) address failed
  | check address later => exact orderly.continueCheck duty
  | update address later former discovered => exact orderly.continueUpdate duty

theorem orderly_finishDial_some {run : PoolRun} {address : String} (orderly : run.Orderly)
    (isDialed : run.duty.dialing? = some address) (id : ConnectionId) :
    (run.finishDial (some id)).Orderly := by
  have taken := orderly.takeDialed isDialed id
  have sameDuty : (run.takeDialed address (some id)).duty = run.duty := rfl
  unfold finishDial
  cases duty : run.duty with
  | idle | ask | ended => simp [duty, Duty.dialing?] at isDialed
  | repair target failed =>
      obtain rfl : target = address := by simpa [duty, Duty.dialing?] using isDialed
      exact orderly_rest (taken.tracksInstalled (by rw [sameDuty, duty]; rfl))
  | check target later =>
      obtain rfl : target = address := by simpa [duty, Duty.dialing?] using isDialed
      exact taken.continueCheck (sameDuty.trans duty)
  | update target later former discovered =>
      obtain rfl : target = address := by simpa [duty, Duty.dialing?] using isDialed
      exact taken.continueUpdate (sameDuty.trans duty)

theorem Orderly.select {run : PoolRun} (orderly : run.Orderly) : run.select.Orderly := by
  obtain ⟨fallback, isPool, _⟩ := run.pool.select_eq run.network
  unfold PoolRun.select
  rw [isPool]
  exact orderly.of_duty_eq rfl rfl rfl (.refl run.network) fun _ _ installed => .inl installed

theorem Orderly.request {run : PoolRun} (orderly : run.Orderly) (request : Request) :
    (run.request request).Orderly := by
  have routed :
      ({ run with pool := (run.pool.route run.network request).1 } : PoolRun).Orderly := by
    rcases run.pool.route_fst run.network request with same | selected
    · rw [same]
      exact orderly
    · rw [selected]
      exact orderly.select
  have evolves := (run.affects_request request).evolves
  unfold PoolRun.request at evolves ⊢
  cases isRouted : run.pool.route run.network request with
  | mk pool target =>
      rw [isRouted] at routed evolves
      cases target with
      | error _ => exact routed
      | ok id => exact routed.of_duty_eq rfl rfl rfl evolves fun _ _ installed => .inl installed

/-- A closed pool has no addresses to look after; only its upkeep has something to go on with. -/
theorem orderly_of_isClosed {run : PoolRun} (closed : run.pool.isClosed = true)
    (isBusy : run.duty ≠ .idle)
    (repair : ∀ address failed, run.duty = .repair address failed →
      run.network.isClosed failed = true) : run.Orderly where
  idle isIdle := absurd isIdle isBusy
  repair := repair
  installed isOpen := absurd closed (by simp [isOpen])
  upcoming isOpen := absurd closed (by simp [isOpen])
  update isOpen := absurd closed (by simp [isOpen])

theorem rest_of_isClosed {run : PoolRun} (closed : run.pool.isClosed = true) :
    run.rest.duty = .ended := by
  simp [rest, closed]

/-- Closing a pool leaves its upkeep in what it is doing, and ends it if that is nothing. -/
theorem duty_close (run : PoolRun) :
    run.close.1.duty = if run.duty = .idle then .ended else run.duty := by
  unfold PoolRun.close
  dsimp only
  by_cases isIdle : run.duty = .idle
  · rw [if_pos isIdle, if_pos isIdle]
    exact rest_of_isClosed rfl
  · rw [if_neg isIdle, if_neg isIdle]

theorem isClosed_close (run : PoolRun) : run.close.1.pool.isClosed = true := by
  unfold PoolRun.close
  dsimp only
  split
  · exact (affects_rest _).isClosed rfl
  · rfl

theorem Orderly.close {run : PoolRun} (orderly : run.Orderly) : run.close.1.Orderly := by
  apply orderly_of_isClosed run.isClosed_close
  · rw [duty_close]
    split
    · exact nofun
    · assumption
  · intro address failed duty
    rw [duty_close] at duty
    split at duty
    · cases duty
    · exact run.affects_close.evolves.isClosed failed (orderly.repair address failed duty)

theorem Orderly.release {run : PoolRun} (orderly : run.Orderly) : run.release.Orderly := by
  unfold PoolRun.release
  dsimp only
  split
  · next isIdle =>
    apply orderly_rest
    exact orderly.tracksInstalled (by rw [isIdle]; rfl)
  · exact orderly.of_duty_eq rfl rfl rfl (.refl run.network) fun _ _ installed => .inl installed

end PoolRun

/-- Whatever the next move is, the upkeep can go on from there. -/
theorem Step.orderly {dialer : Dialer} {before after : Course} {move : Move}
    (step : Step dialer before move after) (orderly : before.run.Orderly) : after.run.Orderly := by
  have tracks : before.run.duty.isUpdating = false → before.run.TracksInstalled :=
    orderly.tracksInstalled
  cases step with
  | surroundings evolves =>
      exact orderly.of_duty_eq rfl rfl rfl evolves fun _ _ installed => .inl installed
  | select => exact orderly.select
  | request request => exact orderly.request request
  | event event isIdle => exact PoolRun.orderly_handleEvent (tracks (by rw [isIdle]; rfl)) event
  | check isIdle =>
      apply PoolRun.orderly_continueCheck (tracks (by rw [isIdle]; rfl))
      exact fun _ address isMissing => (List.mem_filter.mp isMissing).1
  | discovery function isIdle =>
      exact PoolRun.orderly_beginDiscovery (tracks (by rw [isIdle]; rfl)) function
  | answer outcome isAsked =>
      exact PoolRun.orderly_finishDiscovery (tracks (by rw [isAsked]; rfl)) outcome
  | refused isDialed => exact PoolRun.orderly_finishDial_none orderly
  | opened isDialed known isAllowed => exact PoolRun.orderly_finishDial_some orderly isDialed _
  | close => exact orderly.close
  | release => exact orderly.release

/-- All connections of a pool come from its dials, and there is always one to fall back on. -/
structure Course.Sound (course : Course) : Prop where
  orderly : course.run.Orderly
  known : ∀ id ∈ course.handed, course.run.network.Knows id
  installed : ∀ address id, course.run.pool.entries.installed? address = some id →
    id ∈ course.handed
  fallback : ∀ id, course.run.pool.fallback = some id → id ∈ course.handed
  hasFallback : course.run.pool.fallback.isSome = true
  distinct : course.run.pool.entries.addresses.Nodup

theorem Course.Sound.knowsInstalled {course : Course} (sound : course.Sound) :
    course.run.KnowsInstalled :=
  fun address id installed => sound.known id (sound.installed address id installed)

/-- What a move does to a course in which a dial may hand over a connection meanwhile. -/
structure Changes (dialer : Dialer) (before after : Course)
    (handed : Option (String × ConnectionId)) : Prop where
  affects : before.run.Affects after.run handed
  warmed : after.warmed = before.warmed
  dialed : after.dialed = (handed.map Prod.snd).toList ++ before.dialed
  allowed : ∀ address id, handed = some (address, id) →
    before.run.duty.dialing? = some address ∧ before.run.network.Knows id ∧
      dialer before.handed before.run.network address id

theorem Changes.mem_handed {dialer : Dialer} {before after : Course}
    {handed : Option (String × ConnectionId)} (changes : Changes dialer before after handed)
    (id : ConnectionId) :
    id ∈ after.handed ↔ id ∈ before.handed ∨ ∃ address, handed = some (address, id) := by
  rw [Course.handed, changes.warmed, changes.dialed, List.append_assoc, List.mem_append, or_comm]
  apply or_congr_right
  simp

theorem Step.changes {dialer : Dialer} {before after : Course} {move : Move}
    (step : Step dialer before move after) (sound : before.Sound) :
    ∃ handed, Changes dialer before after handed := by
  have knows := sound.knowsInstalled
  have kept {run : PoolRun} (affects : before.run.Affects run none) :
      ∃ handed, Changes dialer before { before with run } handed :=
    ⟨none, affects, rfl, rfl, nofun⟩
  cases step with
  | surroundings evolves => exact kept (.of_entries_eq evolves rfl rfl fun closed => closed)
  | select => exact kept before.run.affects_select
  | request request => exact kept (before.run.affects_request request)
  | event event _ => exact kept (before.run.affects_handleEvent event)
  | check _ => exact kept (before.run.affects_continueCheck _)
  | discovery function _ => exact kept (before.run.affects_beginDiscovery function)
  | answer outcome _ => exact kept (PoolRun.affects_finishDiscovery knows outcome)
  | refused _ => exact kept (PoolRun.affects_finishDial_none knows sound.orderly.repair)
  | close => exact kept before.run.affects_close
  | release => exact kept before.run.affects_release
  | opened isDialed known isAllowed =>
      refine ⟨some (_, _), PoolRun.affects_finishDial_some knows isDialed known, rfl, rfl, ?_⟩
      rintro _ _ ⟨⟩
      exact ⟨isDialed, known, isAllowed⟩

theorem Step.sound {dialer : Dialer} {before after : Course} {move : Move}
    (step : Step dialer before move after) (sound : before.Sound) : after.Sound := by
  obtain ⟨handed, changes⟩ := step.changes sound
  have affects := changes.affects
  constructor
  · exact step.orderly sound.orderly
  · intro id isHanded
    apply affects.evolves.knows
    rcases (changes.mem_handed id).mp isHanded with wasHanded | ⟨address, isNew⟩
    · exact sound.known id wasHanded
    · exact (changes.allowed address id isNew).2.1
  · intro address id installed
    apply (changes.mem_handed id).mpr
    rcases affects.new address id installed with wasInstalled | ⟨isNew, _⟩
    · exact .inl (sound.installed address id wasInstalled)
    · exact .inr ⟨address, isNew⟩
  · intro id isFallback
    apply (changes.mem_handed id).mpr
    rcases affects.fallback id isFallback with wasFallback | ⟨address, wasInstalled | isNew⟩
    · exact .inl (sound.fallback id wasFallback)
    · exact .inl (sound.installed address id wasInstalled)
    · exact .inr ⟨address, isNew⟩
  · exact affects.remembers sound.hasFallback
  · exact affects.distinct sound.distinct

/-- What holds while a pool is being made. -/
structure Warming.Sound (warming : Warming) : Prop where
  known : ∀ id ∈ warming.handed, warming.network.Knows id
  installed : ∀ address id, warming.warmUp.entries.installed? address = some id →
    id ∈ warming.handed ∧ address ∈ warming.warmUp.addresses
  fallback : ∀ id, warming.warmUp.fallback = some id → id ∈ warming.handed
  hasFallback : warming.warmUp.isAlive = true → warming.warmUp.fallback.isSome = true
  distinct : warming.warmUp.entries.addresses.Nodup

theorem Warming.Sound.open {warming : Warming} (sound : warming.Sound) {network : Network}
    {address : String} {id : ConnectionId} (evolves : warming.network.Evolves network)
    (known : network.Knows id) (isAddress : address ∈ warming.warmUp.addresses) :
    (Warming.mk network (warming.warmUp.take network address (some id))
      (id :: warming.handed)).Sound := by
  constructor
  · intro other isHanded
    rcases List.mem_cons.mp isHanded with same | wasHanded
    · exact same ▸ known
    · exact evolves.knows other (sound.known other wasHanded)
  · intro other otherId installed
    rw [WarmUp.take, Entries.installed?_put] at installed
    split at installed
    · next same =>
      cases installed
      exact ⟨List.mem_cons_self, same ▸ isAddress⟩
    · exact (sound.installed other otherId installed).imp_left (.tail _)
  · intro other isFallback
    rcases Option.or_eq_some_iff.mp isFallback with wasFallback | ⟨_, isNew⟩
    · exact .tail _ (sound.fallback other wasFallback)
    · cases isNew
      exact List.mem_cons_self
  · intro _
    simp [WarmUp.take]
  · exact Entries.nodup_put sound.distinct address id

theorem Warms.sound {dialer : Dialer} {warming after : Warming} {addresses : List String}
    (warms : Warms dialer warming addresses after) (sound : warming.Sound)
    (areAddresses : ∀ address ∈ addresses, address ∈ warming.warmUp.addresses) : after.Sound := by
  induction warms with
  | done => exact sound
  | @refused warming _ network address later evolves _ inductionHypothesis =>
      apply inductionHypothesis _ fun other isLater => areAddresses other (.tail _ isLater)
      have evolved := (warming.network.evolves_note (.dial address)).trans evolves
      exact { sound with known := fun id isHanded => evolved.knows id (sound.known id isHanded) }
  | @opened warming _ _ address _ _ evolves known _ _ inductionHypothesis =>
      apply inductionHypothesis _ fun other isLater => areAddresses other (.tail _ isLater)
      have evolved := (warming.network.evolves_note (.dial address)).trans evolves
      exact sound.open evolved known (areAddresses address List.mem_cons_self)

theorem WarmUp.begin_eq {network : Network} {addresses : List String} {options : PoolOptions}
    {begun : Network × WarmUp} (isBegun : WarmUp.begin network addresses options = .ok begun) :
    ∃ queue, begun.2 = ⟨addresses, options.normalized, queue, [], none, false⟩ := by
  unfold begin at isBegun
  cases isEmpty : addresses.isEmpty with
  | true =>
      rw [isEmpty] at isBegun
      cases isBegun
  | false =>
      cases isValid : options.validate with
      | error fault =>
          rw [isEmpty, isValid] at isBegun
          cases isBegun
      | ok _ =>
          rw [isEmpty, isValid] at isBegun
          cases isBegun
          exact ⟨_, rfl⟩

theorem WarmUp.finish_eq {warmUp : WarmUp} {network finished : Network} {pool : Pool}
    (isFinished : warmUp.finish network = (finished, .ok pool)) :
    warmUp.isAlive = true ∧ finished = network ∧
      pool = ⟨warmUp.addresses, warmUp.entries, warmUp.fallback, false, true, warmUp.queue,
        warmUp.options⟩ := by
  unfold finish at isFinished
  split at isFinished
  · cases isFinished
    exact ⟨by assumption, rfl, rfl⟩
  · cases isFinished

theorem Warms.addresses_eq {dialer : Dialer} {warming after : Warming} {addresses : List String}
    (warms : Warms dialer warming addresses after) :
    after.warmUp.addresses = warming.warmUp.addresses := by
  induction warms with
  | done => rfl
  | refused _ _ inductionHypothesis => exact inductionHypothesis
  | opened _ _ _ _ inductionHypothesis => exact inductionHypothesis

/-- A pool begins with the addresses that it is given. -/
theorem Opens.tracked_eq {dialer : Dialer} {addresses : List String} {options : PoolOptions}
    {course : Course} (opens : Opens dialer addresses options course) :
    course.run.pool.tracked = addresses := by
  cases opens with
  | intro isBegun warms isFinished =>
      obtain ⟨queue, isWarmUp⟩ := WarmUp.begin_eq isBegun
      obtain ⟨_, rfl, rfl⟩ := WarmUp.finish_eq isFinished
      exact warms.addresses_eq.trans (congrArg WarmUp.addresses isWarmUp)

theorem Opens.sound {dialer : Dialer} {addresses : List String} {options : PoolOptions}
    {course : Course} (opens : Opens dialer addresses options course) : course.Sound := by
  cases opens with
  | @intro _ _ begun warming _ isBegun warms isFinished =>
      obtain ⟨queue, isWarmUp⟩ := WarmUp.begin_eq isBegun
      obtain ⟨isAlive, rfl, rfl⟩ := WarmUp.finish_eq isFinished
      have sound : warming.Sound := by
        apply warms.sound
        · rw [isWarmUp]
          exact ⟨nofun, nofun, nofun, nofun, List.nodup_nil⟩
        · rw [isWarmUp]
          exact fun _ isAddress => isAddress
      constructor
      · refine ⟨fun _ => rfl, nofun, ?_, nofun, nofun⟩
        exact fun _ address id installed => .inl (sound.installed address id installed).2
      · exact sound.known
      · exact fun address id installed => (sound.installed address id installed).1
      · exact sound.fallback
      · exact sound.hasFallback isAlive
      · exact sound.distinct

theorem Reaches.sound {dialer : Dialer} {start course : Course}
    (reaches : Reaches dialer start course) (sound : start.Sound) : course.Sound := by
  induction reaches with
  | refl => exact sound
  | tail _ moves inductionHypothesis =>
      obtain ⟨move, step⟩ := moves
      exact step.sound inductionHypothesis

end FailoverPool
