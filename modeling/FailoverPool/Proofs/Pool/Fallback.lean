import FailoverPool.Proofs.Pool.Sparing

/-!
What a pool falls back on when none of its connections is connected.

The remembered connection may be there from the warm-up on, or from any choice made since. Still it
has closed, or it is the entry of a tracked address (`PoolRun.Backs`): whoever loses its entry is
closed. Nothing is asked of the dialer. Main statement: `Reaches.recalls`.
-/

namespace FailoverPool

namespace PoolRun

/-- The remembered connection has closed, or it is the entry of a tracked address. -/
def Backs (run : PoolRun) : Prop :=
  ∀ id, run.pool.fallback = some id → run.network.isClosed id = true ∨
    ∃ address ∈ run.pool.tracked, run.pool.entries.installed? address = some id

/-- The addresses that an update replaces are those that are tracked. -/
structure Recalls (run : PoolRun) : Prop where
  former : ∀ address later former discovered,
    run.duty = .update address later former discovered → former = run.pool.tracked
  backs : run.Backs

theorem Backs.recalls {run : PoolRun} (backs : run.Backs)
    (isNoUpdate : run.duty.isUpdating = false) : run.Recalls := by
  refine ⟨fun address later former discovered duty => ?_, backs⟩
  rw [duty] at isNoUpdate
  cases isNoUpdate

theorem Backs.affected {before after : PoolRun} {handed : Option (String × ConnectionId)}
    (backs : before.Backs) (affects : before.Affects after handed)
    (sameTracked : after.pool.tracked = before.pool.tracked)
    (sameFallback : after.pool.fallback = before.pool.fallback) : after.Backs := by
  intro id isFallback
  rw [sameTracked]
  rcases backs id (sameFallback ▸ isFallback) with closed | ⟨address, isTracked, installed⟩
  · exact .inl (affects.evolves.isClosed id closed)
  · rcases affects.kept address id installed with still | closed
    · exact .inr ⟨address, isTracked, still⟩
    · exact .inl closed

theorem Backs.rest {run : PoolRun} (backs : run.Backs) : run.rest.Recalls := by
  have same := run.pool_rest
  refine (backs.affected run.affects_rest ?_ ?_).recalls run.isUpdating_rest
  · rw [same]
  · rw [same]

/-- A choice remembers nothing but the entry of a tracked address. -/
theorem Backs.select {run : PoolRun} (backs : run.Backs) : run.select.Backs := by
  unfold PoolRun.select Pool.select
  cases run.pool.candidates.find? run.network.isConnected with
  | some _ => exact backs
  | none =>
      intro id isFallback
      rcases Option.or_eq_some_iff.mp isFallback with isLast | ⟨_, same⟩
      · obtain ⟨address, isTracked, installed⟩ :=
          List.mem_filterMap.mp (List.mem_of_getLast? isLast)
        exact .inr ⟨address, isTracked, installed⟩
      · exact backs id same

theorem Backs.takeDialed {run : PoolRun} {address : String} {dialed : Option ConnectionId}
    (backs : run.Backs) (knows : run.KnowsInstalled)
    (known : ∀ id, dialed = some id → run.network.Knows id) :
    (run.takeDialed address dialed).Backs := by
  cases dialed with
  | none => exact backs
  | some id =>
      refine backs.affected (affects_takeDialed knows (known id rfl) address) ?_ ?_
      · rw [pool_takeDialed]
      · rw [pool_takeDialed]

theorem Backs.continueCheck {run : PoolRun} (backs : run.Backs) (addresses : List String) :
    (run.continueCheck addresses).Recalls := by
  cases addresses with
  | nil => exact backs.rest
  | cons address later =>
      rw [PoolRun.continueCheck]
      split
      · exact backs.rest
      · exact (backs.affected (run.affects_dial address _) rfl rfl).recalls rfl

theorem Backs.handleEvent {run : PoolRun} (backs : run.Backs) (event : Event) :
    (run.handleEvent event).Recalls := by
  unfold PoolRun.handleEvent
  split
  · exact (backs.affected (run.affects_dial _ _) rfl rfl).recalls rfl
  · exact backs.rest

/-- Whoever is not discovered leaves, and is closed. -/
theorem Backs.finishUpdate {run : PoolRun} (backs : run.Backs) (knows : run.KnowsInstalled)
    (discovered : List String) : (run.finishUpdate run.pool.tracked discovered).Recalls := by
  let left := run.removeAll (run.pool.tracked.filter fun address => !discovered.contains address)
  let switched : PoolRun := { left with pool := { left.pool with tracked := discovered } }
  have isSwitched : switched.Backs := by
    intro id isFallback
    have wasFallback : run.pool.fallback = some id := by
      simp only [switched, left] at isFallback
      rwa [removeAll_eq] at isFallback
    rcases backs id wasFallback with closed | ⟨address, isTracked, installed⟩
    · exact .inl ((run.evolves_removeAll _).isClosed id closed)
    · by_cases isDiscovered : address ∈ discovered
      · refine .inr ⟨address, isDiscovered, ?_⟩
        rw [installed?_removeAll, if_neg (by simp [isDiscovered])]
        exact installed
      · refine .inl (isClosed_removeAll ?_ installed (knows address id installed))
        simp [isTracked, isDiscovered]
  exact isSwitched.rest

theorem Backs.continueUpdate {run : PoolRun} (backs : run.Backs) (knows : run.KnowsInstalled)
    (discovered addresses : List String) :
    (run.continueUpdate run.pool.tracked discovered addresses).Recalls := by
  cases addresses with
  | nil => exact backs.finishUpdate knows discovered
  | cons address later =>
      rw [PoolRun.continueUpdate]
      split
      · exact backs.rest
      · refine ⟨?_, backs.affected (run.affects_dial address _) rfl rfl⟩
        rintro _ _ _ _ ⟨⟩
        rfl

theorem Backs.finishDiscovery {run : PoolRun} (backs : run.Backs) (knows : run.KnowsInstalled)
    (outcome : Outcome) : (run.finishDiscovery outcome).Recalls := by
  unfold PoolRun.finishDiscovery
  split
  · exact backs.rest
  · rw [beginUpdate_eq]
    exact backs.continueUpdate knows _ _

theorem Backs.beginDiscovery {run : PoolRun} (backs : run.Backs) (function : String) :
    (run.beginDiscovery function).Recalls := by
  have selected := backs.select
  unfold PoolRun.select at selected
  unfold PoolRun.beginDiscovery
  cases isChosen : run.pool.select run.network with
  | mk pool target =>
      rw [isChosen] at selected
      cases target with
      | none => exact selected.rest
      | some id =>
          dsimp only
          split
          · exact selected.rest
          · next network isHanded =>
            let asked : PoolRun := { run with network, pool, duty := .ask id }
            have evolves : run.network.Evolves asked.network := Network.evolves_hand isHanded
            have isBacked : asked.Backs :=
              selected.affected (.of_entries_eq evolves rfl rfl fun closed => closed) rfl rfl
            exact isBacked.recalls rfl

theorem Backs.request {run : PoolRun} (backs : run.Backs) (request : Request) :
    (run.request request).Backs := by
  have routed : Backs { run with pool := (run.pool.route run.network request).1 } := by
    rcases run.pool.route_fst run.network request with same | selected
    · rw [same]
      exact backs
    · rw [selected]
      exact backs.select
  have evolves := (run.affects_request request).evolves
  unfold PoolRun.request at evolves ⊢
  cases isRouted : run.pool.route run.network request with
  | mk pool target =>
      rw [isRouted] at routed evolves
      cases target with
      | error _ => exact routed
      | ok id => exact routed.affected (.of_entries_eq evolves rfl rfl fun closed => closed) rfl rfl

theorem Recalls.finishDial {run : PoolRun} {dialed : Option ConnectionId} (recalls : run.Recalls)
    (knows : run.KnowsInstalled) (known : ∀ id, dialed = some id → run.network.Knows id)
    (failedIsClosed : ∀ address failed, run.duty = .repair address failed →
      run.network.isClosed failed = true) : (run.finishDial dialed).Recalls := by
  have taken (address : String) : (run.takeDialed address dialed).Backs :=
    recalls.backs.takeDialed knows known
  unfold PoolRun.finishDial
  cases duty : run.duty with
  | idle | ask | ended => exact recalls
  | repair address failed =>
      cases dialed with
      | none =>
          refine (recalls.backs.affected
            (affects_evict (failedIsClosed address failed duty) address) ?_ ?_).rest
          · rw [Pool.evict_eq]
          · rw [Pool.evict_eq]
      | some id => exact (taken address).rest
  | check address later => exact (taken address).continueCheck later
  | update address later former discovered =>
      have sameTracked : (run.takeDialed address dialed).pool.tracked = run.pool.tracked := by
        rw [pool_takeDialed]
      have knowsTaken : (run.takeDialed address dialed).KnowsInstalled := by
        intro other id installed
        have evolves := run.evolves_takeDialed address dialed
        rcases installed_of_takeDialed installed with wasInstalled | ⟨_, isDialed⟩
        · exact evolves.knows id (knows other id wasInstalled)
        · exact evolves.knows id (known id isDialed)
      dsimp only
      rw [recalls.former address later former discovered duty, ← sameTracked]
      exact (taken address).continueUpdate knowsTaken discovered later

end PoolRun

/-- Whatever a move is, a pool still recalls what it has. -/
theorem Step.recalls {dialer : Dialer} {before after : Course} {move : Move}
    (step : Step dialer before move after) (sound : before.Sound)
    (recalls : before.run.Recalls) : after.run.Recalls := by
  have knows := sound.knowsInstalled
  have backs := recalls.backs
  have failedIsClosed := sound.orderly.repair
  have stays {run : PoolRun} (isBacked : run.Backs) (sameDuty : run.duty = before.run.duty)
      (sameTracked : run.pool.tracked = before.run.pool.tracked) : run.Recalls := by
    refine ⟨fun address later former discovered duty => ?_, isBacked⟩
    rw [sameTracked]
    exact recalls.former address later former discovered (sameDuty ▸ duty)
  cases step with
  | surroundings evolves =>
      exact stays (backs.affected (.of_entries_eq evolves rfl rfl fun closed => closed) rfl rfl)
        rfl rfl
  | select =>
      obtain ⟨_, isPool⟩ := before.run.pool_select
      exact stays backs.select rfl (by rw [isPool])
  | request request =>
      obtain ⟨_, isPool⟩ := before.run.pool_request request
      exact stays (backs.request request) (before.run.duty_request request) (by rw [isPool])
  | event event _ => exact backs.handleEvent event
  | check _ => exact backs.continueCheck _
  | discovery function _ => exact backs.beginDiscovery function
  | answer outcome _ => exact backs.finishDiscovery knows outcome
  | refused _ => exact recalls.finishDial knows nofun failedIsClosed
  | opened _ known _ =>
      refine recalls.finishDial knows ?_ failedIsClosed
      rintro _ ⟨⟩
      exact known
  | close =>
      have isPool := before.run.pool_close
      have isBacked := backs.affected before.run.affects_close (by rw [isPool]) (by rw [isPool])
      have duty := before.run.duty_close
      split at duty
      · exact isBacked.recalls (by rw [duty]; rfl)
      · exact stays isBacked duty (by rw [isPool])
  | release =>
      have isPool := before.run.pool_release
      have isBacked := backs.affected before.run.affects_release (by rw [isPool]) (by rw [isPool])
      by_cases isIdle : before.run.duty = .idle
      · refine isBacked.recalls ?_
        rw [PoolRun.release, if_pos isIdle]
        exact PoolRun.isUpdating_rest _
      · exact stays isBacked (by rw [PoolRun.release, if_neg isIdle]) (by rw [isPool])

/-- Without repeats among the addresses no dial of the warm-up replaces what the one before has
brought. -/
theorem Warms.backs {dialer : Dialer} {warming after : Warming} {left : List String}
    (warms : Warms dialer warming left after) (distinct : left.Nodup)
    (areAddresses : ∀ address ∈ left, address ∈ warming.warmUp.addresses)
    (backs : ∀ id, warming.warmUp.fallback = some id → ∃ address ∈ warming.warmUp.addresses,
      address ∉ left ∧ warming.warmUp.entries.installed? address = some id) :
    ∀ id, after.warmUp.fallback = some id → ∃ address ∈ after.warmUp.addresses,
      after.warmUp.entries.installed? address = some id := by
  induction warms with
  | done =>
      intro id isFallback
      obtain ⟨address, isAddress, _, installed⟩ := backs id isFallback
      exact ⟨address, isAddress, installed⟩
  | refused _ _ inductionHypothesis =>
      apply inductionHypothesis (List.nodup_cons.mp distinct).2
      · exact fun other isLater => areAddresses other (.tail _ isLater)
      · intro id isFallback
        obtain ⟨address, isAddress, isOver, installed⟩ := backs id isFallback
        exact ⟨address, isAddress, fun isLater => isOver (.tail _ isLater), installed⟩
  | @opened warming _ network address later id _ _ _ _ inductionHypothesis =>
      obtain ⟨isNew, distinctLater⟩ := List.nodup_cons.mp distinct
      apply inductionHypothesis distinctLater
      · exact fun other isLater => areAddresses other (.tail _ isLater)
      · intro other isFallback
        simp only [WarmUp.take, Entries.installed?_put]
        rcases Option.or_eq_some_iff.mp isFallback with wasFallback | ⟨_, isDialed⟩
        · obtain ⟨former, isAddress, isOver, installed⟩ := backs other wasFallback
          rw [List.mem_cons, not_or] at isOver
          exact ⟨former, isAddress, isOver.2, by rw [if_neg (Ne.symm isOver.1), installed]⟩
        · exact ⟨address, areAddresses address List.mem_cons_self, isNew,
            by rw [if_pos rfl, isDialed]⟩

theorem Opens.recalls {dialer : Dialer} {addresses : List String} {options : PoolOptions}
    {course : Course} (opens : Opens dialer addresses options course)
    (distinct : addresses.Nodup) : course.run.Recalls := by
  cases opens with
  | intro isBegun warms isFinished =>
      obtain ⟨queue, isWarmUp⟩ := WarmUp.begin_eq isBegun
      obtain ⟨_, rfl, rfl⟩ := WarmUp.finish_eq isFinished
      refine PoolRun.Backs.recalls (fun id isFallback => .inr ?_) rfl
      refine warms.backs distinct ?_ ?_ id isFallback
      · rw [isWarmUp]
        exact fun _ isAddress => isAddress
      · rw [isWarmUp]
        exact nofun

/-- Wherever a pool is in its course, it recalls no connection that is live and has no entry. -/
theorem Reaches.recalls {dialer : Dialer} {start course : Course}
    (reaches : Reaches dialer start course) (sound : start.Sound) (recalls : start.run.Recalls) :
    course.run.Recalls := by
  induction reaches with
  | refl => exact recalls
  | tail earlier moves inductionHypothesis =>
      obtain ⟨move, step⟩ := moves
      exact step.recalls (Reaches.sound earlier sound) inductionHypothesis

end FailoverPool
