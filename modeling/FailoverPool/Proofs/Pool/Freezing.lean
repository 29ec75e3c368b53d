import FailoverPool.Proofs.Pool.Reconciliation

/-!
The tracked addresses of a pool that was closed.

Nothing is begun in a closed pool, but its upkeep goes on once with what it was suspended in, and an
update that finds nothing left to dial does not ask whether the pool is still open. So there are two
moments of closing after which the tracked addresses may still change (`LateList`): the last dial of
an update, and a discovery call. After any other they stay as they are. Main statement:
`settles_of_reaches`.
-/

namespace FailoverPool

namespace PoolRun

/-- A list that may take the place of the tracked addresses even if the pool is closed now. -/
inductive LateList (run : PoolRun) : List String → Prop where
  /-- The last dial of an update is under way. -/
  | dial {address : String} {former discovered : List String} :
      run.duty = .update address [] former discovered → LateList run discovered
  /-- The cluster has been asked, and its answer may name some of the tracked addresses, or name
  them in another order. -/
  | answer {id : ConnectionId} {discovered : List String} :
      run.duty = .ask id → discovered ≠ [] → discovered.Nodup →
      (∀ address ∈ discovered, address ∈ run.pool.tracked) → LateList run discovered

variable {before after run : PoolRun} {discovered : List String}

theorem LateList.of_eq (late : after.LateList discovered) (sameDuty : after.duty = before.duty)
    (sameTracked : after.pool.tracked = before.pool.tracked) : before.LateList discovered := by
  cases late with
  | dial duty => exact .dial (sameDuty ▸ duty)
  | answer duty isFilled distinct areTracked =>
      exact .answer (sameDuty ▸ duty) isFilled distinct (sameTracked ▸ areTracked)

theorem tracked_finishUpdate (run : PoolRun) (former discovered : List String) :
    (run.finishUpdate former discovered).pool.tracked = discovered := by
  rw [finishUpdate, pool_rest]

/-- Closed before its next dial, an update leaves the tracked addresses; with no dial left it does
not. -/
theorem tracked_continueUpdate (closed : run.pool.isClosed = true)
    (former discovered addresses : List String) :
    (run.continueUpdate former discovered addresses).pool.tracked =
      if addresses = [] then discovered else run.pool.tracked := by
  cases addresses with
  | nil => exact run.tracked_finishUpdate former discovered
  | cons address later =>
      rw [continueUpdate, if_pos closed, pool_rest, if_neg (List.cons_ne_nil _ _)]

theorem tracked_finishDiscovery (closed : run.pool.isClosed = true) {id : ConnectionId}
    (duty : run.duty = .ask id) (outcome : Outcome) :
    (run.finishDiscovery outcome).pool.tracked = run.pool.tracked ∨
      run.LateList (run.finishDiscovery outcome).pool.tracked := by
  unfold finishDiscovery
  split
  · exact .inl (by rw [pool_rest])
  · next discovered tells =>
    rw [beginUpdate_eq, tracked_continueUpdate closed]
    split
    · next noNewcomers =>
      refine .inr (.answer duty (Discovery.ne_nil_of_tells tells)
        (Discovery.nodup_of_tells tells) fun address isDiscovered => ?_)
      by_contra isUntracked
      have isNewcomer := Pool.mem_newcomers.mpr ⟨isDiscovered, isUntracked⟩
      rw [noNewcomers] at isNewcomer
      cases isNewcomer
    · exact .inl rfl

theorem tracked_finishDial (closed : run.pool.isClosed = true) (dialed : Option ConnectionId) :
    (run.finishDial dialed).pool.tracked = run.pool.tracked ∨
      run.LateList (run.finishDial dialed).pool.tracked := by
  unfold finishDial
  cases duty : run.duty with
  | idle | ask | ended => exact .inl rfl
  | repair address failed =>
      refine .inl ?_
      dsimp only [finishRepair]
      cases dialed with
      | none => rw [pool_rest, Pool.evict_eq]
      | some id => rw [pool_rest, pool_takeDialed]
  | check address later => exact .inl (by rw [pool_continueCheck, pool_takeDialed])
  | update address later former discovered =>
      dsimp only
      rw [tracked_continueUpdate (takeDialed_of_isClosed closed address dialed).1]
      split
      · next isLast => exact .inr (.dial (isLast ▸ duty))
      · exact .inl (by rw [pool_takeDialed])

end PoolRun

variable {dialer : Dialer} {before after : Course}

theorem Step.tracked_of_isClosed {move : Move} (step : Step dialer before move after)
    (closed : before.run.pool.isClosed = true) (isBusy : before.run.duty ≠ .idle) :
    after.run.pool.tracked = before.run.pool.tracked ∨
      before.run.LateList after.run.pool.tracked := by
  cases isUpkeep : move.isUpkeep with
  | false => exact .inl (step.entries_of_isOther isUpkeep).2
  | true =>
      cases step with
      | surroundings | select | request | close | release => cases isUpkeep
      | event _ isIdle | check isIdle | discovery _ isIdle => exact absurd isIdle isBusy
      | answer outcome duty => exact PoolRun.tracked_finishDiscovery closed duty outcome
      | refused | opened => exact PoolRun.tracked_finishDial closed _

/-- What becomes of the tracked addresses when the pool is closed at this moment. -/
structure Course.Settles (dialer : Dialer) (before : Course) : Prop where
  /-- They stay, or they give way to a late list when the upkeep ends. -/
  tracked : ∀ after, Reaches dialer before.close after →
    after.run.pool.tracked = before.run.pool.tracked ∨
      after.run.duty = .ended ∧ before.run.LateList after.run.pool.tracked
  /-- After that they stay for good. -/
  final : ∀ after later, Reaches dialer before.close after → after.run.duty = .ended →
    Reaches dialer after later → later.run.pool.tracked = after.run.pool.tracked
  /-- Every late list can indeed come to be tracked. -/
  late : ∀ discovered, before.run.LateList discovered →
    ∃ after, Reaches dialer before.close after ∧ after.run.pool.tracked = discovered

theorem Reaches.closedSince (reaches : Reaches dialer before.close after) (sound : before.Sound)
    (accounted : ∀ id ∈ before.dialed, before.run.Accounts id) :
    after.Sound ∧ before.ClosedSince after := by
  induction reaches with
  | refl => exact ⟨sound.close, sound.closedSince accounted⟩
  | tail _ moves inductionHypothesis =>
      obtain ⟨move, step⟩ := moves
      obtain ⟨soundBefore, closedSince⟩ := inductionHypothesis
      exact ⟨step.sound soundBefore, step.closedSince soundBefore closedSince⟩

theorem Step.turns {closing : Course} {move : Move} (step : Step dialer before move after)
    (closedSince : closing.ClosedSince before)
    (turned : before.run.pool.tracked = closing.run.pool.tracked ∨
      before.run.duty = .ended ∧ closing.run.LateList before.run.pool.tracked) :
    after.run.pool.tracked = closing.run.pool.tracked ∨
      after.run.duty = .ended ∧ closing.run.LateList after.run.pool.tracked := by
  cases isUpkeep : move.isUpkeep with
  | false =>
      rw [(step.entries_of_isOther isUpkeep).2, step.duty_of_isBusy closedSince.isBusy isUpkeep]
      exact turned
  | true =>
      have goesOn : before.run.duty ≠ .ended := fun isEnded => by
        rw [step.isUpkeep_of_ended isEnded] at isUpkeep
        cases isUpkeep
      -- So the upkeep is still suspended in what it was when the pool was closed.
      obtain ⟨sameDuty, _⟩ := closedSince.duty.resolve_left goesOn
      have sameTracked := turned.resolve_right fun ended => goesOn ended.1
      rcases step.tracked_of_isClosed closedSince.isClosed closedSince.isBusy with same | late
      · exact .inl (same.trans sameTracked)
      · have ends := step.endsQuietly closedSince.isClosed closedSince.isBusy isUpkeep
        exact .inr ⟨ends.2.duty, late.of_eq sameDuty sameTracked⟩

theorem Reaches.tracked_of_ended (reaches : Reaches dialer before after)
    (isEnded : before.run.duty = .ended) :
    after.run.pool.tracked = before.run.pool.tracked := by
  induction reaches with
  | refl => rfl
  | tail earlier moves inductionHypothesis =>
      obtain ⟨move, step⟩ := moves
      have isOther := step.isUpkeep_of_ended (Reaches.ended_of_ended earlier isEnded)
      rw [(step.entries_of_isOther isOther).2, inductionHypothesis]

/-- An update that waits for its last dial, or for an answer, comes to its end in a closed pool. -/
theorem Course.exists_late {discovered : List String} (late : before.run.LateList discovered) :
    ∃ after, Reaches dialer before.close after ∧ after.run.pool.tracked = discovered := by
  have closed : before.close.run.pool.isClosed = true := before.run.isClosed_close
  have sameTracked : before.close.run.pool.tracked = before.run.pool.tracked := by
    rw [Course.close, PoolRun.pool_close]
  have sameDuty (isBusy : before.run.duty ≠ .idle) : before.close.run.duty = before.run.duty := by
    rw [Course.close, PoolRun.duty_close, if_neg isBusy]
  cases late with
  | @dial address former _ duty =>
      have dutyClosed := (sameDuty (by simp [duty])).trans duty
      have isDialing : before.close.run.duty.dialing? = some address := by
        rw [dutyClosed]
        rfl
      refine ⟨_, .single ⟨_, .refused isDialing⟩, ?_⟩
      rw [PoolRun.finishDial, dutyClosed]
      exact PoolRun.tracked_finishUpdate _ former discovered
  | answer duty isFilled distinct areTracked =>
      have dutyClosed := (sameDuty (by simp [duty])).trans duty
      refine ⟨_, .single ⟨_, .answer (Discovery.telling discovered) dutyClosed⟩, ?_⟩
      rw [PoolRun.finishDiscovery, Discovery.tells_telling isFilled distinct]
      dsimp only
      rw [PoolRun.beginUpdate_eq, PoolRun.tracked_continueUpdate closed, if_pos]
      exact Pool.newcomers_eq_nil (sameTracked ▸ areTracked)

/-- Wherever a pool is closed in its course, its tracked addresses stay as they are, unless the last
dial of an update or a discovery call is under way at that moment. Then the list of the update, or
one that is told without a new address, may still take their place when the upkeep ends, and does so
for the one or the other answer. -/
theorem settles_of_reaches {addresses : List String} {options : PoolOptions} {start : Course}
    (opens : Opens dialer addresses options start) (reaches : Reaches dialer start before) :
    before.Settles dialer := by
  have sound := reaches.sound opens.sound
  have accounted : ∀ id ∈ before.dialed, before.run.Accounts id := by
    apply reaches.accounts opens.sound
    cases opens
    exact nofun
  constructor
  · intro after later
    induction later with
    | refl => exact .inl (by rw [Course.close, PoolRun.pool_close])
    | tail earlier moves inductionHypothesis =>
        obtain ⟨move, step⟩ := moves
        exact step.turns (Reaches.closedSince earlier sound accounted).2 inductionHypothesis
  · exact fun _ _ _ isEnded later => later.tracked_of_ended isEnded
  · exact fun _ => Course.exists_late

/-- A pool of two addresses is closed while the cluster is asked for them. -/
theorem settles_of_call :
    ∃ start before, Opens .fresh ["a", "b"] .default start ∧ Reaches .fresh start before ∧
      before.run.duty = .ask ⟨0⟩ ∧ before.run.LateList ["b"] ∧ before.Settles .fresh := by
  have opens : Opens .fresh ["a", "b"] .default _ :=
    @Opens.intro _ _ _ .empty _ _ _ _ rfl
      (.open nofun .connected (.open (by decide) .connecting .done)) rfl
  have reaches : Reaches .fresh _ _ := .single ⟨_, .discovery "addresses" opens.isIdle⟩
  refine ⟨_, _, opens, reaches, rfl, .answer rfl (by decide) (by decide) (by decide), ?_⟩
  exact settles_of_reaches opens reaches

/-- A pool is closed while a discovered address is dialed, and tracks it all the same. -/
theorem tracked_of_late_dial :
    ∃ start before after, Opens .fresh ["a"] .default start ∧ Reaches .fresh start before ∧
      Reaches .fresh before.close after ∧ before.close.run.pool.tracked = ["a"] ∧
      after.run.pool.tracked = ["a", "b"] := by
  have opens : Opens .fresh ["a"] .default _ :=
    @Opens.intro _ _ _ .empty _ _ _ _ rfl (.open nofun .connected .done) rfl
  have asked : Reaches .fresh _ _ := .single ⟨_, .discovery "addresses" opens.isIdle⟩
  obtain ⟨before, reaches, duty, wasTracked⟩ : ∃ before, Reaches .fresh _ before ∧
      before.run.duty = .update "b" [] ["a"] ["a", "b"] ∧
      before.close.run.pool.tracked = ["a"] := by
    refine ⟨_, asked.tail ⟨_, .answer (Discovery.telling ["a", "b"]) rfl⟩, ?_, ?_⟩
    · decide
    · decide
  obtain ⟨after, later, isTracked⟩ := Course.exists_late (.dial duty)
  exact ⟨_, before, after, opens, reaches, later, wasTracked, isTracked⟩

end FailoverPool
