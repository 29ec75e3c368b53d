import FailoverPool.Proofs.Pool.Reconciliation

/-!
A health check repairs the tracked addresses that have no connection, or a closed one.

`Checks` follows a check from its beginning to its end, while connections close, callers send
requests and the clock goes on. What the pool was told of its connections does not matter: the check
asks the connections themselves. It is halfway (`Repairing`) before each of its dials. Main
statement: `repairs_of_checks`.
-/

namespace FailoverPool

namespace Duty

def isChecking : Duty → Bool
  | .check .. => true
  | _ => false

end Duty

/-- A health check, from its beginning on. The list of occurrences holds what the upkeep has done
since, and the other list how its dials have ended. -/
inductive Checks (dialer : Dialer) (before : Course) :
    Course → List Occurrence → List (Option ConnectionId) → Prop
  | begins {after} :
      Step dialer before .check after →
      Checks dialer before after (after.run.network.since before.run.network) []
  | meanwhile {between after move deeds ends} :
      Checks dialer before between deeds ends →
      between.run.duty.isChecking = true →
      Step dialer between move after → move.isUpkeep = false →
      Checks dialer before after deeds ends
  | dialed {between after move deeds ends dialEnd} :
      Checks dialer before between deeds ends →
      between.run.duty.isChecking = true →
      Step dialer between move after → move.dialEnd? = some dialEnd →
      Checks dialer before after
        (deeds ++ after.run.network.since between.run.network) (ends ++ [dialEnd])

namespace PoolRun

/-- The tracked addresses that have no connection, or one that has closed. -/
def vacant (run : PoolRun) : List String := run.pool.tracked.filter run.isVacant

/-- What a health check has come to when it is over. -/
structure Repaired (before : PoolRun) (deeds : List Occurrence) (ends : List (Option ConnectionId))
    (after : PoolRun) : Prop where
  /-- The vacant addresses were dialed, each once and in order, and nothing else was done. -/
  deeds : deeds = before.vacant.map .dial
  count : ends.length = before.vacant.length
  tracked : after.pool.tracked = before.pool.tracked
  /-- An address has the connection that its dial has handed over; if the dial has failed it has
  what it had. -/
  joined : ∀ address dialEnd, (address, dialEnd) ∈ before.vacant.zip ends →
    after.pool.entries.installed? address = dialEnd.or (before.pool.entries.installed? address)
  others : ∀ address, address ∉ before.vacant →
    after.pool.entries.installed? address = before.pool.entries.installed? address

/-- The addresses `done` have been dialed, those `left` have not. -/
structure Repairing (before : PoolRun) (done left : List String)
    (ends : List (Option ConnectionId)) (run : PoolRun) : Prop where
  vacant : before.vacant = done ++ left
  count : ends.length = done.length
  isOpen : run.pool.isClosed = false
  tracked : run.pool.tracked = before.pool.tracked
  joined : ∀ address dialEnd, (address, dialEnd) ∈ done.zip ends →
    run.pool.entries.installed? address = dialEnd.or (before.pool.entries.installed? address)
  others : ∀ address, address ∉ done →
    run.pool.entries.installed? address = before.pool.entries.installed? address
  evolves : before.network.Evolves run.network

/-- The check is suspended in a dial, with the others before or behind it. -/
def Checking (before : PoolRun) (deeds : List Occurrence) (ends : List (Option ConnectionId))
    (run : PoolRun) : Prop :=
  ∃ done address later, before.Repairing done (address :: later) ends run ∧
    run.duty = .check address later ∧ deeds = (done ++ [address]).map .dial

theorem missing_eq (run : PoolRun) : run.missing = run.vacant := by
  refine List.filter_congr fun address _ => ?_
  unfold isVacant
  cases run.pool.entries.installed? address <;> rfl

theorem isVacant_eq_false_iff {run : PoolRun} {address : String} :
    run.isVacant address = false ↔
      ∃ id, run.pool.entries.installed? address = some id ∧ run.network.isClosed id = false := by
  unfold isVacant
  cases run.pool.entries.installed? address <;> simp

theorem isChecking_rest (run : PoolRun) : run.rest.duty.isChecking = false := by
  unfold rest
  split <;> rfl

namespace Repairing

variable {before run : PoolRun} {done left : List String} {ends : List (Option ConnectionId)}

/-- Nothing but the upkeep installs, and nothing else changes the tracked addresses. -/
theorem of_entries_eq {after : PoolRun} (repairing : before.Repairing done left ends run)
    (isOpen : after.pool.isClosed = false) (sameTracked : after.pool.tracked = run.pool.tracked)
    (sameEntries : after.pool.entries = run.pool.entries)
    (evolves : run.network.Evolves after.network) :
    before.Repairing done left ends after where
  vacant := repairing.vacant
  count := repairing.count
  isOpen := isOpen
  tracked := sameTracked.trans repairing.tracked
  joined := sameEntries ▸ repairing.joined
  others := sameEntries ▸ repairing.others
  evolves := repairing.evolves.trans evolves

/-- An address that is still to be dialed is as vacant as it was. -/
theorem isVacant {address : String} (repairing : before.Repairing done (address :: left) ends run)
    (isNew : address ∉ done) : run.isVacant address = true := by
  have isLeft : address ∈ before.vacant := by
    rw [repairing.vacant]
    exact List.mem_append_right _ List.mem_cons_self
  have wasVacant := (List.mem_filter.mp isLeft).2
  unfold PoolRun.isVacant at wasVacant ⊢
  rw [repairing.others address isNew]
  rw [Option.all_eq_true] at wasVacant ⊢
  exact fun id installed => repairing.evolves.isClosed id (wasVacant id installed)

/-- A dial has ended. Nothing gives way to its connection but one that has closed. -/
theorem takeDialed {address : String} (repairing : before.Repairing done (address :: left) ends run)
    (isNew : address ∉ done) (dialEnd : Option ConnectionId) :
    before.Repairing (done ++ [address]) left (ends ++ [dialEnd])
        (run.takeDialed address dialEnd) ∧
      (run.takeDialed address dialEnd).network = run.network := by
  obtain ⟨entries, isTaken, areEntries⟩ :=
    takeDialed_of_isVacant repairing.isOpen (repairing.isVacant isNew) dialEnd
  rw [repairing.others address isNew] at areEntries
  obtain ⟨joined, others⟩ := settled_concat
    (fun address dialEnd => dialEnd.or (before.pool.entries.installed? address)) repairing.count
    isNew repairing.joined repairing.others areEntries
  rw [isTaken]
  refine ⟨?_, rfl⟩
  constructor
  · rw [repairing.vacant, List.append_cons]
  · simp [repairing.count]
  · exact repairing.isOpen
  · exact repairing.tracked
  · exact joined
  · exact others
  · exact repairing.evolves

theorem repaired (repairing : before.Repairing done [] ends run) :
    before.Repaired (done.map .dial) ends run.rest := by
  have isDone : before.vacant = done := repairing.vacant.trans (List.append_nil done)
  rw [← isDone] at repairing ⊢
  constructor
  · rfl
  · exact repairing.count
  · rw [pool_rest]
    exact repairing.tracked
  · rw [pool_rest]
    exact repairing.joined
  · rw [pool_rest]
    exact repairing.others

/-- An open pool goes on with the next vacant address, or comes to the end of the check. -/
theorem continueCheck (repairing : before.Repairing done left ends run) :
    let after := run.continueCheck left
    ∃ deeds, run.Does deeds after ∧
      (before.Checking (done.map .dial ++ deeds) ends after ∨
        after.duty.isChecking = false ∧ before.Repaired (done.map .dial ++ deeds) ends after) := by
  cases left with
  | nil =>
      refine ⟨[], run.does_rest, .inr ⟨run.isChecking_rest, ?_⟩⟩
      rw [List.append_nil]
      exact repairing.repaired
  | cons address later =>
      have isDial : run.continueCheck (address :: later) =
          run.dial address (.check address later) := by
        rw [PoolRun.continueCheck, if_neg (by simp [repairing.isOpen])]
      dsimp only
      rw [isDial]
      refine ⟨[.dial address], run.does_dial address _, .inl ⟨done, address, later, ?_, rfl, ?_⟩⟩
      · exact repairing.of_entries_eq repairing.isOpen rfl rfl (run.network.evolves_note _)
      · rw [List.map_append]
        rfl

end Repairing

/-- If all dials have succeeded and no connection has closed meanwhile, no tracked address is left
without a connection that could be used. -/
theorem Repaired.exists_open {before after : PoolRun} {deeds : List Occurrence}
    {ends : List (Option ConnectionId)} (repaired : before.Repaired deeds ends after)
    (succeed : none ∉ ends)
    (areOpened : ∀ id, some id ∈ ends → before.network.isClosed id = false)
    (noneCloses : ∀ id, after.network.isClosed id = true → before.network.isClosed id = true)
    {address : String} (isTracked : address ∈ after.pool.tracked) :
    ∃ id, after.pool.entries.installed? address = some id ∧
      after.network.isClosed id = false := by
  have staysOpen {id : ConnectionId} (wasOpen : before.network.isClosed id = false) :
      after.network.isClosed id = false := by
    by_contra isClosed
    rw [noneCloses id (by simpa using isClosed)] at wasOpen
    cases wasOpen
  rw [repaired.tracked] at isTracked
  cases wasVacant : before.isVacant address with
  | true =>
      have isVacant : address ∈ before.vacant := List.mem_filter.mpr ⟨isTracked, wasVacant⟩
      obtain ⟨dialEnd, isEnded⟩ : ∃ dialEnd, (address, dialEnd) ∈ before.vacant.zip ends := by
        rw [← List.map_fst_zip (Nat.le_of_eq repaired.count.symm)] at isVacant
        obtain ⟨⟨_, dialEnd⟩, isEnded, rfl⟩ := List.mem_map.mp isVacant
        exact ⟨dialEnd, isEnded⟩
      have isEnd := (List.of_mem_zip isEnded).2
      obtain ⟨id, rfl⟩ := Option.ne_none_iff_exists'.mp (ne_of_mem_of_not_mem isEnd succeed)
      exact ⟨id, repaired.joined address (some id) isEnded, staysOpen (areOpened id isEnd)⟩
  | false =>
      obtain ⟨id, installed, wasOpen⟩ := isVacant_eq_false_iff.mp wasVacant
      have isOccupied : address ∉ before.vacant := fun isVacant => by
        rw [(List.mem_filter.mp isVacant).2] at wasVacant
        cases wasVacant
      exact ⟨id, (repaired.others address isOccupied).trans installed, staysOpen wasOpen⟩

end PoolRun

namespace Checks

variable {dialer : Dialer} {before after : Course} {deeds : List Occurrence}
  {ends : List (Option ConnectionId)}

theorem reaches (checks : Checks dialer before after deeds ends) : Reaches dialer before after := by
  induction checks with
  | begins step => exact .single ⟨_, step⟩
  | meanwhile _ _ step _ inductionHypothesis => exact inductionHypothesis.tail ⟨_, step⟩
  | dialed _ _ step _ inductionHypothesis => exact inductionHypothesis.tail ⟨_, step⟩

/-- As long as the pool is open, a check is suspended in one of its dials or is over. -/
theorem stage (checks : Checks dialer before after deeds ends) (sound : before.Sound)
    (distinct : before.run.pool.tracked.Nodup) (isOpen : after.run.pool.isClosed = false) :
    before.run.Checking deeds ends after.run ∨
      after.run.duty.isChecking = false ∧ before.run.Repaired deeds ends after.run := by
  have wasOpen := checks.reaches.isOpen_of_isOpen sound isOpen
  have distinctVacant : before.run.vacant.Nodup := distinct.filter _
  induction checks with
  | begins step =>
      cases step with
      | check =>
          have repairing : before.run.Repairing [] before.run.vacant [] before.run :=
            ⟨rfl, rfl, wasOpen, rfl, nofun, fun _ _ => rfl, .refl before.run.network⟩
          have isBeginning : before.run.beginCheck =
              before.run.continueCheck before.run.vacant := by
            rw [PoolRun.beginCheck, PoolRun.missing_eq]
          obtain ⟨deeds, does, stage⟩ := repairing.continueCheck
          dsimp only
          rw [isBeginning, does.since_eq]
          exact stage
  | @meanwhile between _ _ _ _ checks isChecking step isOther inductionHypothesis =>
      have soundBetween := checks.reaches.sound sound
      obtain ⟨_, changes⟩ := step.changes soundBetween
      have isOpenBetween := step.isOpen_of_isOpen soundBetween isOpen
      have isBusy : between.run.duty ≠ .idle := by
        intro isIdle
        rw [isIdle] at isChecking
        cases isChecking
      rcases inductionHypothesis isOpenBetween with checking | ⟨isOver, _⟩
      · obtain ⟨done, address, later, repairing, duty, areDeeds⟩ := checking
        obtain ⟨sameEntries, sameTracked⟩ := step.entries_of_isOther isOther
        refine .inl ⟨done, address, later, ?_, ?_, areDeeds⟩
        · exact repairing.of_entries_eq isOpen sameTracked sameEntries changes.affects.evolves
        · rw [step.duty_of_isBusy isBusy isOther, duty]
      · rw [isOver] at isChecking
        cases isChecking
  | @dialed between _ _ _ _ dialEnd checks isChecking step isEnded inductionHypothesis =>
      have isOpenBetween := step.isOpen_of_isOpen (checks.reaches.sound sound) isOpen
      rcases inductionHypothesis isOpenBetween with checking | ⟨isOver, _⟩
      · obtain ⟨done, address, later, repairing, duty, areDeeds⟩ := checking
        have isNew : address ∉ done := by
          rw [repairing.vacant, List.nodup_middle, List.nodup_cons] at distinctVacant
          exact fun isDone => distinctVacant.1 (List.mem_append_left _ isDone)
        obtain ⟨taken, sameNetwork⟩ := repairing.takeDialed isNew dialEnd
        obtain ⟨deeds, does, stage⟩ := taken.continueCheck
        have isAfter : between.run.finishDial dialEnd =
            (between.run.takeDialed address dialEnd).continueCheck later := by
          rw [PoolRun.finishDial, duty]
        rw [step.run_of_dialEnd isEnded, isAfter, ← sameNetwork, does.since_eq, areDeeds]
        exact stage
      · rw [isOver] at isChecking
        cases isChecking

end Checks

/-- A health check repairs what it finds, wherever it begins and whatever was reported before. It
dials the tracked addresses that have no connection or a closed one, and does nothing else: a dial
that succeeds leaves its connection installed, and one that fails leaves the entry as it was, as do
all others. If all dials succeed and no connection closes meanwhile, no tracked address is left
without a connection. -/
theorem repairs_of_checks {dialer : Dialer} {addresses : List String} {options : PoolOptions}
    {start before after : Course} {deeds : List Occurrence} {ends : List (Option ConnectionId)}
    (opens : Opens dialer addresses options start) (reaches : Reaches dialer start before)
    (distinct : before.run.pool.tracked.Nodup) (checks : Checks dialer before after deeds ends)
    (isOver : after.run.duty.isChecking = false) (isOpen : after.run.pool.isClosed = false) :
    before.run.Repaired deeds ends after.run ∧
      (none ∉ ends → (∀ id, some id ∈ ends → before.run.network.isClosed id = false) →
        (∀ id, after.run.network.isClosed id = true → before.run.network.isClosed id = true) →
        ∀ address ∈ after.run.pool.tracked, ∃ id,
          after.run.pool.entries.installed? address = some id ∧
            after.run.network.isClosed id = false) := by
  have repaired : before.run.Repaired deeds ends after.run := by
    rcases checks.stage (reaches.sound opens.sound) distinct isOpen with
      ⟨_, _, _, _, duty, _⟩ | ⟨_, repaired⟩
    · rw [duty] at isOver
      cases isOver
    · exact repaired
  refine ⟨repaired, fun succeed areOpened noneCloses address isTracked => ?_⟩
  exact repaired.exists_open succeed areOpened noneCloses isTracked

/-- The dial that is under way succeeds. -/
theorem Checks.open {before course : Course} {deeds : List Occurrence}
    {ends : List (Option ConnectionId)} {address : String}
    (checks : Checks .fresh before course deeds ends)
    (isChecking : course.run.duty.isChecking = true)
    (isDialed : course.run.duty.dialing? = some address)
    (known : ∀ id ∈ course.handed, course.run.network.Knows id) (state : ConnectionState) :
    let (network, id) := course.run.network.openConnection address state course.run.pool.queue
    Checks .fresh before (course.open state)
      (deeds ++ (course.open state).run.network.since network) (ends ++ [some id]) := by
  obtain ⟨evolves, isKnown, isFresh⟩ :=
    Dialer.fresh_openConnection known address state course.run.pool.queue
  unfold Course.open
  simp only [isDialed]
  exact .dialed (.meanwhile checks isChecking (.surroundings evolves) rfl) isChecking
    (.opened isDialed isKnown isFresh) rfl

/-- Two connections end, and only the health check finds out. One of its dials fails. -/
theorem repaired_of_losses :
    ∃ start before after deeds ends, Opens .fresh ["a", "b", "c"] .default start ∧
      Reaches .fresh start before ∧ before.run.pool.tracked.Nodup ∧
      Checks .fresh before after deeds ends ∧ before.run.vacant = ["a", "c"] ∧
      after.run.pool.entries = [("a", ⟨0⟩), ("b", ⟨1⟩), ("c", ⟨3⟩)] ∧
      deeds = [.dial "a", .dial "c"] ∧ ends = [none, some ⟨3⟩] ∧
      before.run.Repaired deeds ends after.run := by
  obtain ⟨start, before, after, deeds, ends, opens, reaches, distinct, checks, isOver, isOpen,
      areVacant, areEntries, told, ended⟩ : ∃ start before after deeds ends,
      Opens .fresh ["a", "b", "c"] .default start ∧ Reaches .fresh start before ∧
      before.run.pool.tracked.Nodup ∧ Checks .fresh before after deeds ends ∧
      after.run.duty.isChecking = false ∧ after.run.pool.isClosed = false ∧
      before.run.vacant = ["a", "c"] ∧
      after.run.pool.entries = [("a", ⟨0⟩), ("b", ⟨1⟩), ("c", ⟨3⟩)] ∧
      deeds = [.dial "a", .dial "c"] ∧ ends = [none, some ⟨3⟩] := by
    have opens : Opens .fresh ["a", "b", "c"] .default _ :=
      @Opens.intro _ _ _ .empty _ _ _ _ rfl
        (.open nofun .connected
          (.open (by decide) .connected (.open (by decide) .connecting .done))) rfl
    have evolves (network : Network) :
        network.Evolves ((network.hangUp ⟨0⟩).hangUp ⟨2⟩) :=
      (network.evolves_hangUp ⟨0⟩).trans (Network.evolves_hangUp _ ⟨2⟩)
    refine ⟨_, _, _, _, _, opens, .single ⟨_, .surroundings (evolves _)⟩, ?_,
      .open (.dialed (.begins (.check rfl)) rfl (.refused rfl) rfl) rfl rfl ?_ .connected,
      rfl, rfl, rfl, rfl, rfl, rfl⟩
    · decide
    · decide
  exact ⟨start, before, after, deeds, ends, opens, reaches, distinct, checks, areVacant, areEntries,
    told, ended, (repairs_of_checks opens reaches distinct checks isOver isOpen).1⟩

end FailoverPool
