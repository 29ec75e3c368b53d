import FailoverPool.Proofs.Pool.Agreement
import FailoverPool.Proofs.Pool.Closing
import FailoverPool.Proofs.Pool.Deeds
import FailoverPool.Proofs.Pool.Discovery

/-!
An update brings a pool from its tracked addresses to those that were discovered.

`Updates` follows an update from the answer that tells the addresses to its end, while connections
close, callers send requests and the clock goes on. An update is halfway (`Halfway`) before each of
its dials; the tracked addresses and their entries are then as they were, and the last dial is
followed by the switch, all at once. Main statement: `reconciles_of_updates`.
-/

namespace FailoverPool

namespace Pool

/-- The discovered addresses that are not tracked yet. -/
def newcomers (pool : Pool) (discovered : List String) : List String :=
  discovered.filter fun address => !pool.tracked.contains address

/-- The tracked addresses that were not discovered. -/
def leavers (pool : Pool) (discovered : List String) : List String :=
  pool.tracked.filter fun address => !discovered.contains address

variable {pool : Pool} {discovered : List String} {address : String}

theorem mem_newcomers :
    address ∈ pool.newcomers discovered ↔ address ∈ discovered ∧ address ∉ pool.tracked := by
  simp [newcomers]

theorem mem_leavers :
    address ∈ pool.leavers discovered ↔ address ∈ pool.tracked ∧ address ∉ discovered := by
  simp [leavers]

theorem nodup_newcomers (distinct : discovered.Nodup) : (pool.newcomers discovered).Nodup :=
  distinct.filter _

theorem newcomers_eq_nil (areTracked : ∀ address ∈ discovered, address ∈ pool.tracked) :
    pool.newcomers discovered = [] :=
  List.eq_nil_iff_forall_not_mem.mpr fun _ isNewcomer =>
    (mem_newcomers.mp isNewcomer).2 (areTracked _ (mem_newcomers.mp isNewcomer).1)

theorem leavers_eq_nil (areDiscovered : ∀ address ∈ pool.tracked, address ∈ discovered) :
    pool.leavers discovered = [] :=
  List.eq_nil_iff_forall_not_mem.mpr fun _ isLeaver =>
    (mem_leavers.mp isLeaver).2 (areDiscovered _ (mem_leavers.mp isLeaver).1)

end Pool

/-- How the dial under way has ended. -/
def Move.dialEnd? : Move → Option (Option ConnectionId)
  | .refused => some none
  | .opened id => some (some id)
  | _ => none

/-- An update to the discovered addresses, from the answer that tells them on. The list of
occurrences holds what the upkeep has done since, and the other list how its dials have ended. -/
inductive Updates (dialer : Dialer) (before : Course) (discovered : List String) :
    Course → List Occurrence → List (Option ConnectionId) → Prop
  | begins {outcome after} :
      Step dialer before (.answer outcome) after →
      Discovery.addresses? outcome = some discovered →
      Updates dialer before discovered after (after.run.network.since before.run.network) []
  | meanwhile {between after move deeds ends} :
      Updates dialer before discovered between deeds ends →
      between.run.duty.isUpdating = true →
      Step dialer between move after → move.isUpkeep = false →
      Updates dialer before discovered after deeds ends
  | dialed {between after move deeds ends dialEnd} :
      Updates dialer before discovered between deeds ends →
      between.run.duty.isUpdating = true →
      Step dialer between move after → move.dialEnd? = some dialEnd →
      Updates dialer before discovered after
        (deeds ++ after.run.network.since between.run.network) (ends ++ [dialEnd])

namespace PoolRun

/-- An update that is not over: some newcomers are still to be dialed, the others have been, one
after another, and nothing else was done. -/
structure Reconciling (before : PoolRun) (discovered : List String) (deeds : List Occurrence)
    (ends : List (Option ConnectionId)) (after : PoolRun) : Prop where
  isLeft : ends.length < (before.pool.newcomers discovered).length
  deeds : deeds = ((before.pool.newcomers discovered).take (ends.length + 1)).map .dial
  tracked : after.pool.tracked = before.pool.tracked
  entries : ∀ address ∈ before.pool.tracked,
    after.pool.entries.installed? address = before.pool.entries.installed? address

/-- What an update has come to when it is over. -/
structure Reconciled (before : PoolRun) (discovered : List String) (deeds : List Occurrence)
    (ends : List (Option ConnectionId)) (after : PoolRun) : Prop where
  /-- The newcomers were dialed, each once and in order, and nothing else. -/
  dials : deeds.filterMap Occurrence.dialed? = before.pool.newcomers discovered
  count : ends.length = (before.pool.newcomers discovered).length
  tracked : after.pool.tracked = discovered
  kept : ∀ address ∈ before.pool.tracked, address ∈ discovered →
    after.pool.entries.installed? address = before.pool.entries.installed? address
  /-- Only connections of the others were told to close. -/
  closes : ∀ id, some id ∈ deeds.map Occurrence.closes? →
    ∃ address ∈ before.pool.leavers discovered, before.pool.entries.installed? address = some id
  joined : ∀ address dialEnd, (address, dialEnd) ∈ (before.pool.newcomers discovered).zip ends →
    after.pool.entries.installed? address = dialEnd
  left : ∀ address ∈ before.pool.tracked, address ∉ discovered →
    after.pool.entries.installed? address = none ∧
      ∀ id, before.pool.entries.installed? address = some id → after.network.isClosed id = true

/-- No connection of an address that stays is told to close. -/
def Spares (before : PoolRun) (discovered : List String) (deeds : List Occurrence) : Prop :=
  ∀ address ∈ discovered, ∀ id, before.pool.entries.installed? address = some id →
    some id ∉ deeds.map Occurrence.closes?

/-- A connection that leaves with one address would have to stay with another. -/
theorem Reconciled.spares {before after : PoolRun} {discovered : List String}
    {deeds : List Occurrence} {ends : List (Option ConnectionId)}
    (reconciled : before.Reconciled discovered deeds ends after)
    (agrees : before.pool.entries.AgreesWith before.network) :
    before.Spares discovered deeds := by
  intro address isDiscovered id installed isClosed
  obtain ⟨other, isLeaver, installedOther⟩ := reconciled.closes id isClosed
  have same : other = address :=
    (agrees other id installedOther).symm.trans (agrees address id installed)
  exact (Pool.mem_leavers.mp isLeaver).2 (same ▸ isDiscovered)

/-- The addresses `done` have been dialed, those `left` have not. -/
structure Halfway (before : PoolRun) (discovered done left : List String)
    (ends : List (Option ConnectionId)) (run : PoolRun) : Prop where
  newcomers : before.pool.newcomers discovered = done ++ left
  count : ends.length = done.length
  isOpen : run.pool.isClosed = false
  tracked : run.pool.tracked = before.pool.tracked
  joined : ∀ address dialEnd, (address, dialEnd) ∈ done.zip ends →
    run.pool.entries.installed? address = dialEnd
  others : ∀ address, address ∉ done →
    run.pool.entries.installed? address = before.pool.entries.installed? address
  evolves : before.network.Evolves run.network

/-- The update is suspended in a dial, with the others before or behind it. -/
def Suspended (before : PoolRun) (discovered : List String) (deeds : List Occurrence)
    (ends : List (Option ConnectionId)) (run : PoolRun) : Prop :=
  ∃ done address later, before.Halfway discovered done (address :: later) ends run ∧
    run.duty = .update address later before.pool.tracked discovered ∧
    deeds = (done ++ [address]).map .dial

section

variable {before run : PoolRun} {discovered done left : List String}
  {ends : List (Option ConnectionId)}

/-- Nothing but the upkeep installs, and nothing else changes the tracked addresses. -/
theorem Halfway.of_entries_eq {after : PoolRun}
    (halfway : before.Halfway discovered done left ends run)
    (isOpen : after.pool.isClosed = false) (sameTracked : after.pool.tracked = run.pool.tracked)
    (sameEntries : after.pool.entries = run.pool.entries)
    (evolves : run.network.Evolves after.network) :
    before.Halfway discovered done left ends after where
  newcomers := halfway.newcomers
  count := halfway.count
  isOpen := isOpen
  tracked := sameTracked.trans halfway.tracked
  joined := sameEntries ▸ halfway.joined
  others := sameEntries ▸ halfway.others
  evolves := halfway.evolves.trans evolves

theorem Suspended.reconciling {deeds : List Occurrence}
    (suspended : before.Suspended discovered deeds ends run) :
    before.Reconciling discovered deeds ends run := by
  obtain ⟨done, address, later, halfway, _, areDeeds⟩ := suspended
  constructor
  · simp [halfway.newcomers, halfway.count]
  · rw [areDeeds, halfway.newcomers, halfway.count, List.take_append,
      List.take_of_length_le (Nat.le_succ _), Nat.add_sub_cancel_left]
    rfl
  · exact halfway.tracked
  · intro other isTracked
    apply halfway.others
    intro isDone
    have isNewcomer : other ∈ before.pool.newcomers discovered := by
      rw [halfway.newcomers]
      exact List.mem_append_left _ isDone
    exact (Pool.mem_newcomers.mp isNewcomer).2 isTracked

theorem Halfway.mem_newcomers (halfway : before.Halfway discovered done left ends run)
    {address : String} (isDone : address ∈ done) :
    address ∈ discovered ∧ address ∉ before.pool.tracked := by
  apply Pool.mem_newcomers.mp
  rw [halfway.newcomers]
  exact List.mem_append_left _ isDone

/-- The entry of a tracked address is as it was. -/
theorem Halfway.installed?_of_tracked (halfway : before.Halfway discovered done left ends run)
    {address : String} (isTracked : address ∈ before.pool.tracked) :
    run.pool.entries.installed? address = before.pool.entries.installed? address :=
  halfway.others address fun isDone => (halfway.mem_newcomers isDone).2 isTracked

/-- One more of the dials for different addresses has ended. What holds of the ends of dials and of
the addresses without one still does. -/
theorem settled_concat (settles : String → Option ConnectionId → Option ConnectionId)
    {origin former entry : String → Option ConnectionId} {address : String}
    {dialEnd : Option ConnectionId} (count : ends.length = done.length) (isNew : address ∉ done)
    (joined : ∀ other otherEnd, (other, otherEnd) ∈ done.zip ends →
      former other = settles other otherEnd)
    (others : ∀ other, other ∉ done → former other = origin other)
    (areEntries : ∀ other,
      entry other = if address = other then settles address dialEnd else former other) :
    (∀ other otherEnd, (other, otherEnd) ∈ (done ++ [address]).zip (ends ++ [dialEnd]) →
        entry other = settles other otherEnd) ∧
      ∀ other, other ∉ done ++ [address] → entry other = origin other := by
  constructor
  · intro other otherEnd isEnded
    rw [List.zip_append count.symm, List.mem_append] at isEnded
    rw [areEntries]
    rcases isEnded with isEarlier | isLast
    · have different : address ≠ other := fun same =>
        isNew (same ▸ (List.of_mem_zip isEarlier).1)
      rw [if_neg different]
      exact joined other otherEnd isEarlier
    · obtain ⟨rfl, rfl⟩ : other = address ∧ otherEnd = dialEnd := by simpa using isLast
      rw [if_pos rfl]
  · intro other isOther
    rw [List.mem_append, not_or, List.mem_singleton] at isOther
    rw [areEntries, if_neg (Ne.symm isOther.2)]
    exact others other isOther.1

/-- A dial has ended. The newcomer had no entry, so that nothing gives way to its connection. -/
theorem Halfway.takeDialed {address : String}
    (halfway : before.Halfway discovered done (address :: left) ends run)
    (isFree : before.pool.entries.installed? address = none) (isNew : address ∉ done)
    (dialEnd : Option ConnectionId) :
    before.Halfway discovered (done ++ [address]) left (ends ++ [dialEnd])
        (run.takeDialed address dialEnd) ∧
      (run.takeDialed address dialEnd).network = run.network := by
  have stillFree : run.pool.entries.installed? address = none :=
    (halfway.others address isNew).trans isFree
  obtain ⟨entries, isTaken, areEntries⟩ :=
    takeDialed_of_isVacant halfway.isOpen (by rw [isVacant, stillFree]; rfl) dialEnd
  rw [stillFree, Option.or_none] at areEntries
  obtain ⟨joined, others⟩ := settled_concat (fun _ dialEnd => dialEnd) halfway.count isNew
    halfway.joined halfway.others areEntries
  rw [isTaken]
  refine ⟨?_, rfl⟩
  constructor
  · rw [halfway.newcomers, List.append_cons]
  · simp [halfway.count]
  · exact halfway.isOpen
  · exact halfway.tracked
  · exact joined
  · exact others
  · exact halfway.evolves

end

theorem isUpdating_rest (run : PoolRun) : run.rest.duty.isUpdating = false := by
  unfold rest
  split <;> rfl

theorem beginUpdate_eq (run : PoolRun) (discovered : List String) :
    run.beginUpdate discovered =
      run.continueUpdate run.pool.tracked discovered (run.pool.newcomers discovered) := by
  unfold beginUpdate
  dsimp only
  split
  · next same =>
    -- Nothing is left to do, and the tracked addresses give way to themselves.
    subst same
    rw [Pool.newcomers_eq_nil fun _ isTracked => isTracked, continueUpdate, finishUpdate]
    rw [show run.pool.tracked.filter _ = [] from
      run.pool.leavers_eq_nil fun _ isTracked => isTracked]
    rfl
  · rfl

/-- If only the order is new, the update is over with its beginning. -/
theorem beginUpdate_of_perm {run : PoolRun} {discovered : List String}
    (isReordered : discovered.Perm run.pool.tracked) :
    run.beginUpdate discovered =
      ({ run with pool := { run.pool with tracked := discovered } } : PoolRun).rest := by
  have noNewcomers : run.pool.newcomers discovered = [] :=
    Pool.newcomers_eq_nil fun _ isDiscovered => isReordered.mem_iff.mp isDiscovered
  rw [beginUpdate_eq, noNewcomers, continueUpdate, finishUpdate]
  rw [show run.pool.tracked.filter _ = [] from
    run.pool.leavers_eq_nil fun _ isTracked => isReordered.mem_iff.mpr isTracked]
  rfl

variable {before run : PoolRun} {discovered done left : List String}
  {ends : List (Option ConnectionId)}

/-- All newcomers have been dialed: the others leave, and the discovered addresses are tracked. -/
theorem Halfway.finishUpdate (halfway : before.Halfway discovered done [] ends run)
    (knows : before.KnowsInstalled) :
    ∃ deeds, run.Does deeds (run.finishUpdate before.pool.tracked discovered) ∧
      before.Reconciled discovered (done.map .dial ++ deeds) ends
        (run.finishUpdate before.pool.tracked discovered) := by
  have areNewcomers : before.pool.newcomers discovered = done :=
    halfway.newcomers.trans (List.append_nil done)
  let removed := run.removeAll (before.pool.leavers discovered)
  let switched : PoolRun := { removed with pool := { removed.pool with tracked := discovered } }
  have isFinish : run.finishUpdate before.pool.tracked discovered = switched.rest := rfl
  obtain ⟨deeds, acts, areLeavers⟩ := run.acts_removeAll (before.pool.leavers discovered)
  have isRemoved (address : String) :
      switched.rest.pool.entries.installed? address =
        if address ∈ before.pool.leavers discovered then none
        else run.pool.entries.installed? address := by
    rw [pool_rest]
    exact run.installed?_removeAll (before.pool.leavers discovered) address
  have does : run.Does deeds switched.rest := by
    simpa using Does.after_acts switched acts switched.does_rest
  rw [isFinish]
  refine ⟨deeds, does, ?_⟩
  constructor
  · have noDials : deeds.filterMap Occurrence.dialed? = [] := by
      rw [List.filterMap_eq_nil_iff]
      intro occurrence isDeed
      obtain ⟨_, _, _, _, isClose⟩ := areLeavers occurrence isDeed
      cases occurrence with
      | closed => rfl
      | dial | refused | opened | sent => cases isClose
    rw [List.filterMap_append, noDials, areNewcomers, List.append_nil, List.filterMap_map]
    exact List.filterMap_some
  · rw [areNewcomers]
    exact halfway.count
  · rw [pool_rest]
  · intro address isTracked isDiscovered
    rw [isRemoved, if_neg fun isLeaver => (Pool.mem_leavers.mp isLeaver).2 isDiscovered]
    exact halfway.installed?_of_tracked isTracked
  · intro id isClosed
    rw [List.map_append, List.mem_append] at isClosed
    rcases isClosed with isDial | isDeed
    · simp [Occurrence.closes?] at isDial
    · -- A leaver is tracked, so that its connection was installed before the update.
      obtain ⟨occurrence, isDeed, isClose⟩ := List.mem_map.mp isDeed
      obtain ⟨address, isLeaver, other, installed, isOther⟩ := areLeavers occurrence isDeed
      rw [halfway.installed?_of_tracked (Pool.mem_leavers.mp isLeaver).1] at installed
      rw [isClose, Option.some.injEq] at isOther
      exact ⟨address, isLeaver, isOther ▸ installed⟩
  · intro address dialEnd isEnded
    rw [areNewcomers] at isEnded
    have isDiscovered := (halfway.mem_newcomers (List.of_mem_zip isEnded).1).1
    rw [isRemoved, if_neg fun isLeaver => (Pool.mem_leavers.mp isLeaver).2 isDiscovered]
    exact halfway.joined address dialEnd isEnded
  · intro address isTracked isLost
    have isLeaver : address ∈ before.pool.leavers discovered :=
      Pool.mem_leavers.mpr ⟨isTracked, isLost⟩
    refine ⟨by rw [isRemoved, if_pos isLeaver], fun id installed => ?_⟩
    rw [isClosed_rest]
    apply isClosed_removeAll isLeaver
    · rw [halfway.installed?_of_tracked isTracked]
      exact installed
    · exact halfway.evolves.knows id (knows address id installed)

/-- An open pool goes on with the next newcomer, or comes to the end of the update. -/
theorem Halfway.continueUpdate (halfway : before.Halfway discovered done left ends run)
    (knows : before.KnowsInstalled) :
    let after := run.continueUpdate before.pool.tracked discovered left
    ∃ deeds, run.Does deeds after ∧
      (before.Suspended discovered (done.map .dial ++ deeds) ends after ∨
        after.duty.isUpdating = false ∧
          before.Reconciled discovered (done.map .dial ++ deeds) ends after) := by
  cases left with
  | nil =>
      obtain ⟨deeds, does, reconciled⟩ := halfway.finishUpdate knows
      exact ⟨deeds, does, .inr ⟨isUpdating_rest _, reconciled⟩⟩
  | cons address later =>
      have isDial : run.continueUpdate before.pool.tracked discovered (address :: later) =
          run.dial address (.update address later before.pool.tracked discovered) := by
        rw [PoolRun.continueUpdate, if_neg (by simp [halfway.isOpen])]
      dsimp only
      rw [isDial]
      refine ⟨[.dial address], run.does_dial address _, .inl ⟨done, address, later, ?_, rfl, ?_⟩⟩
      · exact halfway.of_entries_eq halfway.isOpen rfl rfl (run.network.evolves_note _)
      · rw [List.map_append]
        rfl

end PoolRun

theorem Step.run_of_dialEnd {dialer : Dialer} {before after : Course} {move : Move}
    {dialEnd : Option ConnectionId} (step : Step dialer before move after)
    (isEnded : move.dialEnd? = some dialEnd) : after.run = before.run.finishDial dialEnd := by
  cases step with
  | refused | opened =>
      cases isEnded
      rfl
  | surroundings | select | request | event | check | discovery | answer | close | release =>
      cases isEnded

namespace Updates

variable {dialer : Dialer} {before after : Course} {discovered : List String}
  {deeds : List Occurrence} {ends : List (Option ConnectionId)}

theorem reaches (updates : Updates dialer before discovered after deeds ends) :
    Reaches dialer before after := by
  induction updates with
  | begins step _ => exact .single ⟨_, step⟩
  | meanwhile _ _ step _ inductionHypothesis => exact inductionHypothesis.tail ⟨_, step⟩
  | dialed _ _ step _ inductionHypothesis => exact inductionHypothesis.tail ⟨_, step⟩

/-- An update begins with an answer that was waited for, and that has told no address twice. -/
theorem origin (updates : Updates dialer before discovered after deeds ends) :
    before.run.duty.isUpdating = false ∧ discovered.Nodup := by
  induction updates with
  | begins step tells =>
      cases step with
      | answer _ isAsked =>
          refine ⟨?_, Discovery.nodup_of_tells tells⟩
          rw [isAsked]
          rfl
  | meanwhile _ _ _ _ inductionHypothesis => exact inductionHypothesis
  | dialed _ _ _ _ inductionHypothesis => exact inductionHypothesis

/-- An update that brings a new order and no new address is over at once. -/
theorem of_perm (updates : Updates dialer before discovered after deeds ends)
    (isReordered : discovered.Perm before.run.pool.tracked) :
    deeds = [] ∧ ends = [] ∧ after.run = PoolRun.rest
      { before.run with pool := { before.run.pool with tracked := discovered } } := by
  induction updates with
  | @begins outcome _ step tells =>
      cases step with
      | answer _ isAsked =>
          have isRest : before.run.finishDiscovery outcome = PoolRun.rest
              { before.run with pool := { before.run.pool with tracked := discovered } } := by
            rw [PoolRun.finishDiscovery, tells]
            exact PoolRun.beginUpdate_of_perm isReordered
          dsimp only
          rw [isRest]
          exact ⟨(PoolRun.does_rest _).since_eq, rfl, rfl⟩
  | meanwhile _ isUpdating _ _ inductionHypothesis =>
      rw [inductionHypothesis.2.2, PoolRun.isUpdating_rest] at isUpdating
      cases isUpdating
  | dialed _ isUpdating _ _ inductionHypothesis =>
      rw [inductionHypothesis.2.2, PoolRun.isUpdating_rest] at isUpdating
      cases isUpdating

/-- As long as the pool is open, an update is suspended in one of its dials or is over. -/
theorem stage (updates : Updates dialer before discovered after deeds ends)
    (sound : before.Sound) (isOpen : after.run.pool.isClosed = false) :
    before.run.Suspended discovered deeds ends after.run ∨
      after.run.duty.isUpdating = false ∧
        before.run.Reconciled discovered deeds ends after.run := by
  have knows := sound.knowsInstalled
  have wasOpen := updates.reaches.isOpen_of_isOpen sound isOpen
  have isFree (address : String) (isNewcomer : address ∈ before.run.pool.newcomers discovered) :
      before.run.pool.entries.installed? address = none := by
    by_contra installed
    obtain ⟨id, installed⟩ := Option.ne_none_iff_exists'.mp installed
    exact (Pool.mem_newcomers.mp isNewcomer).2
      (sound.orderly.tracksInstalled updates.origin.1 wasOpen address id installed)
  have distinct : (before.run.pool.newcomers discovered).Nodup :=
    Pool.nodup_newcomers updates.origin.2
  induction updates with
  | @begins outcome _ step tells =>
      cases step with
      | answer _ _ =>
          have halfway : before.run.Halfway discovered [] (before.run.pool.newcomers discovered) []
              before.run :=
            ⟨rfl, rfl, wasOpen, rfl, nofun, fun _ _ => rfl, .refl before.run.network⟩
          have isBeginning : before.run.finishDiscovery outcome = before.run.continueUpdate
              before.run.pool.tracked discovered (before.run.pool.newcomers discovered) := by
            rw [PoolRun.finishDiscovery, tells]
            exact before.run.beginUpdate_eq discovered
          obtain ⟨deeds, does, stage⟩ := halfway.continueUpdate knows
          dsimp only
          rw [isBeginning, does.since_eq]
          exact stage
  | @meanwhile between _ _ _ _ updates isUpdating step isOther inductionHypothesis =>
      have soundBetween := updates.reaches.sound sound
      obtain ⟨_, changes⟩ := step.changes soundBetween
      have isOpenBetween := step.isOpen_of_isOpen soundBetween isOpen
      have isBusy : between.run.duty ≠ .idle := by
        intro isIdle
        rw [isIdle] at isUpdating
        cases isUpdating
      rcases inductionHypothesis isOpenBetween with suspended | ⟨isOver, _⟩
      · obtain ⟨done, address, later, halfway, duty, areDeeds⟩ := suspended
        obtain ⟨sameEntries, sameTracked⟩ := step.entries_of_isOther isOther
        refine .inl ⟨done, address, later, ?_, ?_, areDeeds⟩
        · exact halfway.of_entries_eq isOpen sameTracked sameEntries changes.affects.evolves
        · rw [step.duty_of_isBusy isBusy isOther, duty]
      · rw [isOver] at isUpdating
        cases isUpdating
  | @dialed between _ _ _ _ dialEnd updates isUpdating step isEnded inductionHypothesis =>
      have isOpenBetween := step.isOpen_of_isOpen (updates.reaches.sound sound) isOpen
      rcases inductionHypothesis isOpenBetween with suspended | ⟨isOver, _⟩
      · obtain ⟨done, address, later, halfway, duty, areDeeds⟩ := suspended
        have isNewcomer : address ∈ before.run.pool.newcomers discovered := by
          rw [halfway.newcomers]
          exact List.mem_append_right _ List.mem_cons_self
        have isNew : address ∉ done := by
          rw [halfway.newcomers, List.nodup_middle, List.nodup_cons] at distinct
          exact fun isDone => distinct.1 (List.mem_append_left _ isDone)
        obtain ⟨taken, sameNetwork⟩ := halfway.takeDialed (isFree address isNewcomer) isNew dialEnd
        obtain ⟨deeds, does, stage⟩ := taken.continueUpdate knows
        have isAfter : between.run.finishDial dialEnd =
            (between.run.takeDialed address dialEnd).continueUpdate before.run.pool.tracked
              discovered later := by
          rw [PoolRun.finishDial, duty]
        rw [step.run_of_dialEnd isEnded, isAfter, ← sameNetwork, does.since_eq, areDeeds]
        exact stage
      · rw [isOver] at isUpdating
        cases isUpdating

end Updates

/-- An update does what it is for, wherever it begins and whatever happens meanwhile, as long as the
pool is not closed. Until the last newcomer has been dialed the tracked addresses and their entries
are as they were. When the update is over the discovered addresses are tracked: those that were
tracked before have kept their entries, newcomers have what their dials have come to, and the others
have left. No connection of a kept address is told to close, as long as the dialer tells addresses
truly. A new order alone changes nothing else. -/
theorem reconciles_of_updates {dialer : Dialer} {addresses : List String} {options : PoolOptions}
    {start before after : Course} {discovered : List String} {deeds : List Occurrence}
    {ends : List (Option ConnectionId)} (opens : Opens dialer addresses options start)
    (reaches : Reaches dialer start before)
    (updates : Updates dialer before discovered after deeds ends)
    (isOpen : after.run.pool.isClosed = false) :
    (after.run.duty.isUpdating = true →
      before.run.Reconciling discovered deeds ends after.run) ∧
    (after.run.duty.isUpdating = false →
      before.run.Reconciled discovered deeds ends after.run ∧
        (dialer.IsTruthful → before.run.Spares discovered deeds)) ∧
    (discovered.Perm before.run.pool.tracked → after.run.duty.isUpdating = false ∧ deeds = [] ∧
      after.run.pool = { before.run.pool with tracked := discovered } ∧
      after.run.network.connections = before.run.network.connections) := by
  have sound := reaches.sound opens.sound
  have stage := updates.stage sound isOpen
  refine ⟨fun isUpdating => ?_, fun isOver => ?_, fun isReordered => ?_⟩
  · rcases stage with suspended | ⟨isOver, _⟩
    · exact suspended.reconciling
    · rw [isOver] at isUpdating
      cases isUpdating
  · rcases stage with ⟨_, _, _, _, duty, _⟩ | ⟨_, reconciled⟩
    · rw [duty] at isOver
      cases isOver
    · refine ⟨reconciled, fun isTruthful => reconciled.spares ?_⟩
      exact reaches.agrees isTruthful opens.sound (opens.agrees isTruthful)
  · obtain ⟨noDeeds, _, isRest⟩ := updates.of_perm isReordered
    rw [isRest]
    refine ⟨PoolRun.isUpdating_rest _, noDeeds, PoolRun.pool_rest _, ?_⟩
    exact PoolRun.connections_rest _

/-- The dial that is under way succeeds. -/
theorem Updates.open {before course : Course} {discovered : List String} {deeds : List Occurrence}
    {ends : List (Option ConnectionId)} {address : String}
    (updates : Updates .fresh before discovered course deeds ends)
    (isUpdating : course.run.duty.isUpdating = true)
    (isDialed : course.run.duty.dialing? = some address)
    (known : ∀ id ∈ course.handed, course.run.network.Knows id) (state : ConnectionState) :
    let (network, id) := course.run.network.openConnection address state course.run.pool.queue
    Updates .fresh before discovered (course.open state)
      (deeds ++ (course.open state).run.network.since network) (ends ++ [some id]) := by
  obtain ⟨evolves, isKnown, isFresh⟩ :=
    Dialer.fresh_openConnection known address state course.run.pool.queue
  unfold Course.open
  simp only [isDialed]
  exact .dialed (.meanwhile updates isUpdating (.surroundings evolves) rfl) isUpdating
    (.opened isDialed isKnown isFresh) rfl

/-- One of two addresses leaves, and a third joins. -/
theorem reconciled_of_discovery :
    ∃ start before after deeds ends, Opens .fresh ["a", "b"] .default start ∧
      Reaches .fresh start before ∧ Updates .fresh before ["b", "c"] after deeds ends ∧
      after.run.pool.entries = [("b", ⟨1⟩), ("c", ⟨2⟩)] ∧
      deeds = [.dial "c", .closed ⟨0⟩ true] ∧ ends = [some ⟨2⟩] ∧
      before.run.Reconciled ["b", "c"] deeds ends after.run ∧
      before.run.Spares ["b", "c"] deeds := by
  obtain ⟨start, before, after, deeds, ends, opens, reaches, updates, isOpen, isOver, areEntries,
      told, ended⟩ : ∃ start before after deeds ends, Opens .fresh ["a", "b"] .default start ∧
      Reaches .fresh start before ∧ Updates .fresh before ["b", "c"] after deeds ends ∧
      after.run.pool.isClosed = false ∧ after.run.duty.isUpdating = false ∧
      after.run.pool.entries = [("b", ⟨1⟩), ("c", ⟨2⟩)] ∧
      deeds = [.dial "c", .closed ⟨0⟩ true] ∧ ends = [some ⟨2⟩] := by
    have opens : Opens .fresh ["a", "b"] .default _ :=
      @Opens.intro _ _ _ .empty _ _ _ _ rfl
        (.open nofun .connected (.open (by decide) .connecting .done)) rfl
    refine ⟨_, _, _, _, _, opens, .single ⟨_, .discovery "addresses" rfl⟩,
      .open (.begins (.answer (Discovery.telling ["b", "c"]) rfl) ?_) rfl rfl ?_ .connected,
      rfl, rfl, rfl, rfl, rfl⟩
    · exact Discovery.tells_telling (by decide) (by decide)
    · decide
  obtain ⟨reconciled, spares⟩ := (reconciles_of_updates opens reaches updates isOpen).2.1 isOver
  exact ⟨start, before, after, deeds, ends, opens, reaches, updates, areEntries, told, ended,
    reconciled, spares Dialer.isTruthful_fresh⟩

end FailoverPool
