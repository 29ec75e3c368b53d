import FailoverPool.Proofs.Network.News
import FailoverPool.Proofs.Pool.Sound

/-!
How a pool comes to be, as long as connections do not change by themselves.

`Tries` tells how the attempts of a warm-up have ended, one after another. Of the connections that
were opened for one address the pool takes over the last one only: what a construction promises, it
keeps to these (`kept`), and to all of them if no address repeats. Main statement:
`fulfils_of_constructs`.
-/

namespace FailoverPool

/-- An attempt to connect; if it succeeded, with the connection and its state at that time. -/
structure Attempt where
  address : String
  opened : Option (ConnectionId × ConnectionState)

namespace Attempt

def IsConnected (attempt : Attempt) : Prop := ∃ id, attempt.opened = some (id, .connected)

/-- The attempts without a later one that succeeded for the same address. -/
def kept : List Attempt → List Attempt
  | [] => []
  | attempt :: later =>
      if later.any fun other => other.address == attempt.address && other.opened.isSome then
        kept later
      else attempt :: kept later

theorem kept_subset (attempts : List Attempt) : kept attempts ⊆ attempts := by
  induction attempts with
  | nil => exact List.Subset.refl _
  | cons attempt later inductionHypothesis =>
      rw [kept]
      split
      · exact List.subset_cons_of_subset _ inductionHypothesis
      · exact List.cons_subset_cons _ inductionHypothesis

/-- If no address repeats, every attempt is kept. -/
theorem kept_of_nodup {attempts : List Attempt}
    (distinct : (attempts.map Attempt.address).Nodup) : kept attempts = attempts := by
  induction attempts with
  | nil => rfl
  | cons attempt later inductionHypothesis =>
      obtain ⟨isNew, distinctLater⟩ := List.nodup_cons.mp distinct
      rw [kept, if_neg, inductionHypothesis distinctLater]
      intro repeated
      obtain ⟨other, isLater, same⟩ := List.any_eq_true.mp repeated
      rw [Bool.and_eq_true, beq_iff_eq] at same
      exact isNew (List.mem_map.mpr ⟨other, isLater, same.1⟩)

end Attempt

namespace Network

def state? (network : Network) (id : ConnectionId) : Option ConnectionState :=
  (network.connection? id).map (·.state)

/-- The addresses that have been dialed, oldest first. -/
def dials (network : Network) : List String :=
  network.record.toList.filterMap fun entry => entry.2.dialed?

/-- Connections may be opened meanwhile, but those that were known are as they were, and nothing was
dialed. -/
structure Quiet (before after : Network) : Prop where
  knows : ∀ id, before.Knows id → after.Knows id
  state : ∀ id, before.Knows id → after.state? id = before.state? id
  dials : after.dials = before.dials

theorem isConnected_iff_state {network : Network} {id : ConnectionId} :
    network.isConnected id = true ↔ network.state? id = some .connected := by
  unfold isConnected state?
  cases network.connection? id <;> simp

theorem knows_of_state {network : Network} {id : ConnectionId} {state : ConnectionState}
    (isState : network.state? id = some state) : network.Knows id := by
  obtain ⟨_, found, _⟩ := Option.map_eq_some_iff.mp isState
  exact (Array.getElem?_eq_some_iff.mp found).1

theorem dials_note (network : Network) (occurrence : Occurrence) :
    (network.note occurrence).dials = network.dials ++ occurrence.dialed?.toList := by
  cases occurrence with
  | dial | refused | opened | closed | sent => simp [dials, note, Occurrence.dialed?]

theorem dials_dismiss (network : Network) (id : ConnectionId) :
    (network.dismiss id).dials = network.dials := by
  simp [dials, record_dismiss, Occurrence.dialed?]

theorem foldl_dismiss (network : Network) (ids : List ConnectionId) :
    ids.foldl dismiss network = (Pool.closeAll network ids).1 := by
  induction ids generalizing network with
  | nil => rfl
  | cons id later inductionHypothesis => exact inductionHypothesis (network.dismiss id)

theorem dials_closeAll (network : Network) (ids : List ConnectionId) :
    (Pool.closeAll network ids).1.dials = network.dials := by
  induction ids generalizing network with
  | nil => rfl
  | cons id later inductionHypothesis =>
      exact (inductionHypothesis (network.dismiss id)).trans (network.dials_dismiss id)

end Network

/-- Addresses are dialed one after another, and nothing else happens. -/
inductive Tries : Network × WarmUp → List Attempt → Network × WarmUp → Prop where
  | done {warming} : Tries warming [] warming
  | refused {warming after network address later} :
      (warming.1.note (.dial address)).Quiet network →
      Tries (network, warming.2.take network address none) later after →
      Tries warming (⟨address, none⟩ :: later) after
  | opened {warming after network address later id state} :
      (warming.1.note (.dial address)).Quiet network → network.state? id = some state →
      Tries (network, warming.2.take network address (some id)) later after →
      Tries warming (⟨address, some (id, state)⟩ :: later) after

/-- A pool is constructed, or is refused. -/
inductive Constructs (network : Network) (addresses : List String) (options : PoolOptions) :
    List Attempt → Network → Except Error Pool → Prop where
  | refused {error} :
      WarmUp.begin network addresses options = .error error →
      Constructs network addresses options [] network (.error error)
  | tried {begun attempts warmed after result} :
      WarmUp.begin network addresses options = .ok begun →
      Tries begun attempts warmed → attempts.map Attempt.address = addresses →
      warmed.2.finish warmed.1 = (after, result) →
      Constructs network addresses options attempts after result

namespace Tries

variable {before after : Network × WarmUp} {attempts : List Attempt}

theorem state_of_knows (tries : Tries before attempts after) {id : ConnectionId}
    (known : before.1.Knows id) : after.1.state? id = before.1.state? id := by
  induction tries with
  | done => rfl
  | refused quiet _ inductionHypothesis | opened quiet _ _ inductionHypothesis =>
      exact (inductionHypothesis (quiet.knows id known)).trans (quiet.state id known)

/-- Connections are in the states in which they were handed over. -/
theorem state (tries : Tries before attempts after) {attempt : Attempt}
    (isAttempt : attempt ∈ attempts) {id : ConnectionId} {state : ConnectionState}
    (opened : attempt.opened = some (id, state)) : after.1.state? id = some state := by
  induction tries with
  | done => cases isAttempt
  | refused _ _ inductionHypothesis =>
      rcases List.mem_cons.mp isAttempt with rfl | isLater
      · cases opened
      · exact inductionHypothesis isLater
  | opened _ isState tries inductionHypothesis =>
      rcases List.mem_cons.mp isAttempt with rfl | isLater
      · cases opened
        exact (tries.state_of_knows (Network.knows_of_state isState)).trans isState
      · exact inductionHypothesis isLater

theorem addresses (tries : Tries before attempts after) :
    after.2.addresses = before.2.addresses := by
  induction tries with
  | done => rfl
  | refused _ _ inductionHypothesis | opened _ _ _ inductionHypothesis => exact inductionHypothesis

theorem dials (tries : Tries before attempts after) :
    after.1.dials = before.1.dials ++ attempts.map Attempt.address := by
  induction tries with
  | done => exact (List.append_nil _).symm
  | refused quiet _ inductionHypothesis | opened quiet _ _ inductionHypothesis =>
      rw [inductionHypothesis, quiet.dials, Network.dials_note]
      simp [Occurrence.dialed?]

theorem isAlive_iff (tries : Tries before attempts after) :
    after.2.isAlive = true ↔
      before.2.isAlive = true ∨ ∃ attempt ∈ attempts, attempt.IsConnected := by
  induction tries with
  | done => simp
  | refused _ _ inductionHypothesis =>
      rw [inductionHypothesis]
      simp [WarmUp.take, Attempt.IsConnected]
  | @opened _ _ network _ _ id state _ isState _ inductionHypothesis =>
      have connected_iff : network.isConnected id = true ↔ state = .connected := by
        rw [Network.isConnected_iff_state, isState, Option.some.injEq]
      rw [inductionHypothesis]
      simp [WarmUp.take, Attempt.IsConnected, connected_iff, or_assoc]

/-- Addresses that are not tried keep their connections. -/
theorem installed?_of_untouched (tries : Tries before attempts after) {address : String}
    (isUntouched : ∀ attempt ∈ attempts, attempt.address = address → attempt.opened = none) :
    after.2.entries.installed? address = before.2.entries.installed? address := by
  induction tries with
  | done => rfl
  | refused _ _ inductionHypothesis =>
      exact inductionHypothesis fun attempt isLater => isUntouched attempt (.tail _ isLater)
  | opened _ _ _ inductionHypothesis =>
      rw [inductionHypothesis fun attempt isLater => isUntouched attempt (.tail _ isLater)]
      rw [WarmUp.take, Entries.installed?_put, if_neg]
      intro same
      cases isUntouched _ List.mem_cons_self same

theorem installed?_of_kept (tries : Tries before attempts after) {attempt : Attempt}
    (isKept : attempt ∈ Attempt.kept attempts) {id : ConnectionId} {state : ConnectionState}
    (opened : attempt.opened = some (id, state)) :
    after.2.entries.installed? attempt.address = some id := by
  induction tries with
  | done => cases isKept
  | refused _ _ inductionHypothesis =>
      rw [Attempt.kept] at isKept
      split at isKept
      · exact inductionHypothesis isKept
      · rcases List.mem_cons.mp isKept with rfl | isLater
        · cases opened
        · exact inductionHypothesis isLater
  | opened _ _ tries inductionHypothesis =>
      rw [Attempt.kept] at isKept
      split at isKept
      · exact inductionHypothesis isKept
      · next isLast =>
        rcases List.mem_cons.mp isKept with rfl | isLater
        · cases opened
          rw [tries.installed?_of_untouched, WarmUp.take, Entries.installed?_put, if_pos rfl]
          intro other isLater same
          refine Option.not_isSome_iff_eq_none.mp fun isOpened => isLast ?_
          refine List.any_eq_true.mpr ⟨other, isLater, ?_⟩
          rw [Bool.and_eq_true, beq_iff_eq]
          exact ⟨same, isOpened⟩
        · exact inductionHypothesis isLater

end Tries

namespace WarmUp

/-- What cannot be a pool is refused before anything is dialed. -/
theorem begin_of_unfit (network : Network) {addresses : List String} {options : PoolOptions}
    (isUnfit : addresses = [] ∨ options.checkInterval.isZero = true) :
    ∃ fault, WarmUp.begin network addresses options = .error (.config fault) := by
  cases addresses with
  | nil => exact ⟨.noAddresses, rfl⟩
  | cons address later =>
      have isZero := isUnfit.resolve_left (List.cons_ne_nil address later)
      refine ⟨.zeroCheckInterval, ?_⟩
      simp [WarmUp.begin, PoolOptions.validate, isZero, bind, Except.bind]

theorem begin_of_fit (network : Network) {addresses : List String} {options : PoolOptions}
    (isFilled : addresses ≠ []) (isPositive : options.checkInterval.isZero = false) :
    ∃ begun, WarmUp.begin network addresses options = .ok begun ∧
      begun.1.dials = network.dials ∧ begun.2.addresses = addresses ∧ begun.2.isAlive = false := by
  let opened := network.addQueue (eventsPerAddress * addresses.length)
  refine ⟨(opened.1, ⟨addresses, options.normalized, opened.2, [], none, false⟩), ?_, rfl, rfl, rfl⟩
  simp only [WarmUp.begin, List.isEmpty_eq_false_iff.mpr isFilled, PoolOptions.validate, isPositive]
  rfl

/-- A warm-up without a connected connection closes those that it has, and dials nothing more. -/
theorem finish_of_dead {warmUp : WarmUp} (isDead : warmUp.isAlive = false) (network : Network) :
    (warmUp.finish network).2 = .error .noActiveConnection ∧
      (warmUp.finish network).1.dials = network.dials ∧
      ∀ address id, warmUp.entries.installed? address = some id → network.Knows id →
        (warmUp.finish network).1.isClosed id = true := by
  rw [finish, if_neg (by simp [isDead]), Network.foldl_dismiss]
  refine ⟨rfl, network.dials_closeAll _, fun address id installed known => ?_⟩
  exact Pool.isClosed_closeAll (Entries.mem_connections installed) known

theorem finish_of_alive {warmUp : WarmUp} (isAlive : warmUp.isAlive = true) (network : Network) :
    warmUp.finish network = (network, .ok ⟨warmUp.addresses, warmUp.entries, warmUp.fallback, false,
      true, warmUp.queue, warmUp.options⟩) := by
  rw [finish, if_pos isAlive]

end WarmUp

/-- With a connected connection installed, a connected one is chosen. -/
theorem Pool.isConnected_select {pool : Pool} {network : Network} {address : String}
    {id : ConnectionId} (isTracked : address ∈ pool.tracked)
    (installed : pool.entries.installed? address = some id)
    (isConnected : network.isConnected id = true) :
    ∃ chosen, (pool.select network).2 = some chosen ∧ network.isConnected chosen = true := by
  have isCandidate : id ∈ pool.candidates := List.mem_filterMap.mpr ⟨address, isTracked, installed⟩
  unfold select
  cases found : pool.candidates.find? network.isConnected with
  | none =>
      have isNone := List.find?_eq_none.mp found id isCandidate
      exact absurd isConnected isNone
  | some chosen => exact ⟨chosen, rfl, List.find?_some found⟩

/-- What becomes of the connections that count, and of the pool. -/
structure Fulfils (network : Network) (attempts counted : List Attempt) (after : Network)
    (result : Except Error Pool) : Prop where
  dials : after.dials = network.dials ++ attempts.map Attempt.address
  refused_iff : result = .error .noActiveConnection ↔ ∀ attempt ∈ attempts, ¬ attempt.IsConnected
  returned : (∃ attempt ∈ attempts, attempt.IsConnected) → ∃ pool, result = .ok pool
  closed : result = .error .noActiveConnection → ∀ attempt ∈ counted, ∀ id state,
    attempt.opened = some (id, state) → after.isClosed id = true
  installed : ∀ pool, result = .ok pool → ∀ attempt ∈ counted, ∀ id state,
    attempt.opened = some (id, state) → pool.entries.installed? attempt.address = some id
  /-- They are closed with the pool, whenever that is. -/
  released : ∀ pool, result = .ok pool → ∀ attempt ∈ counted, ∀ id state,
    attempt.opened = some (id, state) → ∀ later, after.Evolves later →
      (pool.close later).2.1.isClosed id = true
  selects : ∀ pool, result = .ok pool → (∃ attempt ∈ counted, attempt.IsConnected) →
    ∃ id, (pool.select after).2 = some id ∧ after.isConnected id = true

theorem Tries.fulfils {begun warmed : Network × WarmUp} {attempts : List Attempt}
    {network : Network} (tries : Tries begun attempts warmed)
    (sameDials : begun.1.dials = network.dials)
    (areAddresses : begun.2.addresses = attempts.map Attempt.address)
    (isFresh : begun.2.isAlive = false) :
    Fulfils network attempts (Attempt.kept attempts) (warmed.2.finish warmed.1).1
      (warmed.2.finish warmed.1).2 := by
  have isAlive_iff := tries.isAlive_iff
  simp only [isFresh, Bool.false_eq_true, false_or] at isAlive_iff
  have state {attempt : Attempt} (isKept : attempt ∈ Attempt.kept attempts) {id : ConnectionId}
      {state : ConnectionState} (opened : attempt.opened = some (id, state)) :
      warmed.1.state? id = some state :=
    tries.state (Attempt.kept_subset attempts isKept) opened
  cases isAlive : warmed.2.isAlive with
  | false =>
      obtain ⟨isRefused, dials, closed⟩ := WarmUp.finish_of_dead isAlive warmed.1
      have noneConnected : ∀ attempt ∈ attempts, ¬ attempt.IsConnected := by
        intro attempt isAttempt isConnected
        have alive := isAlive_iff.mpr ⟨attempt, isAttempt, isConnected⟩
        rw [isAlive] at alive
        cases alive
      rw [isRefused]
      constructor
      · rw [dials, tries.dials, sameDials]
      · exact ⟨fun _ => noneConnected, fun _ => rfl⟩
      · rintro ⟨attempt, isAttempt, isConnected⟩
        exact absurd isConnected (noneConnected attempt isAttempt)
      · intro _ attempt isKept id _ opened
        exact closed _ id (tries.installed?_of_kept isKept opened)
          (Network.knows_of_state (state isKept opened))
      · exact nofun
      · exact nofun
      · exact nofun
  | true =>
      rw [WarmUp.finish_of_alive isAlive]
      constructor
      · rw [tries.dials, sameDials]
      · refine ⟨nofun, fun noneConnected => ?_⟩
        obtain ⟨attempt, isAttempt, isConnected⟩ := isAlive_iff.mp isAlive
        exact absurd isConnected (noneConnected attempt isAttempt)
      · exact fun _ => ⟨_, rfl⟩
      · exact nofun
      · rintro _ ⟨⟩ attempt isKept id _ opened
        exact tries.installed?_of_kept isKept opened
      · rintro _ ⟨⟩ attempt isKept id _ opened later evolves
        exact Pool.isClosed_close (tries.installed?_of_kept isKept opened)
          (evolves.knows id (Network.knows_of_state (state isKept opened)))
      · rintro _ ⟨⟩ ⟨attempt, isKept, id, opened⟩
        apply Pool.isConnected_select _ (tries.installed?_of_kept isKept opened)
        · exact Network.isConnected_iff_state.mpr (state isKept opened)
        · rw [tries.addresses, areAddresses]
          exact List.mem_map_of_mem (Attempt.kept_subset attempts isKept)

/-- A construction does what it promises to the connections that are kept, which are all of them
if no address repeats. What cannot be a pool is refused with nothing done. -/
theorem fulfils_of_constructs {network after : Network} {addresses : List String}
    {options : PoolOptions} {attempts : List Attempt} {result : Except Error Pool}
    (constructs : Constructs network addresses options attempts after result) :
    (addresses = [] ∨ options.checkInterval.isZero = true →
      after = network ∧ ∃ fault, result = .error (.config fault)) ∧
    (addresses ≠ [] → options.checkInterval.isZero = false →
      attempts.map Attempt.address = addresses ∧
        Fulfils network attempts (Attempt.kept attempts) after result) ∧
    (addresses.Nodup → Attempt.kept attempts = attempts) := by
  cases constructs with
  | @refused error isRefused =>
      refine ⟨fun isUnfit => ⟨rfl, ?_⟩, fun isFilled isPositive => ?_, fun _ => rfl⟩
      · obtain ⟨fault, isError⟩ := WarmUp.begin_of_unfit network isUnfit
        rw [isRefused] at isError
        cases isError
        exact ⟨fault, rfl⟩
      · obtain ⟨_, isBegun, _⟩ := WarmUp.begin_of_fit network isFilled isPositive
        rw [isRefused] at isBegun
        cases isBegun
  | @tried begun _ warmed _ _ isBegun tries areAddresses isFinished =>
      refine ⟨fun isUnfit => ?_, fun isFilled isPositive => ⟨areAddresses, ?_⟩, fun distinct => ?_⟩
      · obtain ⟨_, isError⟩ := WarmUp.begin_of_unfit network isUnfit
        rw [isBegun] at isError
        cases isError
      · obtain ⟨_, isSame, sameDials, isWarmUp, isFresh⟩ :=
          WarmUp.begin_of_fit network isFilled isPositive
        rw [isBegun] at isSame
        cases isSame
        have fulfils := tries.fulfils sameDials (isWarmUp.trans areAddresses.symm) isFresh
        rw [isFinished] at fulfils
        exact fulfils
      · exact Attempt.kept_of_nodup (areAddresses.symm ▸ distinct)

theorem Network.quiet_openConnection (network : Network) (address : String)
    (state : ConnectionState) (queue : QueueId) :
    network.Quiet (network.openConnection address state queue).1 where
  knows := (network.evolves_openConnection address state queue).1.knows
  state id known := by rw [state?, connection?_openConnection known, state?]
  dials := by
    unfold openConnection
    rw [dials, record_emit]
    exact (dials_note _ _).trans (List.append_nil _)

/-- The next address is connected. -/
theorem Tries.open {warming after : Network × WarmUp} {address : String} {later : List Attempt}
    (state : ConnectionState)
    (tries :
      let (network, id) := (warming.1.note (.dial address)).openConnection address state
        warming.2.queue
      Tries (network, warming.2.take network address (some id)) later after) :
    Tries warming (⟨address, some (⟨warming.1.connections.size⟩, state)⟩ :: later) after := by
  let dialed := warming.1.note (.dial address)
  refine .opened (dialed.quiet_openConnection address state warming.2.queue) ?_ tries
  exact (dialed.connection?_openConnection_new address state warming.2.queue).1

/-- Only the second of two addresses is connected. -/
theorem fulfils_of_second :
    ∃ attempts after pool, Constructs .empty ["a", "b"] .default attempts after (.ok pool) ∧
      attempts = [⟨"a", some (⟨0⟩, .connecting)⟩, ⟨"b", some (⟨1⟩, .connected)⟩] ∧
      Fulfils .empty attempts attempts after (.ok pool) := by
  have constructs : Constructs .empty ["a", "b"] .default _ _ (.ok _) :=
    .tried rfl (.open .connecting (.open .connected .done)) rfl rfl
  obtain ⟨_, isFulfilled, areKept⟩ := fulfils_of_constructs constructs
  have fulfils := (isFulfilled (by decide) rfl).2
  rw [areKept (by decide)] at fulfils
  exact ⟨_, _, _, constructs, rfl, fulfils⟩

/-- Where an address repeats, a connection is lost: there is no pool, and yet it stays open. -/
theorem open_of_repeated_address :
    ∃ attempts after, Constructs .empty ["a", "a"] .default attempts after
        (.error .noActiveConnection) ∧
      attempts = [⟨"a", some (⟨0⟩, .connecting)⟩, ⟨"a", some (⟨1⟩, .connecting)⟩] ∧
      after.isClosed ⟨0⟩ = false ∧
      ¬ Fulfils .empty attempts attempts after (.error .noActiveConnection) := by
  refine ⟨_, _, .tried rfl (.open .connecting (.open .connecting .done)) rfl rfl, rfl, rfl, ?_⟩
  intro fulfils
  cases fulfils.closed rfl _ List.mem_cons_self _ _ rfl

end FailoverPool
