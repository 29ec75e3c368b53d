import FailoverPool.Proofs.Network.Deeds
import FailoverPool.Proofs.Pool.Sound

/-!
What the moves of a pool do on the network, deed by deed.

`Does` lists the deeds of a move; it leaves open only what becomes of the events of an upkeep that
has ended, which nobody reads any more. Main statement: every move of a pool has such a list, and
unless a caller's request is handed over, the list holds dials, closes and discovery calls only
(`Step.does`).
-/

namespace FailoverPool

/-- Something that an upkeep does of itself: it dials, it closes, or it asks for addresses. -/
def Occurrence.IsOfUpkeep : Occurrence → Prop
  | .dial _ | .closed _ _ => True
  | .sent _ _ request => request.boundTo? = none
  | .refused _ | .opened _ => False

/-- The same in full, for an upkeep that closes no other connections than these. -/
inductive Occurrence.IsWork (dismisses : ConnectionId → Prop) : Occurrence → Prop
  | dial {address} : IsWork dismisses (.dial address)
  | close {id wasOpen} : dismisses id → IsWork dismisses (.closed id wasOpen)
  | ask {id function} : IsWork dismisses (.sent id 0 (Discovery.request function))

theorem Occurrence.IsWork.isOfUpkeep {dismisses : ConnectionId → Prop} {occurrence : Occurrence}
    (isWork : occurrence.IsWork dismisses) : occurrence.IsOfUpkeep := by
  cases isWork with
  | dial | close => trivial
  | ask => rfl

/-- It tells one of these connections to close. -/
def Occurrence.Closes (dismisses : ConnectionId → Prop) (occurrence : Occurrence) : Prop :=
  ∃ id, occurrence.closes? = some id ∧ dismisses id

namespace Occurrence.Closes

variable {dismisses : ConnectionId → Prop} {occurrence : Occurrence}

theorem isWork (closes : occurrence.Closes dismisses) : occurrence.IsWork dismisses := by
  obtain ⟨id, isClose, isDismissed⟩ := closes
  cases occurrence with
  | closed => exact .close (Option.some.inj isClose ▸ isDismissed)
  | dial | refused | opened | sent => cases isClose

theorem dialed?_eq (closes : occurrence.Closes dismisses) : occurrence.dialed? = none := by
  obtain ⟨id, isClose, _⟩ := closes
  cases occurrence with
  | closed => rfl
  | dial | refused | opened | sent => cases isClose

end Occurrence.Closes

namespace Pool

theorem acts_closeAll (network : Network) (ids : List ConnectionId) :
    ∃ deeds, network.Acts deeds (closeAll network ids).1 ∧
      deeds.map Occurrence.closes? = ids.map some := by
  induction ids generalizing network with
  | nil => exact ⟨[], .nil, rfl⟩
  | cons id later inductionHypothesis =>
      obtain ⟨deeds, acts, areCloses⟩ := inductionHypothesis (network.dismiss id)
      refine ⟨_, .dismiss acts, ?_⟩
      rw [List.map_cons, areCloses]
      rfl

/-- Every installed connection is told to close, and then the fallback is. -/
theorem acts_close (pool : Pool) (network : Network) :
    ∃ deeds, network.Acts deeds (pool.close network).2.1 ∧
      deeds.map Occurrence.closes? =
        (pool.entries.connections ++ pool.fallback.toList).map some := by
  obtain ⟨deeds, acts, areCloses⟩ := acts_closeAll network pool.entries.connections
  unfold close
  dsimp only
  cases pool.fallback with
  | none => exact ⟨deeds, acts, by simp [areCloses]⟩
  | some fallback =>
      exact ⟨_, acts.append (.dismiss .nil), by simp [areCloses, Occurrence.closes?]⟩

/-- Of a dial, a closed pool closes what it hands over, and an open pool what gives way to it. -/
theorem acts_install {dismisses : ConnectionId → Prop} {pool : Pool} {network : Network}
    {address : String} {id : ConnectionId} (ofDialed : dismisses id)
    (ofFormer : ∀ former, pool.entries.installed? address = some former →
      network.isClosed former = false → dismisses former) :
    ∃ deeds, network.Acts deeds (pool.install network address id).2 ∧
      ∀ occurrence ∈ deeds, occurrence.Closes dismisses := by
  have closes {other : ConnectionId} (isDismissed : dismisses other) :
      ∃ deeds, network.Acts deeds (network.dismiss other) ∧
        ∀ occurrence ∈ deeds, occurrence.Closes dismisses :=
    ⟨_, .dismiss .nil, List.forall_mem_singleton.mpr ⟨other, rfl, isDismissed⟩⟩
  unfold install
  split
  · exact closes ofDialed
  · dsimp only
    split
    · exact ⟨[], .nil, nofun⟩
    · next former isFormer =>
      dsimp only
      split
      · exact ⟨[], .nil, nofun⟩
      · next isOpen => exact closes (ofFormer former isFormer (by simpa using isOpen))

/-- An open pool installs without touching the network if nothing gives way, or only a connection
that has closed. -/
theorem install_of_vacant {pool : Pool} {network : Network} {address : String}
    (isOpen : pool.isClosed = false)
    (isVacant : (pool.entries.installed? address).all network.isClosed = true) (id : ConnectionId) :
    pool.install network address id =
      ({ pool with entries := pool.entries.put address id }, network) := by
  cases installed : pool.entries.installed? address with
  | none => simp [install, isOpen, installed]
  | some former =>
      rw [installed, Option.all_some] at isVacant
      simp [install, isOpen, installed, isVacant]

end Pool

namespace PoolRun

/-- A move has done this on the network, in this order. -/
def Does (before : PoolRun) (deeds : List Occurrence) (after : PoolRun) : Prop :=
  ∃ network, before.network.Acts deeds network ∧
    after.network.connections = network.connections ∧ after.network.record = network.record ∧
      (after.duty ≠ .ended → after.network.queues = network.queues)

namespace Does

variable {before after : PoolRun} {deeds : List Occurrence}

theorem of_acts (acts : before.network.Acts deeds after.network) : before.Does deeds after :=
  ⟨after.network, acts, rfl, rfl, fun _ => rfl⟩

theorem evolves (does : before.Does deeds after) : before.network.Evolves after.network := by
  obtain ⟨network, acts, sameConnections, _⟩ := does
  exact acts.evolves.trans (.of_connections_eq sameConnections)

theorem since_eq (does : before.Does deeds after) : after.network.since before.network = deeds := by
  obtain ⟨network, acts, _, sameRecord, _⟩ := does
  rw [Network.since_of_record_eq sameRecord, acts.since_eq]

/-- An upkeep that has not ended loses no event. -/
theorem mem_events (does : before.Does deeds after) (goesOn : after.duty ≠ .ended)
    {queue : QueueId} {event : Event} (waits : event ∈ before.network.events queue) :
    event ∈ after.network.events queue := by
  obtain ⟨network, acts, _, _, sameQueues⟩ := does
  unfold Network.events
  rw [sameQueues goesOn]
  exact acts.mem_events waits

theorem reportsTo (does : before.Does deeds after) (queue : QueueId) (id : ConnectionId) :
    after.network.ReportsTo queue id ↔ before.network.ReportsTo queue id := by
  obtain ⟨network, acts, sameConnections, _⟩ := does
  rw [Network.reportsTo_of_connections_eq sameConnections, acts.reportsTo]

/-- Whoever is not told to close is not closed by it. -/
theorem isClosed_eq (does : before.Does deeds after) {id : ConnectionId}
    (isSpared : some id ∉ deeds.map Occurrence.closes?) :
    after.network.isClosed id = before.network.isClosed id := by
  obtain ⟨network, acts, sameConnections, _⟩ := does
  rw [← acts.isClosed_eq isSpared]
  simp only [Network.isClosed, Network.connection?, sameConnections]

/-- A move that goes on from where another has led. -/
theorem after_acts (between : PoolRun) {earlier : List Occurrence}
    (acts : before.network.Acts earlier between.network) (does : between.Does deeds after) :
    before.Does (earlier ++ deeds) after := by
  obtain ⟨network, actsLater, same⟩ := does
  exact ⟨network, acts.append actsLater, same⟩

end Does

theorem connections_rest (run : PoolRun) :
    run.rest.network.connections = run.network.connections := by
  unfold rest
  split <;> rfl

theorem isClosed_rest (run : PoolRun) (id : ConnectionId) :
    run.rest.network.isClosed id = run.network.isClosed id := by
  simp only [Network.isClosed, Network.connection?, connections_rest]

theorem pool_rest (run : PoolRun) : run.rest.pool = run.pool := by
  unfold rest
  split <;> rfl

theorem pool_handleEvent (run : PoolRun) (event : Event) :
    (run.handleEvent event).pool = run.pool := by
  unfold handleEvent
  split
  · rfl
  · exact run.pool_rest

theorem pool_continueCheck (run : PoolRun) (addresses : List String) :
    (run.continueCheck addresses).pool = run.pool := by
  cases addresses with
  | nil => exact run.pool_rest
  | cons address later =>
      rw [continueCheck]
      split
      · exact run.pool_rest
      · rfl

/-- Whoever rests is in no update. -/
theorem admits_rest (run : PoolRun) (address : String) :
    run.rest.Admits address ↔ address ∈ run.pool.tracked := by
  unfold rest
  split <;> simp [Admits, Duty.discovered]

theorem does_rest (run : PoolRun) : run.Does [] run.rest := by
  refine ⟨run.network, .nil, run.connections_rest, ?_⟩
  unfold rest
  split
  · exact ⟨rfl, fun goesOn => absurd rfl goesOn⟩
  · exact ⟨rfl, fun _ => rfl⟩

theorem does_dial (run : PoolRun) (address : String) (duty : Duty) :
    run.Does [.dial address] (run.dial address duty) :=
  .of_acts (.note .nil)

theorem acts_takeDialed {run : PoolRun} {dismisses : ConnectionId → Prop} {address : String}
    {dialed : Option ConnectionId} (ofDialed : ∀ id, dialed = some id → dismisses id)
    (ofFormer : ∀ former, run.pool.entries.installed? address = some former →
      run.network.isClosed former = false → dismisses former) :
    ∃ deeds, run.network.Acts deeds (run.takeDialed address dialed).network ∧
      ∀ occurrence ∈ deeds, occurrence.Closes dismisses := by
  cases dialed with
  | none => exact ⟨[], .nil, nofun⟩
  | some id => exact Pool.acts_install (ofDialed id rfl) ofFormer

/-- The address has no connection, or one that has closed. -/
def isVacant (run : PoolRun) (address : String) : Bool :=
  (run.pool.entries.installed? address).all run.network.isClosed

/-- The end of a dial for a vacant address changes nothing but its entry, and not even that if the
dial has failed. -/
theorem takeDialed_of_isVacant {run : PoolRun} {address : String}
    (isOpen : run.pool.isClosed = false) (vacant : run.isVacant address = true)
    (dialed : Option ConnectionId) :
    ∃ entries : Entries,
      run.takeDialed address dialed = { run with pool := { run.pool with entries } } ∧
        ∀ other, entries.installed? other =
          if address = other then dialed.or (run.pool.entries.installed? address)
          else run.pool.entries.installed? other := by
  cases dialed with
  | none =>
      refine ⟨run.pool.entries, rfl, fun other => ?_⟩
      split
      · next same => rw [same, Option.none_or]
      · rfl
  | some id =>
      refine ⟨run.pool.entries.put address id, ?_, fun other => Entries.installed?_put _ _ other _⟩
      simp only [takeDialed, Pool.install_of_vacant isOpen vacant]

/-- Forgetting addresses closes the connections that they had, and no other. -/
theorem acts_removeAll (run : PoolRun) (addresses : List String) :
    ∃ deeds, run.network.Acts deeds (run.removeAll addresses).network ∧
      ∀ occurrence ∈ deeds, ∃ address ∈ addresses, ∃ id,
        run.pool.entries.installed? address = some id ∧ occurrence.closes? = some id := by
  induction addresses generalizing run with
  | nil => exact ⟨[], .nil, nofun⟩
  | cons address later inductionHypothesis =>
      -- What is still installed after the first removal was installed before it.
      have stillInstalled {other : String} {id : ConnectionId}
          (installed : (run.pool.entries.remove address).installed? other = some id) :
          run.pool.entries.installed? other = some id := by
        rw [Entries.installed?_remove] at installed
        split at installed
        · cases installed
        · exact installed
      rw [removeAll]
      dsimp only
      split
      · next isFree =>
        obtain ⟨deeds, acts, areRemoved⟩ := inductionHypothesis
          { run with pool := { run.pool with entries := run.pool.entries.remove address } }
        refine ⟨deeds, acts, fun occurrence isDeed => ?_⟩
        obtain ⟨other, isLater, id, installed, isClose⟩ := areRemoved occurrence isDeed
        exact ⟨other, .tail _ isLater, id, stillInstalled installed, isClose⟩
      · next id isInstalled =>
        obtain ⟨deeds, acts, areRemoved⟩ := inductionHypothesis
          { run with
            network := run.network.dismiss id
            pool := { run.pool with entries := run.pool.entries.remove address } }
        refine ⟨_, .dismiss acts, List.forall_mem_cons.mpr ⟨?_, fun occurrence isDeed => ?_⟩⟩
        · exact ⟨address, List.mem_cons_self, id, isInstalled, rfl⟩
        · obtain ⟨other, isLater, otherId, installed, isClose⟩ := areRemoved occurrence isDeed
          exact ⟨other, .tail _ isLater, otherId, stillInstalled installed, isClose⟩

/-- The deeds of an upkeep. -/
def Works (before after : PoolRun) : Prop :=
  ∃ deeds, before.Does deeds after ∧ ∀ occurrence ∈ deeds, occurrence.IsOfUpkeep

/-- The deeds of an upkeep that closes no other connections than these. -/
def Toils (dismisses : ConnectionId → Prop) (before after : PoolRun) : Prop :=
  ∃ deeds, before.Does deeds after ∧ ∀ occurrence ∈ deeds, occurrence.IsWork dismisses

namespace Toils

variable {before after : PoolRun} {dismisses : ConnectionId → Prop}

theorem of_network_eq (same : after.network = before.network) : before.Toils dismisses after :=
  ⟨[], .of_acts (same ▸ .nil), nofun⟩

theorem after_acts (between : PoolRun) {deeds : List Occurrence}
    (acts : before.network.Acts deeds between.network)
    (areWork : ∀ occurrence ∈ deeds, occurrence.IsWork dismisses)
    (toils : between.Toils dismisses after) : before.Toils dismisses after := by
  obtain ⟨later, does, areWorkLater⟩ := toils
  exact ⟨_, .after_acts between acts does, List.forall_mem_append.mpr ⟨areWork, areWorkLater⟩⟩

/-- What a dial has handed over is taken, and then the upkeep goes on. -/
theorem after_takeDialed {address : String} {dialed : Option ConnectionId}
    (ofDialed : ∀ id, dialed = some id → dismisses id)
    (ofFormer : ∀ former, before.pool.entries.installed? address = some former →
      before.network.isClosed former = false → dismisses former)
    (toils : (before.takeDialed address dialed).Toils dismisses after) :
    before.Toils dismisses after := by
  obtain ⟨deeds, acts, areCloses⟩ := acts_takeDialed ofDialed ofFormer
  exact .after_acts _ acts (fun occurrence isDeed => (areCloses occurrence isDeed).isWork) toils

theorem works (toils : before.Toils dismisses after) : before.Works after := by
  obtain ⟨deeds, does, areWork⟩ := toils
  exact ⟨deeds, does, fun occurrence isDeed => (areWork occurrence isDeed).isOfUpkeep⟩

end Toils

section

variable {dismisses : ConnectionId → Prop}

theorem toils_rest (run : PoolRun) : run.Toils dismisses run.rest := ⟨[], run.does_rest, nofun⟩

theorem toils_dial (run : PoolRun) (address : String) (duty : Duty) :
    run.Toils dismisses (run.dial address duty) :=
  ⟨_, run.does_dial address duty, List.forall_mem_singleton.mpr .dial⟩

theorem toils_handleEvent (run : PoolRun) (event : Event) :
    run.Toils dismisses (run.handleEvent event) := by
  unfold handleEvent
  split
  · exact run.toils_dial _ _
  · exact run.toils_rest

theorem toils_continueCheck (run : PoolRun) (addresses : List String) :
    run.Toils dismisses (run.continueCheck addresses) := by
  cases addresses with
  | nil => exact run.toils_rest
  | cons address later =>
      rw [continueCheck]
      split
      · exact run.toils_rest
      · exact run.toils_dial address _

/-- The end of an update closes the connections of addresses that are not tracked any more. -/
theorem toils_continueUpdate {run : PoolRun} {former discovered addresses : List String}
    (ofLeaver : ∀ address id, run.pool.entries.installed? address = some id →
      ¬ (run.continueUpdate former discovered addresses).Admits address → dismisses id) :
    run.Toils dismisses (run.continueUpdate former discovered addresses) := by
  cases addresses with
  | nil =>
      let left := run.removeAll (former.filter fun address => !discovered.contains address)
      let switched : PoolRun := { left with pool := { left.pool with tracked := discovered } }
      obtain ⟨deeds, acts, areRemoved⟩ := run.acts_removeAll
        (former.filter fun address => !discovered.contains address)
      refine .after_acts switched acts (fun occurrence isDeed => ?_) switched.toils_rest
      obtain ⟨address, isLeaver, id, installed, isClose⟩ := areRemoved occurrence isDeed
      have isLost : address ∉ discovered := by simpa using (List.mem_filter.mp isLeaver).2
      apply Occurrence.Closes.isWork ⟨id, isClose, ?_⟩
      apply ofLeaver address id installed
      show ¬ switched.rest.Admits address
      rw [admits_rest]
      exact isLost
  | cons address later =>
      rw [continueUpdate]
      split
      · exact run.toils_rest
      · exact run.toils_dial address _

theorem toils_finishDial {run : PoolRun} {dialed : Option ConnectionId}
    (ofDialed : ∀ id, dialed = some id → dismisses id)
    (ofFormer : ∀ address, run.duty.dialing? = some address → ∀ former,
      run.pool.entries.installed? address = some former →
        run.network.isClosed former = false → dismisses former)
    (ofLeaver : ∀ address id, run.pool.entries.installed? address = some id →
      ¬ (run.finishDial dialed).Admits address → dismisses id) :
    run.Toils dismisses (run.finishDial dialed) := by
  unfold finishDial at ofLeaver ⊢
  cases duty : run.duty with
  | idle | ask | ended => exact .of_network_eq rfl
  | repair address failed =>
      cases dialed with
      | none =>
          let evicted : PoolRun := { run with pool := run.pool.evict address failed }
          exact .after_acts evicted .nil nofun evicted.toils_rest
      | some id =>
          exact .after_takeDialed ofDialed (ofFormer address (by rw [duty]; rfl)) (toils_rest _)
  | check address later =>
      exact .after_takeDialed ofDialed (ofFormer address (by rw [duty]; rfl))
        (toils_continueCheck _ later)
  | update address later former discovered =>
      apply Toils.after_takeDialed ofDialed (ofFormer address (by rw [duty]; rfl))
      apply toils_continueUpdate
      intro other id installed isLost
      rcases installed_of_takeDialed installed with wasInstalled | ⟨_, isDialed⟩
      · rw [duty] at ofLeaver
        exact ofLeaver other id wasInstalled isLost
      · exact ofDialed id isDialed

theorem toils_beginDiscovery (run : PoolRun) (function : String) :
    run.Toils dismisses (run.beginDiscovery function) := by
  unfold beginDiscovery
  split
  · next pool _ =>
    let chosen : PoolRun := { run with pool }
    exact .after_acts chosen .nil nofun chosen.toils_rest
  · next pool id _ =>
    split
    · let chosen : PoolRun := { run with pool }
      exact .after_acts chosen .nil nofun chosen.toils_rest
    · next network isHanded =>
      exact ⟨_, .of_acts (Network.acts_hand isHanded), List.forall_mem_singleton.mpr .ask⟩

theorem toils_finishDiscovery {run : PoolRun} {outcome : Outcome}
    (ofLeaver : ∀ address id, run.pool.entries.installed? address = some id →
      ¬ (run.finishDiscovery outcome).Admits address → dismisses id) :
    run.Toils dismisses (run.finishDiscovery outcome) := by
  unfold finishDiscovery beginUpdate at ofLeaver ⊢
  split
  · exact run.toils_rest
  · next discovered tells =>
    rw [tells] at ofLeaver
    dsimp only at ofLeaver ⊢
    split
    · exact run.toils_rest
    · next isNew =>
      rw [if_neg isNew] at ofLeaver
      exact toils_continueUpdate ofLeaver

theorem does_close (run : PoolRun) :
    ∃ deeds, run.Does deeds run.close.1 ∧
      deeds.map Occurrence.closes? =
        (run.pool.entries.connections ++ run.pool.fallback.toList).map some := by
  let closed : PoolRun := { run with
    pool := { run.pool with isClosed := true }
    network := (run.pool.close run.network).2.1 }
  obtain ⟨deeds, acts, areCloses⟩ := run.pool.acts_close run.network
  refine ⟨deeds, ?_, areCloses⟩
  unfold PoolRun.close
  dsimp only
  split
  · rw [← List.append_nil deeds]
    exact .after_acts closed acts closed.does_rest
  · exact .of_acts acts

theorem toils_close {run : PoolRun}
    (ofInstalled : ∀ id ∈ run.pool.entries.connections, dismisses id)
    (ofFallback : ∀ id, run.pool.fallback = some id → dismisses id) :
    run.Toils dismisses run.close.1 := by
  obtain ⟨deeds, does, areCloses⟩ := run.does_close
  refine ⟨deeds, does, fun occurrence isDeed => ?_⟩
  have isTold := List.mem_map_of_mem (f := Occurrence.closes?) isDeed
  rw [areCloses, List.mem_map] at isTold
  obtain ⟨id, isMember, isClose⟩ := isTold
  apply Occurrence.Closes.isWork ⟨id, isClose.symm, ?_⟩
  rcases List.mem_append.mp isMember with isInstalled | isFallback
  · exact ofInstalled id isInstalled
  · exact ofFallback id (Option.mem_toList.mp isFallback)

theorem toils_release (run : PoolRun) : run.Toils dismisses run.release := by
  let released : PoolRun := { run with pool := { run.pool with isHeld := false } }
  unfold release
  dsimp only
  split
  · exact .after_acts released .nil nofun released.toils_rest
  · exact .of_network_eq rfl

end

theorem does_request (run : PoolRun) (request : Request) :
    ∃ deeds, run.Does deeds (run.request request) ∧
      ∀ occurrence ∈ deeds, ∃ id, occurrence = .sent id 0 request := by
  unfold PoolRun.request
  split
  · exact ⟨[], .of_acts .nil, nofun⟩
  · next pool id _ =>
    cases isHanded : run.network.hand id 0 request with
    | error _ => exact ⟨[], .of_acts .nil, nofun⟩
    | ok network =>
        refine ⟨_, .of_acts (Network.acts_hand isHanded), ?_⟩
        exact List.forall_mem_singleton.mpr ⟨id, rfl⟩

theorem pool_select (run : PoolRun) :
    ∃ fallback, run.select.pool = { run.pool with fallback } := by
  obtain ⟨fallback, isPool, _⟩ := run.pool.select_eq run.network
  exact ⟨fallback, isPool⟩

theorem pool_request (run : PoolRun) (request : Request) :
    ∃ fallback, (run.request request).pool = { run.pool with fallback } := by
  have routed : (run.request request).pool = (run.pool.route run.network request).1 := by
    unfold PoolRun.request
    split <;> simp_all
  rw [routed]
  rcases run.pool.route_fst run.network request with same | selected
  · exact ⟨run.pool.fallback, same⟩
  · obtain ⟨fallback, isPool, _⟩ := run.pool.select_eq run.network
    exact ⟨fallback, selected.trans isPool⟩

theorem pool_close (run : PoolRun) : run.close.1.pool = { run.pool with isClosed := true } := by
  unfold PoolRun.close
  dsimp only
  split
  · exact pool_rest _
  · rfl

theorem pool_release (run : PoolRun) : run.release.pool = { run.pool with isHeld := false } := by
  unfold release
  dsimp only
  split
  · exact pool_rest _
  · rfl

end PoolRun

/-- It is the upkeep of the pool that moves, or its owner without handing a request over. -/
def Move.isSilent : Move → Bool
  | .surroundings | .request _ => false
  | _ => true

/-- Whoever a move may have to close is one of these: what a dial hands over, a connection that
gives way to it and has not closed, those of addresses that are given up, and on closing the pool
all that it has. -/
structure Move.Covers (dismisses : ConnectionId → Prop) (before after : PoolRun) (move : Move) :
    Prop where
  dialed : ∀ id, move = .opened id → dismisses id
  former : ∀ address, before.duty.dialing? = some address → ∀ id,
    before.pool.entries.installed? address = some id →
      before.network.isClosed id = false → dismisses id
  leaver : ∀ address id, before.pool.entries.installed? address = some id →
    ¬ after.Admits address → dismisses id
  owned : move = .close → (∀ id ∈ before.pool.entries.connections, dismisses id) ∧
    ∀ id, before.pool.fallback = some id → dismisses id

theorem Step.toils {dialer : Dialer} {before after : Course} {move : Move}
    {dismisses : ConnectionId → Prop} (step : Step dialer before move after)
    (isSilent : move.isSilent = true) (covers : move.Covers dismisses before.run after.run) :
    before.run.Toils dismisses after.run := by
  cases step with
  | surroundings | request => cases isSilent
  | select => exact .of_network_eq rfl
  | event event _ => exact before.run.toils_handleEvent event
  | check _ => exact before.run.toils_continueCheck _
  | discovery function _ => exact before.run.toils_beginDiscovery function
  | answer outcome _ => exact PoolRun.toils_finishDiscovery covers.leaver
  | refused _ => exact PoolRun.toils_finishDial nofun covers.former covers.leaver
  | opened _ _ _ =>
      refine PoolRun.toils_finishDial ?_ covers.former covers.leaver
      rintro _ ⟨⟩
      exact covers.dialed _ rfl
  | close => exact PoolRun.toils_close (covers.owned rfl).1 (covers.owned rfl).2
  | release => exact before.run.toils_release

/-- The same, with nothing said of whom a move closes. -/
theorem Step.toilsAnyhow {dialer : Dialer} {before after : Course} {move : Move}
    (step : Step dialer before move after) (isSilent : move.isSilent = true) :
    before.run.Toils (fun _ => True) after.run := by
  refine step.toils isSilent ⟨?_, ?_, ?_, ?_⟩
  · exact fun _ _ => trivial
  · exact fun _ _ _ _ _ => trivial
  · exact fun _ _ _ _ => trivial
  · exact fun _ => ⟨fun _ _ => trivial, fun _ _ => trivial⟩

theorem Step.works {dialer : Dialer} {before after : Course} {move : Move}
    (step : Step dialer before move after) (isSilent : move.isSilent = true) :
    before.run.Works after.run :=
  (step.toilsAnyhow isSilent).works

/-- Whatever a pool does on its network, it does by notes and closes. -/
theorem Step.does {dialer : Dialer} {before after : Course} {move : Move}
    (step : Step dialer before move after) (isInside : move ≠ .surroundings) :
    ∃ deeds, before.run.Does deeds after.run := by
  cases isSilent : move.isSilent with
  | true => exact (step.works isSilent).imp fun _ works => works.1
  | false =>
      cases step with
      | surroundings => exact absurd rfl isInside
      | request request => exact (before.run.does_request request).imp fun _ does => does.1
      | select | event | check | discovery | answer | refused | opened | close | release =>
          cases isSilent

/-- Whoever else moves leaves the entries and the tracked addresses as they are. -/
theorem Step.entries_of_isOther {dialer : Dialer} {before after : Course} {move : Move}
    (step : Step dialer before move after) (isOther : move.isUpkeep = false) :
    after.run.pool.entries = before.run.pool.entries ∧
      after.run.pool.tracked = before.run.pool.tracked := by
  cases step with
  | surroundings => exact ⟨rfl, rfl⟩
  | select =>
      obtain ⟨_, isPool⟩ := before.run.pool_select
      exact ⟨by rw [isPool], by rw [isPool]⟩
  | request request =>
      obtain ⟨_, isPool⟩ := before.run.pool_request request
      exact ⟨by rw [isPool], by rw [isPool]⟩
  | close =>
      dsimp only
      rw [PoolRun.pool_close]
      exact ⟨rfl, rfl⟩
  | release =>
      dsimp only
      rw [PoolRun.pool_release]
      exact ⟨rfl, rfl⟩
  | event | check | discovery | answer | refused | opened => cases isOther

end FailoverPool
