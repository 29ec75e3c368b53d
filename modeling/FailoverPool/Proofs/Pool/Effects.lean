import FailoverPool.Proofs.Pool.Course

/-!
What a move does to a pool and its network, said once for all moves.

`Affects` compares the two sides of a move: an installed connection stays installed or is closed,
nothing is installed but what a dial hands over, and what a dial hands over is installed or closed.
`Step.affects` says that every move is of this kind.
-/

namespace FailoverPool

namespace Entries

def addresses (entries : Entries) : List String := entries.map (·.1)

theorem mem_addresses_put {entries : Entries} {address other : String} {id : ConnectionId} :
    other ∈ (entries.put address id).addresses ↔ other = address ∨ other ∈ entries.addresses := by
  induction entries with
  | nil => simp [put, addresses]
  | cons entry later inductionHypothesis =>
      unfold addresses at inductionHypothesis
      by_cases replaced : entry.1 = address
      · simp [put, addresses, replaced]
      · simp only [put, addresses, replaced, if_false, List.map_cons, List.mem_cons,
          inductionHypothesis]
        exact or_left_comm

theorem nodup_put {entries : Entries} (distinct : entries.addresses.Nodup) (address : String)
    (id : ConnectionId) : (entries.put address id).addresses.Nodup := by
  induction entries with
  | nil => simp [put, addresses]
  | cons entry later inductionHypothesis =>
      obtain ⟨isFirst, distinctLater⟩ := List.nodup_cons.mp distinct
      by_cases replaced : entry.1 = address
      · subst replaced
        simp only [put, if_true]
        exact distinct
      · simp only [put, replaced, if_false]
        apply List.nodup_cons.mpr
        refine ⟨fun isLater => ?_, inductionHypothesis distinctLater⟩
        rcases mem_addresses_put.mp isLater with same | wasLater
        · exact replaced same
        · exact isFirst wasLater

theorem nodup_remove {entries : Entries} (distinct : entries.addresses.Nodup) (address : String) :
    (entries.remove address).addresses.Nodup :=
  (List.filter_sublist.map Prod.fst).nodup distinct

theorem installed?_of_mem {entries : Entries} (distinct : entries.addresses.Nodup)
    {address : String} {id : ConnectionId} (isEntry : (address, id) ∈ entries) :
    entries.installed? address = some id := by
  induction entries with
  | nil => cases isEntry
  | cons entry later inductionHypothesis =>
      obtain ⟨isFirst, distinctLater⟩ := List.nodup_cons.mp distinct
      rcases List.mem_cons.mp isEntry with same | isLater
      · subst same
        simp [installed?]
      · have different : entry.1 ≠ address := fun same =>
          isFirst (List.mem_map.mpr ⟨(address, id), isLater, same.symm⟩)
        simpa [installed?, different] using inductionHypothesis distinctLater isLater

theorem mem_connections {entries : Entries} {address : String} {id : ConnectionId}
    (installed : entries.installed? address = some id) : id ∈ entries.connections := by
  induction entries with
  | nil => cases installed
  | cons entry later inductionHypothesis =>
      unfold installed? at installed
      split at installed
      · exact List.mem_cons.mpr (.inl (Option.some.inj installed).symm)
      · exact List.mem_cons_of_mem _ (inductionHypothesis installed)

end Entries

namespace Pool

theorem select_eq (pool : Pool) (network : Network) :
    ∃ fallback, (pool.select network).1 = { pool with fallback } ∧
      (∀ id, fallback = some id →
        pool.fallback = some id ∨ ∃ address, pool.entries.installed? address = some id) ∧
      (pool.fallback.isSome = true → fallback.isSome = true) := by
  unfold select
  cases pool.candidates.find? network.isConnected with
  | some chosen => exact ⟨pool.fallback, rfl, fun _ same => .inl same, fun filled => filled⟩
  | none =>
      refine ⟨pool.candidates.getLast?.or pool.fallback, rfl, ?_, ?_⟩
      · intro id isFallback
        rcases Option.or_eq_some_iff.mp isFallback with isLast | ⟨_, same⟩
        · obtain ⟨address, _, installed⟩ := List.mem_filterMap.mp (List.mem_of_getLast? isLast)
          exact .inr ⟨address, installed⟩
        · exact .inl same
      · intro isFilled
        simp [isFilled]

theorem route_fst (pool : Pool) (network : Network) (request : Request) :
    (pool.route network request).1 = pool ∨
      (pool.route network request).1 = (pool.select network).1 := by
  unfold route
  cases request.boundTo? with
  | some bound =>
      dsimp only
      split <;> exact .inl rfl
  | none =>
      refine .inr ?_
      cases isChosen : pool.select network with
      | mk chosen target => cases target <;> rfl

theorem installed?_evict (pool : Pool) (address other : String) (id : ConnectionId) :
    (pool.evict address id).entries.installed? other =
      if pool.entries.installed? address = some id ∧ address = other then none
      else pool.entries.installed? other := by
  unfold evict
  by_cases current : pool.entries.installed? address = some id
  · simp [current, Entries.installed?_remove]
  · simp [current]

theorem evict_eq (pool : Pool) (address : String) (id : ConnectionId) :
    pool.evict address id = { pool with entries := (pool.evict address id).entries } := by
  unfold evict
  split <;> rfl

theorem install_fst (pool : Pool) (network : Network) (address : String) (id : ConnectionId) :
    (pool.install network address id).1 =
      if pool.isClosed = true then pool
      else { pool with entries := pool.entries.put address id } := by
  unfold install
  split
  · rfl
  · dsimp only
    split <;> rfl

theorem evolves_install (pool : Pool) (network : Network) (address : String) (id : ConnectionId) :
    network.Evolves (pool.install network address id).2 := by
  unfold install
  split
  · exact network.evolves_dismiss id
  · dsimp only
    split
    · exact .refl network
    · next former _ =>
      dsimp only
      split
      · exact .refl network
      · exact network.evolves_dismiss former

theorem isClosed_install_of_isClosed {pool : Pool} {network : Network} {id : ConnectionId}
    (closed : pool.isClosed = true) (known : network.Knows id) (address : String) :
    (pool.install network address id).2.isClosed id = true := by
  unfold install
  rw [if_pos closed]
  exact Network.isClosed_dismiss known

theorem isClosed_install_of_installed {pool : Pool} {network : Network} {address : String}
    {former : ConnectionId} (isOpen : pool.isClosed = false) (known : network.Knows former)
    (installed : pool.entries.installed? address = some former) (id : ConnectionId) :
    (pool.install network address id).2.isClosed former = true := by
  unfold install
  simp only [isOpen, installed, Bool.false_eq_true, if_false]
  split
  · assumption
  · exact Network.isClosed_dismiss known

theorem evolves_closeAll (network : Network) (ids : List ConnectionId) :
    network.Evolves (closeAll network ids).1 := by
  induction ids generalizing network with
  | nil => exact .refl network
  | cons id later inductionHypothesis =>
      exact (network.evolves_dismiss id).trans (inductionHypothesis (network.dismiss id))

theorem isClosed_closeAll {network : Network} {ids : List ConnectionId} {id : ConnectionId}
    (membership : id ∈ ids) (known : network.Knows id) :
    (closeAll network ids).1.isClosed id = true := by
  induction ids generalizing network with
  | nil => cases membership
  | cons first later inductionHypothesis =>
      rcases List.mem_cons.mp membership with same | inLater
      · subst same
        exact (evolves_closeAll _ later).isClosed id (Network.isClosed_dismiss known)
      · exact inductionHypothesis inLater ((network.evolves_dismiss first).knows id known)

theorem evolves_close (pool : Pool) (network : Network) :
    network.Evolves (pool.close network).2.1 := by
  unfold close
  dsimp only
  cases pool.fallback with
  | none => exact evolves_closeAll network _
  | some fallback => exact (evolves_closeAll network _).trans (Network.evolves_dismiss _ fallback)

theorem isClosed_close {pool : Pool} {network : Network} {address : String} {id : ConnectionId}
    (installed : pool.entries.installed? address = some id) (known : network.Knows id) :
    (pool.close network).2.1.isClosed id = true := by
  have closed := isClosed_closeAll (Entries.mem_connections installed) known
  unfold close
  dsimp only
  cases pool.fallback with
  | none => exact closed
  | some fallback => exact (Network.evolves_dismiss _ fallback).isClosed id closed

end Pool

namespace PoolRun

/-- Every installed connection has been opened. -/
def KnowsInstalled (run : PoolRun) : Prop :=
  ∀ address id, run.pool.entries.installed? address = some id → run.network.Knows id

/-- What may become of a pool and its network, when a dial of an address may hand over a
connection meanwhile. -/
structure Affects (before after : PoolRun) (handed : Option (String × ConnectionId)) : Prop where
  evolves : before.network.Evolves after.network
  /-- Whoever is installed stays installed, or is closed. -/
  kept : ∀ address id, before.pool.entries.installed? address = some id →
    after.pool.entries.installed? address = some id ∨ after.network.isClosed id = true
  /-- Only an open pool installs, and only what is handed over, for the address dialed. -/
  new : ∀ address id, after.pool.entries.installed? address = some id →
    before.pool.entries.installed? address = some id ∨
      handed = some (address, id) ∧ before.pool.isClosed = false
  /-- What is handed over is closed, or an open pool installs it. -/
  taken : ∀ address id, handed = some (address, id) →
    after.network.isClosed id = true ∨
      after.pool.entries.installed? address = some id ∧ before.pool.isClosed = false
  fallback : ∀ id, after.pool.fallback = some id →
    before.pool.fallback = some id ∨
      ∃ address, before.pool.entries.installed? address = some id ∨ handed = some (address, id)
  remembers : before.pool.fallback.isSome = true → after.pool.fallback.isSome = true
  isClosed : before.pool.isClosed = true → after.pool.isClosed = true
  /-- No address gets a second entry. -/
  distinct : before.pool.entries.addresses.Nodup → after.pool.entries.addresses.Nodup

namespace Affects

/-- The pool stays the same but for its fallback, its handles and its tracked addresses. -/
theorem of_entries_eq {before after : PoolRun}
    (evolves : before.network.Evolves after.network)
    (sameEntries : after.pool.entries = before.pool.entries)
    (sameFallback : after.pool.fallback = before.pool.fallback)
    (staysClosed : before.pool.isClosed = true → after.pool.isClosed = true) :
    before.Affects after none where
  evolves := evolves
  kept _ _ installed := .inl (sameEntries ▸ installed)
  new _ _ installed := .inl (sameEntries ▸ installed)
  taken _ _ isHanded := nomatch isHanded
  fallback _ isFallback := .inl (sameFallback ▸ isFallback)
  remembers isFilled := sameFallback ▸ isFilled
  isClosed := staysClosed
  distinct wasDistinct := sameEntries ▸ wasDistinct

/-- A change in which nothing is handed over may follow any other. -/
theorem trans {first second third : PoolRun} {handed : Option (String × ConnectionId)}
    (earlier : first.Affects second handed) (later : second.Affects third none) :
    first.Affects third handed where
  evolves := earlier.evolves.trans later.evolves
  kept address id installed := by
    rcases earlier.kept address id installed with still | closed
    · exact later.kept address id still
    · exact .inr (later.evolves.isClosed id closed)
  new address id installed := by
    rcases later.new address id installed with before | ⟨isHanded, _⟩
    · exact earlier.new address id before
    · cases isHanded
  taken address id isHanded := by
    rcases earlier.taken address id isHanded with closed | ⟨installed, isOpen⟩
    · exact .inl (later.evolves.isClosed id closed)
    · rcases later.kept address id installed with still | closed
      · exact .inr ⟨still, isOpen⟩
      · exact .inl closed
  fallback id isFallback := by
    rcases later.fallback id isFallback with before | ⟨address, installed | isHanded⟩
    · exact earlier.fallback id before
    · rcases earlier.new address id installed with before | ⟨isHanded, _⟩
      · exact .inr ⟨address, .inl before⟩
      · exact .inr ⟨address, .inr isHanded⟩
    · cases isHanded
  remembers isFilled := later.remembers (earlier.remembers isFilled)
  isClosed closed := later.isClosed (earlier.isClosed closed)
  distinct wasDistinct := later.distinct (earlier.distinct wasDistinct)

theorem knowsInstalled {before after : PoolRun} {handed : Option (String × ConnectionId)}
    (affects : before.Affects after handed) (knows : before.KnowsInstalled)
    (knowsHanded : ∀ address id, handed = some (address, id) → before.network.Knows id) :
    after.KnowsInstalled := by
  intro address id installed
  apply affects.evolves.knows
  rcases affects.new address id installed with before | ⟨isHanded, _⟩
  · exact knows address id before
  · exact knowsHanded address id isHanded

end Affects

theorem affects_rest (run : PoolRun) : run.Affects run.rest none := by
  unfold rest
  split <;> exact .of_entries_eq (.of_connections_eq rfl) rfl rfl fun closed => closed

theorem affects_dial (run : PoolRun) (address : String) (duty : Duty) :
    run.Affects (run.dial address duty) none :=
  .of_entries_eq (run.network.evolves_note _) rfl rfl fun closed => closed

theorem affects_select (run : PoolRun) : run.Affects run.select none := by
  obtain ⟨fallback, isPool, isKnown, staysFilled⟩ := run.pool.select_eq run.network
  unfold select
  rw [isPool]
  exact {
    evolves := .refl run.network
    kept := fun _ _ installed => .inl installed
    new := fun _ _ installed => .inl installed
    taken := fun _ _ isHanded => nomatch isHanded
    fallback := fun id isFallback => (isKnown id isFallback).imp_right fun ⟨address, installed⟩ =>
      ⟨address, .inl installed⟩
    remembers := staysFilled
    isClosed := fun closed => closed
    distinct := fun wasDistinct => wasDistinct }

theorem affects_request (run : PoolRun) (request : Request) :
    run.Affects (run.request request) none := by
  have routed : run.Affects { run with pool := (run.pool.route run.network request).1 } none := by
    rcases run.pool.route_fst run.network request with same | selected
    · rw [same]
      exact .of_entries_eq (.refl run.network) rfl rfl fun closed => closed
    · rw [selected]
      exact run.affects_select
  unfold PoolRun.request
  cases isRouted : run.pool.route run.network request with
  | mk pool target =>
      rw [isRouted] at routed
      cases target with
      | error _ => exact routed
      | ok id =>
          have evolves : run.network.Evolves
              ((run.network.hand id 0 request).toOption.getD run.network) := by
            cases isHanded : run.network.hand id 0 request with
            | error _ => exact .refl run.network
            | ok network => exact Network.evolves_hand isHanded
          exact routed.trans (.of_entries_eq evolves rfl rfl fun closed => closed)

/-- A dial changes nothing of the pool but its entries. -/
theorem pool_takeDialed (run : PoolRun) (address : String) (dialed : Option ConnectionId) :
    (run.takeDialed address dialed).pool =
      { run.pool with entries := (run.takeDialed address dialed).pool.entries } := by
  cases dialed with
  | none => rfl
  | some id =>
      have isPool : (run.takeDialed address (some id)).pool = _ :=
        run.pool.install_fst run.network address id
      rw [isPool]
      split <;> rfl

theorem evolves_takeDialed (run : PoolRun) (address : String) (dialed : Option ConnectionId) :
    run.network.Evolves (run.takeDialed address dialed).network := by
  cases dialed with
  | none => exact .refl run.network
  | some id => exact run.pool.evolves_install run.network address id

/-- What is installed after a dial was installed before, or the dial has handed it over. -/
theorem installed_of_takeDialed {run : PoolRun} {address other : String}
    {dialed : Option ConnectionId} {id : ConnectionId}
    (installed : (run.takeDialed address dialed).pool.entries.installed? other = some id) :
    run.pool.entries.installed? other = some id ∨ address = other ∧ dialed = some id := by
  cases dialed with
  | none => exact .inl installed
  | some new =>
      have isPool : (run.takeDialed address (some new)).pool = _ :=
        run.pool.install_fst run.network address new
      rw [isPool] at installed
      split at installed
      · exact .inl installed
      · rw [Entries.installed?_put] at installed
        split at installed
        · next same => exact .inr ⟨same, installed⟩
        · exact .inl installed

/-- A connection that a dial has opened is installed, or closed if the pool is. -/
theorem affects_takeDialed {run : PoolRun} {id : ConnectionId} (knows : run.KnowsInstalled)
    (known : run.network.Knows id) (address : String) :
    run.Affects (run.takeDialed address (some id)) (some (address, id)) := by
  have isPool : (run.takeDialed address (some id)).pool = _ :=
    run.pool.install_fst run.network address id
  constructor
  · exact run.pool.evolves_install run.network address id
  · intro other installedId installed
    rw [isPool]
    by_cases closed : run.pool.isClosed = true
    · exact .inl (by rwa [if_pos closed])
    · rw [if_neg closed, Entries.installed?_put]
      by_cases same : address = other
      · subst same
        refine .inr (Pool.isClosed_install_of_installed ?_ (knows address _ installed) installed id)
        simpa using closed
      · exact .inl (by rwa [if_neg same])
  · intro other installedId installed
    rw [isPool] at installed
    by_cases closed : run.pool.isClosed = true
    · exact .inl (by rwa [if_pos closed] at installed)
    · rw [if_neg closed, Entries.installed?_put] at installed
      by_cases same : address = other
      · rw [if_pos same, Option.some.injEq] at installed
        exact .inr ⟨by rw [same, installed], by simpa using closed⟩
      · exact .inl (by rwa [if_neg same] at installed)
  · rintro _ _ ⟨⟩
    by_cases closed : run.pool.isClosed = true
    · exact .inl (Pool.isClosed_install_of_isClosed closed known address)
    · rw [isPool, if_neg closed, Entries.installed?_put, if_pos rfl]
      exact .inr ⟨rfl, by simpa using closed⟩
  · intro other isFallback
    rw [isPool] at isFallback
    exact .inl (by split at isFallback <;> exact isFallback)
  · rw [isPool]
    split <;> exact fun isFilled => isFilled
  · rw [isPool]
    split <;> exact fun closed => closed
  · intro wasDistinct
    rw [isPool]
    split
    · exact wasDistinct
    · exact Entries.nodup_put wasDistinct address id

/-- Only a connection that has closed is forgotten when its repair fails. -/
theorem affects_evict {run : PoolRun} {failed : ConnectionId}
    (closed : run.network.isClosed failed = true) (address : String) :
    run.Affects { run with pool := run.pool.evict address failed } none where
  evolves := .refl run.network
  kept other id installed := by
    rw [Pool.installed?_evict]
    split
    · next removed =>
      rw [← removed.2, removed.1, Option.some.injEq] at installed
      exact .inr (installed ▸ closed)
    · exact .inl installed
  new other id installed := by
    rw [Pool.installed?_evict] at installed
    split at installed
    · cases installed
    · exact .inl installed
  taken _ _ isHanded := nomatch isHanded
  fallback id isFallback := by
    rw [Pool.evict_eq] at isFallback
    exact .inl isFallback
  remembers isFilled := by
    rw [Pool.evict_eq]
    exact isFilled
  isClosed closed := by
    rw [Pool.evict_eq]
    exact closed
  distinct wasDistinct := by
    unfold Pool.evict
    split
    · exact Entries.nodup_remove wasDistinct address
    · exact wasDistinct

theorem installed?_removeAll (run : PoolRun) (addresses : List String) (other : String) :
    (run.removeAll addresses).pool.entries.installed? other =
      if other ∈ addresses then none else run.pool.entries.installed? other := by
  induction addresses generalizing run with
  | nil => simp [removeAll]
  | cons address later inductionHypothesis =>
      rw [removeAll, inductionHypothesis, Entries.installed?_remove]
      by_cases same : address = other
      · simp [same]
      · simp [same, Ne.symm same]

/-- Forgetting addresses changes nothing of the pool but its entries, and the duty stays. -/
theorem removeAll_eq (run : PoolRun) (addresses : List String) :
    run.removeAll addresses = ⟨(run.removeAll addresses).network,
      { run.pool with entries := (run.removeAll addresses).pool.entries }, run.duty⟩ := by
  induction addresses generalizing run with
  | nil => rfl
  | cons address later inductionHypothesis =>
      rw [removeAll, inductionHypothesis]

theorem evolves_removeAll (run : PoolRun) (addresses : List String) :
    run.network.Evolves (run.removeAll addresses).network := by
  induction addresses generalizing run with
  | nil => exact .refl run.network
  | cons address later inductionHypothesis =>
      unfold removeAll
      refine .trans ?_ (inductionHypothesis _)
      dsimp only
      split
      · exact .refl run.network
      · exact run.network.evolves_dismiss _

theorem isClosed_removeAll {run : PoolRun} {addresses : List String} {address : String}
    {id : ConnectionId} (isRemoved : address ∈ addresses)
    (installed : run.pool.entries.installed? address = some id) (known : run.network.Knows id) :
    (run.removeAll addresses).network.isClosed id = true := by
  induction addresses generalizing run with
  | nil => cases isRemoved
  | cons first later inductionHypothesis =>
      unfold removeAll
      by_cases same : first = address
      · subst same
        apply (evolves_removeAll _ later).isClosed
        simp only [installed]
        exact Network.isClosed_dismiss known
      · have inLater : address ∈ later :=
          (List.mem_cons.mp isRemoved).resolve_left (Ne.symm same)
        apply inductionHypothesis inLater
        · simpa only [Entries.installed?_remove, if_neg same] using installed
        · dsimp only
          split
          · exact known
          · exact (run.network.evolves_dismiss _).knows id known

theorem nodup_removeAll {run : PoolRun} (distinct : run.pool.entries.addresses.Nodup)
    (addresses : List String) : (run.removeAll addresses).pool.entries.addresses.Nodup := by
  induction addresses generalizing run with
  | nil => exact distinct
  | cons address later inductionHypothesis =>
      rw [removeAll]
      exact inductionHypothesis (Entries.nodup_remove distinct address)

theorem affects_removeAll {run : PoolRun} (knows : run.KnowsInstalled) (addresses : List String) :
    run.Affects (run.removeAll addresses) none := by
  constructor
  · exact run.evolves_removeAll addresses
  · intro address id installed
    by_cases isRemoved : address ∈ addresses
    · exact .inr (isClosed_removeAll isRemoved installed (knows address id installed))
    · exact .inl (by rwa [installed?_removeAll, if_neg isRemoved])
  · intro address id installed
    rw [installed?_removeAll] at installed
    split at installed
    · cases installed
    · exact .inl installed
  · exact fun _ _ isHanded => nomatch isHanded
  · intro id isFallback
    rw [removeAll_eq] at isFallback
    exact .inl isFallback
  · rw [removeAll_eq]
    exact fun isFilled => isFilled
  · rw [removeAll_eq]
    exact fun closed => closed
  · exact fun wasDistinct => nodup_removeAll wasDistinct addresses

theorem affects_continueCheck (run : PoolRun) (addresses : List String) :
    run.Affects (run.continueCheck addresses) none := by
  cases addresses with
  | nil => exact run.affects_rest
  | cons address later =>
      rw [continueCheck]
      split
      · exact run.affects_rest
      · exact run.affects_dial address _

theorem affects_finishUpdate {run : PoolRun} (knows : run.KnowsInstalled)
    (former discovered : List String) :
    run.Affects (run.finishUpdate former discovered) none := by
  let left := run.removeAll (former.filter fun address => !discovered.contains address)
  have switched :
      left.Affects { left with pool := { left.pool with tracked := discovered } } none :=
    .of_entries_eq (.refl left.network) rfl rfl fun closed => closed
  exact ((affects_removeAll knows _).trans switched).trans (affects_rest _)

theorem affects_continueUpdate {run : PoolRun} (knows : run.KnowsInstalled)
    (former discovered addresses : List String) :
    run.Affects (run.continueUpdate former discovered addresses) none := by
  cases addresses with
  | nil => exact affects_finishUpdate knows former discovered
  | cons address later =>
      rw [continueUpdate]
      split
      · exact run.affects_rest
      · exact run.affects_dial address _

theorem affects_handleEvent (run : PoolRun) (event : Event) :
    run.Affects (run.handleEvent event) none := by
  unfold handleEvent
  split
  · exact run.affects_dial _ _
  · exact run.affects_rest

theorem affects_beginDiscovery (run : PoolRun) (function : String) :
    run.Affects (run.beginDiscovery function) none := by
  have selected := run.affects_select
  unfold beginDiscovery
  unfold PoolRun.select at selected
  cases isChosen : run.pool.select run.network with
  | mk pool target =>
      rw [isChosen] at selected
      cases target with
      | none => exact selected.trans (affects_rest _)
      | some id =>
          dsimp only
          split
          · exact selected.trans (affects_rest _)
          · next network isHanded =>
            exact selected.trans
              (.of_entries_eq (Network.evolves_hand isHanded) rfl rfl fun closed => closed)

theorem affects_finishDiscovery {run : PoolRun} (knows : run.KnowsInstalled) (outcome : Outcome) :
    run.Affects (run.finishDiscovery outcome) none := by
  unfold finishDiscovery
  split
  · exact run.affects_rest
  · unfold beginUpdate
    dsimp only
    split
    · exact run.affects_rest
    · exact affects_continueUpdate knows _ _ _

theorem affects_close (run : PoolRun) : run.Affects run.close.1 none := by
  have closed : run.Affects { run with
      pool := { run.pool with isClosed := true }
      network := (run.pool.close run.network).2.1 } none :=
    .of_entries_eq (run.pool.evolves_close run.network) rfl rfl fun _ => rfl
  unfold PoolRun.close
  dsimp only
  split
  · exact closed.trans (affects_rest _)
  · exact closed

theorem affects_release (run : PoolRun) : run.Affects run.release none := by
  have released : run.Affects { run with pool := { run.pool with isHeld := false } } none :=
    .of_entries_eq (.refl run.network) rfl rfl fun closed => closed
  unfold release
  dsimp only
  split
  · exact released.trans (affects_rest _)
  · exact released

/-- The end of a dial that has failed. A repair that fails finds the connection closed that it was
to replace. -/
theorem affects_finishDial_none {run : PoolRun} (knows : run.KnowsInstalled)
    (failedIsClosed : ∀ address failed, run.duty = .repair address failed →
      run.network.isClosed failed = true) :
    run.Affects (run.finishDial none) none := by
  unfold finishDial
  cases duty : run.duty with
  | idle | ask | ended => exact .of_entries_eq (.refl run.network) rfl rfl fun closed => closed
  | repair address failed =>
      exact (affects_evict (failedIsClosed address failed duty) address).trans (affects_rest _)
  | check address later => exact affects_continueCheck run later
  | update address later former discovered =>
      exact affects_continueUpdate knows former discovered later

theorem affects_finishDial_some {run : PoolRun} {address : String} {id : ConnectionId}
    (knows : run.KnowsInstalled) (isDialed : run.duty.dialing? = some address)
    (known : run.network.Knows id) :
    run.Affects (run.finishDial (some id)) (some (address, id)) := by
  have taken := affects_takeDialed knows known address
  have knowsTaken : (run.takeDialed address (some id)).KnowsInstalled :=
    taken.knowsInstalled knows (by rintro _ _ ⟨⟩; exact known)
  unfold finishDial
  cases duty : run.duty with
  | idle | ask | ended => simp [duty, Duty.dialing?] at isDialed
  | repair target failed =>
      obtain rfl : target = address := by simpa [duty, Duty.dialing?] using isDialed
      exact taken.trans (affects_rest _)
  | check target later =>
      obtain rfl : target = address := by simpa [duty, Duty.dialing?] using isDialed
      exact taken.trans (affects_continueCheck _ later)
  | update target later former discovered =>
      obtain rfl : target = address := by simpa [duty, Duty.dialing?] using isDialed
      exact taken.trans (affects_continueUpdate knowsTaken former discovered later)

end PoolRun

end FailoverPool
