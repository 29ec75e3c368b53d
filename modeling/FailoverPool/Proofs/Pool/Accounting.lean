import FailoverPool.Proofs.Pool.Agreement

/-!
No connection of a pool is lost.

A connection that a dial has handed to a pool is closed or has an entry, and this stays so through
every move (`Affects.accounts`). With a dialer that tells addresses truly, and without repeats in
the address list, that holds from the warm-up on, and the entries agree with their connections.
Main statement: `consistent_of_reaches`.
-/

namespace FailoverPool

/-- The connection is closed, or installed for some address. -/
def PoolRun.Accounts (run : PoolRun) (id : ConnectionId) : Prop :=
  run.network.isClosed id = true ∨ ∃ address, run.pool.entries.installed? address = some id

namespace PoolRun.Affects

variable {before after : PoolRun} {handed : Option (String × ConnectionId)}

theorem accounts (affects : before.Affects after handed) {id : ConnectionId}
    (accounted : before.Accounts id) : after.Accounts id := by
  rcases accounted with closed | ⟨address, installed⟩
  · exact .inl (affects.evolves.isClosed id closed)
  · rcases affects.kept address id installed with still | closed
    · exact .inr ⟨address, still⟩
    · exact .inl closed

theorem accounts_handed (affects : before.Affects after handed) {address : String}
    {id : ConnectionId} (isHanded : handed = some (address, id)) : after.Accounts id := by
  rcases affects.taken address id isHanded with closed | ⟨installed, _⟩
  · exact .inl closed
  · exact .inr ⟨address, installed⟩

end PoolRun.Affects

theorem Step.accounts {dialer : Dialer} {before after : Course} {move : Move}
    (step : Step dialer before move after) (sound : before.Sound) {known : List ConnectionId}
    (accounted : ∀ id ∈ before.dialed ++ known, before.run.Accounts id) :
    ∀ id ∈ after.dialed ++ known, after.run.Accounts id := by
  obtain ⟨handed, changes⟩ := step.changes sound
  intro id membership
  rw [changes.dialed, List.append_assoc, List.mem_append] at membership
  rcases membership with isNew | wasKnown
  · simp only [Option.mem_toList, Option.map_eq_some_iff, Prod.exists] at isNew
    obtain ⟨address, _, isHanded, rfl⟩ := isNew
    exact changes.affects.accounts_handed isHanded
  · exact changes.affects.accounts (accounted id wasKnown)

/-- The entries of a pool agree with their connections, and no connection is lost. -/
structure Course.Consistent (course : Course) : Prop where
  /-- An entry stands under the address of its connection. -/
  address : ∀ entry ∈ course.run.pool.entries, course.run.network.address entry.2 = entry.1
  /-- No connection stands under two addresses, and no address has two connections. -/
  connections : course.run.pool.entries.connections.Nodup
  addresses : course.run.pool.entries.addresses.Nodup
  accounted : ∀ id ∈ course.handed, course.run.Accounts id
  fallback : ∃ id, course.run.pool.fallback = some id ∧ course.run.Accounts id
  tracked : course.run.pool.isClosed = false → course.run.duty.isUpdating = false →
    ∀ entry ∈ course.run.pool.entries, entry.1 ∈ course.run.pool.tracked

/-- What a truthful dialer adds to soundness. -/
structure Course.Truthful (course : Course) : Prop where
  sound : course.Sound
  address : ∀ address id, course.run.pool.entries.installed? address = some id →
    course.run.network.address id = address
  accounted : ∀ id ∈ course.handed, course.run.Accounts id

theorem Course.Truthful.consistent {course : Course} (truthful : course.Truthful) :
    course.Consistent := by
  have sound := truthful.sound
  have ofEntry : ∀ entry ∈ course.run.pool.entries,
      course.run.pool.entries.installed? entry.1 = some entry.2 :=
    fun _ isEntry => Entries.installed?_of_mem sound.distinct isEntry
  constructor
  · exact fun entry isEntry => truthful.address _ _ (ofEntry entry isEntry)
  · exact Entries.AgreesWith.nodup_connections truthful.address sound.distinct
  · exact sound.distinct
  · exact truthful.accounted
  · obtain ⟨id, isFallback⟩ := Option.isSome_iff_exists.mp sound.hasFallback
    exact ⟨id, isFallback, truthful.accounted id (sound.fallback id isFallback)⟩
  · intro isOpen isNoUpdate entry isEntry
    exact sound.orderly.tracksInstalled isNoUpdate isOpen _ _ (ofEntry entry isEntry)

theorem Step.truthful {before after : Course} {move : Move}
    (step : Step .fresh before move after) (truthful : before.Truthful) : after.Truthful := by
  have sound := truthful.sound
  obtain ⟨handed, changes⟩ := step.changes sound
  constructor
  · exact step.sound sound
  · intro address id installed
    rcases changes.affects.new address id installed with wasInstalled | ⟨isNew, _⟩
    · rw [changes.affects.evolves.address id (sound.knowsInstalled address id wasInstalled)]
      exact truthful.address address id wasInstalled
    · obtain ⟨_, known, _, isAddress⟩ := changes.allowed address id isNew
      rw [changes.affects.evolves.address id known]
      exact isAddress
  · unfold Course.handed
    rw [changes.warmed]
    exact step.accounts sound truthful.accounted

/-- What a truthful dialer adds while a pool is being made: the addresses still to be dialed have no
entry, so that no connection is replaced. -/
structure Warming.Truthful (warming : Warming) (left : List String) : Prop where
  sound : warming.Sound
  address : ∀ address id, warming.warmUp.entries.installed? address = some id →
    warming.network.address id = address
  installed : ∀ id ∈ warming.handed, ∃ address,
    warming.warmUp.entries.installed? address = some id
  left : ∀ address ∈ left, warming.warmUp.entries.installed? address = none

theorem Warming.Truthful.evolve {warming : Warming} {left : List String} {network : Network}
    (truthful : warming.Truthful left) (evolves : warming.network.Evolves network) :
    ({ warming with network } : Warming).Truthful left where
  sound := { truthful.sound with
    known := fun id isHanded => evolves.knows id (truthful.sound.known id isHanded) }
  address address id installed := by
    rw [evolves.address id (truthful.sound.known id (truthful.sound.installed _ _ installed).1)]
    exact truthful.address address id installed
  installed := truthful.installed
  left := truthful.left

theorem Warming.Truthful.open {warming : Warming} {address : String} {left : List String}
    {id : ConnectionId} (truthful : warming.Truthful (address :: left)) (isNew : address ∉ left)
    (isAddress : address ∈ warming.warmUp.addresses) (known : warming.network.Knows id)
    (isTrue : warming.network.address id = address) :
    (Warming.mk warming.network (warming.warmUp.take warming.network address (some id))
      (id :: warming.handed)).Truthful left := by
  constructor
  · exact truthful.sound.open (.refl warming.network) known isAddress
  · intro other otherId installed
    rw [WarmUp.take, Entries.installed?_put] at installed
    split at installed
    · next same =>
      cases installed
      exact isTrue.trans same
    · exact truthful.address other otherId installed
  · intro other isHanded
    rcases List.mem_cons.mp isHanded with same | wasHanded
    · exact ⟨address, by rw [WarmUp.take, Entries.installed?_put, if_pos rfl, same]⟩
    · obtain ⟨otherAddress, installed⟩ := truthful.installed other wasHanded
      refine ⟨otherAddress, ?_⟩
      have different : address ≠ otherAddress := by
        rintro rfl
        rw [truthful.left address List.mem_cons_self] at installed
        cases installed
      rw [WarmUp.take, Entries.installed?_put, if_neg different]
      exact installed
  · intro other isLeft
    have different : address ≠ other := fun same => isNew (same ▸ isLeft)
    rw [WarmUp.take, Entries.installed?_put, if_neg different]
    exact truthful.left other (.tail _ isLeft)

theorem Warms.truthful {warming after : Warming} {left : List String}
    (warms : Warms .fresh warming left after) (truthful : warming.Truthful left)
    (isDistinct : left.Nodup)
    (areAddresses : ∀ address ∈ left, address ∈ warming.warmUp.addresses) :
    after.Truthful [] := by
  induction warms with
  | done => exact truthful
  | @refused warming _ _ address later evolves _ inductionHypothesis =>
      have evolved := (warming.network.evolves_note (.dial address)).trans evolves
      refine inductionHypothesis ?_ (List.nodup_cons.mp isDistinct).2
        fun other isLater => areAddresses other (.tail _ isLater)
      exact { truthful.evolve evolved with
        left := fun other isLater => truthful.left other (.tail _ isLater) }
  | @opened warming _ _ address _ _ evolves known isFresh _ inductionHypothesis =>
      have evolved := (warming.network.evolves_note (.dial address)).trans evolves
      obtain ⟨isNew, isDistinctLater⟩ := List.nodup_cons.mp isDistinct
      refine inductionHypothesis ?_ isDistinctLater
        fun other isLater => areAddresses other (.tail _ isLater)
      exact (truthful.evolve evolved).open isNew (areAddresses address List.mem_cons_self) known
        isFresh.2

theorem Opens.truthful {addresses : List String} {options : PoolOptions} {course : Course}
    (opens : Opens .fresh addresses options course) (isDistinct : addresses.Nodup) :
    course.Truthful := by
  have sound := opens.sound
  cases opens with
  | @intro _ _ begun warming _ isBegun warms isFinished =>
      obtain ⟨queue, isWarmUp⟩ := WarmUp.begin_eq isBegun
      obtain ⟨_, rfl, rfl⟩ := WarmUp.finish_eq isFinished
      have truthful : warming.Truthful [] := by
        apply warms.truthful _ isDistinct
        · rw [isWarmUp]
          exact fun _ isAddress => isAddress
        · rw [isWarmUp]
          exact ⟨⟨nofun, nofun, nofun, nofun, List.nodup_nil⟩, nofun, nofun, fun _ _ => rfl⟩
      exact ⟨sound, truthful.address, fun id isHanded => .inr (truthful.installed id isHanded)⟩

/-- A pool of distinct addresses stays consistent, whatever happens to it: wherever its upkeep is
suspended, its entries agree with their connections, every connection that it was ever handed is
closed or installed, and so is the one that it falls back on. Only tracked addresses have entries,
except while an update is in progress and after the pool was closed. -/
theorem consistent_of_reaches {addresses : List String} {options : PoolOptions}
    {start course : Course} (isDistinct : addresses.Nodup)
    (opens : Opens .fresh addresses options start) (reaches : Reaches .fresh start course) :
    course.Consistent := by
  apply Course.Truthful.consistent
  induction reaches with
  | refl => exact opens.truthful isDistinct
  | tail _ moves inductionHypothesis =>
      obtain ⟨move, step⟩ := moves
      exact step.truthful inductionHypothesis

/-- One of two connections ends, and its address is redialed. -/
theorem consistent_of_redial :
    ∃ start course, Opens .fresh ["a", "b"] .default start ∧ Reaches .fresh start course ∧
      course.run.pool.entries = [("a", ⟨2⟩), ("b", ⟨1⟩)] ∧ course.handed = [⟨2⟩, ⟨1⟩, ⟨0⟩] ∧
      course.Consistent := by
  have opens : Opens .fresh ["a", "b"] .default _ :=
    @Opens.intro _ _ _ .empty _ _ _ _ rfl
      (.open nofun .connected (.open (by decide) .connecting .done)) rfl
  have reaches := (opens.reaches_lose ⟨0⟩).trans (Course.reaches_open (by decide) .connected)
  exact ⟨_, _, opens, reaches, rfl, rfl, consistent_of_reaches (by decide) opens reaches⟩

end FailoverPool
