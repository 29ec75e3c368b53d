import FailoverPool.Proofs.Pool.Sound
import Mathlib.Data.List.Nodup

/-!
The entries of a pool agree with their connections, as long as its dialer tells addresses truly.

Nothing else is asked of the dialer or of the addresses: they may repeat, and a connection may be
handed over more than once. Main statement: `Reaches.agrees`.
-/

namespace FailoverPool

/-- Every connection that is handed over has the address that was dialed. -/
def Dialer.IsTruthful (dialer : Dialer) : Prop :=
  ∀ handed network address id, dialer handed network address id → network.address id = address

theorem Dialer.isTruthful_fresh : Dialer.fresh.IsTruthful := fun _ _ _ _ isFresh => isFresh.2

/-- Every entry stands under the address of its connection. -/
def Entries.AgreesWith (entries : Entries) (network : Network) : Prop :=
  ∀ address id, entries.installed? address = some id → network.address id = address

theorem Entries.AgreesWith.evolve {entries : Entries} {before after : Network}
    (agrees : entries.AgreesWith before) (evolves : before.Evolves after)
    (knows : ∀ address id, entries.installed? address = some id → before.Knows id) :
    entries.AgreesWith after := by
  intro address id installed
  rw [evolves.address id (knows address id installed)]
  exact agrees address id installed

theorem Entries.AgreesWith.put {entries : Entries} {network : Network} {address : String}
    {id : ConnectionId} (agrees : entries.AgreesWith network)
    (isTrue : network.address id = address) : (entries.put address id).AgreesWith network := by
  intro other otherId installed
  rw [Entries.installed?_put] at installed
  split at installed
  · next same =>
    cases installed
    exact isTrue.trans same
  · exact agrees other otherId installed

/-- No connection stands under two addresses. -/
theorem Entries.AgreesWith.nodup_connections {entries : Entries} {network : Network}
    (agrees : entries.AgreesWith network) (distinct : entries.addresses.Nodup) :
    entries.connections.Nodup := by
  apply List.Nodup.of_map network.address
  have areAddresses : entries.connections.map network.address = entries.addresses := by
    unfold connections addresses
    rw [List.map_map]
    exact List.map_congr_left fun _ isEntry => agrees _ _ (installed?_of_mem distinct isEntry)
  exact areAddresses ▸ distinct

theorem Warms.agrees {dialer : Dialer} (isTruthful : dialer.IsTruthful) {warming after : Warming}
    {addresses : List String} (warms : Warms dialer warming addresses after)
    (sound : warming.Sound)
    (areAddresses : ∀ address ∈ addresses, address ∈ warming.warmUp.addresses)
    (agrees : warming.warmUp.entries.AgreesWith warming.network) :
    after.warmUp.entries.AgreesWith after.network := by
  have knows {warming : Warming} (sound : warming.Sound) (address : String) (id : ConnectionId)
      (installed : warming.warmUp.entries.installed? address = some id) :
      warming.network.Knows id :=
    sound.known id (sound.installed address id installed).1
  induction warms with
  | done => exact agrees
  | @refused warming _ _ address later evolves _ inductionHypothesis =>
      have evolved := (warming.network.evolves_note (.dial address)).trans evolves
      refine inductionHypothesis ?_ (fun other isLater => areAddresses other (.tail _ isLater)) ?_
      · exact { sound with known := fun id isHanded => evolved.knows id (sound.known id isHanded) }
      · exact agrees.evolve evolved (knows sound)
  | @opened warming _ _ address _ _ evolves known isAllowed _ inductionHypothesis =>
      have evolved := (warming.network.evolves_note (.dial address)).trans evolves
      refine inductionHypothesis ?_ (fun other isLater => areAddresses other (.tail _ isLater)) ?_
      · exact sound.open evolved known (areAddresses address List.mem_cons_self)
      · exact (agrees.evolve evolved (knows sound)).put (isTruthful _ _ _ _ isAllowed)

theorem Opens.agrees {dialer : Dialer} (isTruthful : dialer.IsTruthful) {addresses : List String}
    {options : PoolOptions} {course : Course} (opens : Opens dialer addresses options course) :
    course.run.pool.entries.AgreesWith course.run.network := by
  cases opens with
  | intro isBegun warms isFinished =>
      obtain ⟨queue, isWarmUp⟩ := WarmUp.begin_eq isBegun
      obtain ⟨_, rfl, rfl⟩ := WarmUp.finish_eq isFinished
      apply warms.agrees isTruthful
      · rw [isWarmUp]
        exact ⟨nofun, nofun, nofun, nofun, List.nodup_nil⟩
      · rw [isWarmUp]
        exact fun _ isAddress => isAddress
      · rw [isWarmUp]
        exact nofun

theorem Step.agrees {dialer : Dialer} (isTruthful : dialer.IsTruthful) {before after : Course}
    {move : Move} (step : Step dialer before move after) (sound : before.Sound)
    (agrees : before.run.pool.entries.AgreesWith before.run.network) :
    after.run.pool.entries.AgreesWith after.run.network := by
  obtain ⟨handed, changes⟩ := step.changes sound
  intro address id installed
  rcases changes.affects.new address id installed with wasInstalled | ⟨isNew, _⟩
  · rw [changes.affects.evolves.address id (sound.knowsInstalled address id wasInstalled)]
    exact agrees address id wasInstalled
  · obtain ⟨_, known, isAllowed⟩ := changes.allowed address id isNew
    rw [changes.affects.evolves.address id known]
    exact isTruthful _ _ _ _ isAllowed

/-- Wherever a pool is in its course, its entries stand under the addresses of their connections. -/
theorem Reaches.agrees {dialer : Dialer} (isTruthful : dialer.IsTruthful) {start course : Course}
    (reaches : Reaches dialer start course) (sound : start.Sound)
    (agrees : start.run.pool.entries.AgreesWith start.run.network) :
    course.run.pool.entries.AgreesWith course.run.network := by
  induction reaches with
  | refl => exact agrees
  | tail earlier moves inductionHypothesis =>
      obtain ⟨move, step⟩ := moves
      exact step.agrees isTruthful (Reaches.sound earlier sound) inductionHypothesis

end FailoverPool
