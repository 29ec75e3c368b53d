import FailoverPool.Proofs.Client.Routing
import FailoverPool.Proofs.Pool.Fallback

/-!
Which connection a pool hands a request to.

`Pool.Chooses` says it of the tracked addresses and their entries alone. Main statement: wherever a
pool is in its course there is exactly one such connection, a request that belongs to no connection
goes there and nowhere else, and a pool that shows as connected has a connected entry
(`selects_of_reaches`).
-/

namespace FailoverPool

theorem Network.isConnected_eq_false_of_isClosed {network : Network} {id : ConnectionId}
    (closed : network.isClosed id = true) : network.isConnected id = false := by
  unfold isClosed at closed
  unfold isConnected
  cases found : network.connection? id with
  | none => rfl
  | some connection =>
      have isState : connection.state = .closed := by simpa [found] using closed
      simp [isState]

namespace Pool

/-- The pool has no connected entry under a tracked address. -/
def IsDown (pool : Pool) (network : Network) : Prop :=
  ∀ address ∈ pool.tracked, ∀ id, pool.entries.installed? address = some id →
    network.isConnected id = false

/-- What a choice comes to. -/
inductive Chooses (pool : Pool) (network : Network) : ConnectionId → Prop where
  /-- The entry of the first tracked address with a connected one. -/
  | connected {earlier address later id} :
      pool.tracked = earlier ++ address :: later →
      (∀ other ∈ earlier, ∀ otherId, pool.entries.installed? other = some otherId →
        network.isConnected otherId = false) →
      pool.entries.installed? address = some id → network.isConnected id = true →
      Chooses pool network id
  /-- The last entry in tracked order. -/
  | last {earlier address later id} :
      pool.IsDown network → pool.tracked = earlier ++ address :: later →
      pool.entries.installed? address = some id →
      (∀ other ∈ later, pool.entries.installed? other = none) →
      Chooses pool network id
  /-- The one that is remembered, which has closed. -/
  | remembered {id} :
      (∀ address ∈ pool.tracked, pool.entries.installed? address = none) →
      pool.fallback = some id → network.isClosed id = true →
      Chooses pool network id

variable {pool : Pool} {network : Network} {id : ConnectionId}

theorem mem_candidates :
    id ∈ pool.candidates ↔ ∃ address ∈ pool.tracked, pool.entries.installed? address = some id :=
  List.mem_filterMap

theorem isDown_iff : pool.IsDown network ↔ pool.candidates.find? network.isConnected = none := by
  simp only [List.find?_eq_none, mem_candidates, IsDown, Bool.not_eq_true]
  constructor
  · rintro isDown id ⟨address, isTracked, installed⟩
    exact isDown address isTracked id installed
  · exact fun noneFound address isTracked id installed =>
      noneFound id ⟨address, isTracked, installed⟩

theorem select_of_isDown (isDown : pool.IsDown network) :
    (pool.select network).2 = pool.candidates.getLast?.or pool.fallback := by
  rw [select, isDown_iff.mp isDown]

/-- A pool whose memory holds nothing live chooses as it should. -/
theorem chooses_of_select
    (backs : ∀ id, pool.fallback = some id → network.isClosed id = true ∨
      ∃ address ∈ pool.tracked, pool.entries.installed? address = some id)
    (isChosen : (pool.select network).2 = some id) : pool.Chooses network id := by
  cases found : pool.candidates.find? network.isConnected with
  | some first =>
      obtain rfl : first = id := by simpa [select, found] using isChosen
      obtain ⟨isConnected, before, after, areCandidates, areDown⟩ :=
        List.find?_eq_some_iff_append.mp found
      obtain ⟨prior, rest, areTracked, rfl, areLater⟩ :=
        List.filterMap_eq_append_iff.mp areCandidates
      obtain ⟨vacant, address, later, rfl, areVacant, installed, _⟩ :=
        List.filterMap_eq_cons_iff.mp areLater
      rw [← List.append_assoc] at areTracked
      refine .connected areTracked ?_ installed isConnected
      intro other isEarlier otherId isOther
      rcases List.mem_append.mp isEarlier with isPrior | isVacant
      · simpa using areDown otherId (List.mem_filterMap.mpr ⟨other, isPrior, isOther⟩)
      · rw [areVacant other isVacant] at isOther
        cases isOther
  | none =>
      have isDown := isDown_iff.mpr found
      rw [select_of_isDown isDown] at isChosen
      rcases Option.or_eq_some_iff.mp isChosen with isLast | ⟨noLast, isFallback⟩
      · obtain ⟨before, areCandidates⟩ := List.getLast?_eq_some_iff.mp isLast
        obtain ⟨prior, rest, areTracked, _, areLater⟩ :=
          List.filterMap_eq_append_iff.mp areCandidates
        obtain ⟨vacant, address, later, rfl, _, installed, areVacant⟩ :=
          List.filterMap_eq_cons_iff.mp areLater
        rw [← List.append_assoc] at areTracked
        refine .last isDown areTracked installed ?_
        exact List.filterMap_eq_nil_iff.mp areVacant
      · have areVacant := List.filterMap_eq_nil_iff.mp (List.getLast?_eq_none_iff.mp noLast)
        refine .remembered areVacant isFallback ((backs id isFallback).resolve_right ?_)
        rintro ⟨address, isTracked, installed⟩
        rw [areVacant address isTracked] at installed
        cases installed

/-- Whoever remembers a connection always has one to choose. -/
theorem exists_select (isFilled : pool.fallback.isSome = true) (network : Network) :
    ∃ id, (pool.select network).2 = some id := by
  cases found : pool.candidates.find? network.isConnected with
  | some first => exact ⟨first, by rw [select, found]⟩
  | none =>
      rw [select_of_isDown (isDown_iff.mpr found)]
      exact Option.isSome_iff_exists.mp (by simp [isFilled])

/-- There is no second connection that a pool could choose. -/
theorem Chooses.select_eq (chooses : pool.Chooses network id) :
    (pool.select network).2 = some id := by
  cases chooses with
  | @connected earlier address later _ areTracked areDown installed isConnected =>
      have isFirst : pool.candidates.find? network.isConnected = some id := by
        rw [candidates, areTracked, List.filterMap_append, List.filterMap_cons_some installed]
        refine List.find?_eq_some_iff_append.mpr ⟨isConnected, _, _, rfl, fun other isEarlier => ?_⟩
        obtain ⟨former, isFormer, isOther⟩ := List.mem_filterMap.mp isEarlier
        simp [areDown former isFormer other isOther]
      rw [select, isFirst]
  | last isDown areTracked installed areVacant =>
      rw [select_of_isDown isDown, candidates, areTracked, List.filterMap_append,
        List.filterMap_cons_some installed, List.filterMap_eq_nil_iff.mpr areVacant]
      simp
  | remembered areVacant isFallback _ =>
      have noCandidates : pool.candidates = [] := List.filterMap_eq_nil_iff.mpr areVacant
      have isDown : pool.IsDown network := isDown_iff.mpr (by rw [noCandidates]; rfl)
      rw [select_of_isDown isDown, noCandidates, isFallback]
      rfl

/-- A chosen connection that has not closed has an entry. -/
theorem Chooses.isTracked (chooses : pool.Chooses network id)
    (isOpen : network.isClosed id = false) :
    ∃ address ∈ pool.tracked, pool.entries.installed? address = some id := by
  cases chooses with
  | connected areTracked _ installed _ | last _ areTracked installed _ =>
      exact ⟨_, areTracked ▸ List.mem_append_right _ List.mem_cons_self, installed⟩
  | remembered _ _ closed =>
      rw [isOpen] at closed
      cases closed

theorem Chooses.isConnected_iff (chooses : pool.Chooses network id) :
    network.isConnected id = true ↔ ∃ address ∈ pool.tracked, ∃ other,
      pool.entries.installed? address = some other ∧ network.isConnected other = true := by
  constructor
  · intro isConnected
    have isOpen : network.isClosed id = false := by
      by_contra closed
      rw [Network.isConnected_eq_false_of_isClosed (by simpa using closed)] at isConnected
      cases isConnected
    obtain ⟨address, isTracked, installed⟩ := chooses.isTracked isOpen
    exact ⟨address, isTracked, id, installed, isConnected⟩
  · rintro ⟨address, isTracked, other, installed, isConnected⟩
    cases chooses with
    | connected _ _ _ isChosen => exact isChosen
    | last isDown _ _ _ =>
        rw [isDown address isTracked other installed] at isConnected
        cases isConnected
    | remembered areVacant _ _ =>
        rw [areVacant address isTracked] at installed
        cases installed

theorem isConnected_iff (chooses : pool.Chooses network id) :
    (pool.isConnected network).2 = true ↔ pool.isClosed = false ∧ ∃ address ∈ pool.tracked,
      ∃ other, pool.entries.installed? address = some other ∧ network.isConnected other = true := by
  rw [← chooses.isConnected_iff, isConnected]
  cases closed : pool.isClosed with
  | true => simp
  | false => simp [chooses.select_eq]

/-- A request that belongs to no connection goes where the choice falls. -/
theorem Chooses.route_eq (chooses : pool.Chooses network id) {request : Request}
    (isUnbound : request.boundTo? = none) :
    pool.route network request = ((pool.select network).1, .ok id) := by
  have isChosen := chooses.select_eq
  unfold route
  rw [isUnbound]
  dsimp only
  cases selected : pool.select network with
  | mk chosen target =>
      rw [selected] at isChosen
      cases isChosen
      rfl

end Pool

namespace Simulation.World

variable {world : World} {request : Request} {id : ConnectionId}

/-- The held pool passes on a request that belongs to no connection. -/
theorem sendOn_pool_of_chooses {index : Nat} {upkeep : Upkeep}
    (isHeld : world.heldUpkeep? = some (index, upkeep)) (isUnbound : request.boundTo? = none)
    (chooses : upkeep.pool.Chooses world.network id) :
    world.sendOn .pool request =
      (world.putPool index (upkeep.pool.select world.network).1).send id 0 request := by
  simp only [sendOn, routeRequest, isHeld, chooses.route_eq isUnbound]

end Simulation.World

namespace PoolRun

/-- The request goes to this connection and to no other: it is entered there once, or refused with
no entry anywhere if the connection has closed. So it is too for a client that holds the pool. -/
structure HandsTo (run : PoolRun) (request : Request) (target : ConnectionId) : Prop where
  network : (run.request request).network =
    if run.network.isClosed target then run.network
    else run.network.note (.sent target 0 request)
  sent : ∀ (world : Simulation.World) index upkeep, world.heldUpkeep? = some (index, upkeep) →
    world.network = run.network → upkeep.pool = run.pool →
      (world.sendOn .pool request).1.network = (run.request request).network
  refused : run.network.isClosed target = true → ∀ (world : Simulation.World) index upkeep,
    world.heldUpkeep? = some (index, upkeep) → world.network = run.network →
      upkeep.pool = run.pool →
        world.sendOn .pool request = (world.putPool index run.select.pool).addFuture
          (.now (.error (.connectionClosed (run.network.address target))))

theorem handsTo_of_chooses {run : PoolRun} {target : ConnectionId} {request : Request}
    (chooses : run.pool.Chooses run.network target) (isUnbound : request.boundTo? = none) :
    run.HandsTo request target := by
  have handed : (run.request request).network =
      if run.network.isClosed target then run.network
      else run.network.note (.sent target 0 request) := by
    rw [PoolRun.request, chooses.route_eq isUnbound]
    dsimp only
    rw [Network.hand]
    split <;> rfl
  refine ⟨handed, ?_, ?_⟩
  · intro world index upkeep isHeld sameNetwork samePool
    rw [← sameNetwork, ← samePool] at chooses
    rw [Simulation.World.sendOn_pool_of_chooses isHeld isUnbound chooses,
      Simulation.World.network_send, handed, ← sameNetwork]
    rfl
  · intro closed world index upkeep isHeld sameNetwork samePool
    rw [← sameNetwork, ← samePool] at chooses
    rw [← sameNetwork] at closed
    let chosen := world.putPool index (upkeep.pool.select world.network).1
    have stillClosed : chosen.network.isClosed target = true := closed
    rw [Simulation.World.sendOn_pool_of_chooses isHeld isUnbound chooses,
      Simulation.World.send_of_isClosed stillClosed 0, select, ← samePool, ← sameNetwork]
    rfl

end PoolRun

/-- Wherever a pool without repeats is in its course, its choice falls on exactly one connection:
on the first connected entry in tracked order, else on the last entry, else on a remembered
connection that has closed. A request that belongs to no connection goes there and nowhere else. The
pool shows as connected if it is open and some tracked address has a connected entry, and no
connection that lacks such an entry is served unless it has closed. -/
theorem selects_of_reaches {dialer : Dialer} {addresses : List String} {options : PoolOptions}
    {start course : Course} (distinct : addresses.Nodup)
    (opens : Opens dialer addresses options start) (reaches : Reaches dialer start course) :
    ∃ target, course.run.pool.Chooses course.run.network target ∧
      (∀ other, course.run.pool.Chooses course.run.network other → other = target) ∧
      (course.run.pool.select course.run.network).2 = some target ∧
      (∀ request, request.boundTo? = none → course.run.HandsTo request target) ∧
      (course.run.network.isClosed target = false → ∃ address ∈ course.run.pool.tracked,
        course.run.pool.entries.installed? address = some target) ∧
      ((course.run.pool.isConnected course.run.network).2 = true ↔
        course.run.pool.isClosed = false ∧ ∃ address ∈ course.run.pool.tracked, ∃ id,
          course.run.pool.entries.installed? address = some id ∧
            course.run.network.isConnected id = true) := by
  have sound := reaches.sound opens.sound
  have recalls := reaches.recalls opens.sound (opens.recalls distinct)
  obtain ⟨target, isChosen⟩ := Pool.exists_select sound.hasFallback course.run.network
  have chooses := Pool.chooses_of_select recalls.backs isChosen
  refine ⟨target, chooses, fun other choosesOther => ?_, isChosen, ?_, chooses.isTracked,
    Pool.isConnected_iff chooses⟩
  · exact Option.some.inj (choosesOther.select_eq.symm.trans isChosen)
  · exact fun request isUnbound => PoolRun.handsTo_of_chooses chooses isUnbound

/-- The only connection closes, and its redial fails: the pool falls back on a connection that has
closed, and so refuses a request. -/
theorem selects_of_loss :
    ∃ start course, Opens .fresh ["a"] .default start ∧ Reaches .fresh start course ∧
      course.run.pool.entries = [] ∧ course.run.pool.Chooses course.run.network ⟨0⟩ ∧
      course.run.network.isClosed ⟨0⟩ = true ∧ course.run.HandsTo .ping ⟨0⟩ := by
  have opens : Opens .fresh ["a"] .default _ :=
    @Opens.intro _ _ _ .empty _ _ _ _ rfl (.open nofun .connected .done) rfl
  have reaches := (opens.reaches_lose ⟨0⟩).tail ⟨_, .refused rfl⟩
  obtain ⟨target, chooses, _, isChosen, hands, _⟩ :=
    selects_of_reaches (by decide) opens reaches
  cases isChosen
  exact ⟨_, _, opens, reaches, rfl, chooses, rfl, hands .ping rfl⟩

end FailoverPool
