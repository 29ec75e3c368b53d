import FailoverPool.Proofs.Pool.Freezing
import Mathlib.Data.List.Find

/-!
What closing a pool reaches, and what it tells.

The entries are walked in whatever order the map has them, so a pool is closed here with its entries
in any order (`Course.walking`). No connection stands under two addresses, hence each is told once,
and what it answers is still what its state was before the pool was closed. Main statement:
`closesAll_of_reaches`.
-/

namespace FailoverPool

namespace Entries

variable {entries walk : Entries}

theorem installed?_eq_some_iff (distinct : entries.addresses.Nodup) {address : String}
    {id : ConnectionId} : entries.installed? address = some id ↔ (address, id) ∈ entries := by
  constructor
  · intro installed
    induction entries with
    | nil => cases installed
    | cons entry later inductionHypothesis =>
        unfold installed? at installed
        split at installed
        · next same =>
          cases installed
          exact same ▸ List.mem_cons_self
        · exact .tail _ (inductionHypothesis (List.nodup_cons.mp distinct).2 installed)
  · exact installed?_of_mem distinct

theorem installed?_perm (walks : walk.Perm entries) (distinct : entries.addresses.Nodup)
    (address : String) : walk.installed? address = entries.installed? address := by
  have distinctWalk : walk.addresses.Nodup := (walks.map Prod.fst).nodup_iff.mpr distinct
  ext id
  rw [installed?_eq_some_iff distinctWalk, installed?_eq_some_iff distinct, walks.mem_iff]

theorem exists_installed (distinct : entries.addresses.Nodup) {id : ConnectionId}
    (isMember : id ∈ entries.connections) : ∃ address, entries.installed? address = some id := by
  obtain ⟨⟨address, _⟩, isEntry, rfl⟩ := List.mem_map.mp isMember
  exact ⟨address, installed?_of_mem distinct isEntry⟩

end Entries

namespace Network

theorem result_close (network : Network) (id : ConnectionId) :
    (network.close id).2 =
      if network.isClosed id = true then .error (.connectionClosed (network.address id))
      else .ok () := by
  unfold close
  cases isClosed : network.isClosed id with
  | false => rfl
  | true =>
      have sameAddress := (network.evolves_countClose id (.closed id !network.isClosed id)).address
        id (knows_of_isClosed isClosed)
      simpa [isClosed] using sameAddress

end Network

namespace Pool

/-- Of connections that are closed in turn, the first that has closed before is told. -/
theorem result_closeAll (network : Network) {ids : List ConnectionId} (distinct : ids.Nodup) :
    (closeAll network ids).2 =
      match ids.find? network.isClosed with
      | none => .ok ()
      | some id => .error (.connectionClosed (network.address id)) := by
  induction ids generalizing network with
  | nil => rfl
  | cons id later inductionHypothesis =>
      obtain ⟨isFirst, distinctLater⟩ := List.nodup_cons.mp distinct
      have inTurn : (closeAll network (id :: later)).2 =
          (network.close id).2.bind fun _ => (closeAll (network.dismiss id) later).2 := rfl
      rw [inTurn, network.result_close]
      cases isClosed : network.isClosed id with
      | true => simp [isClosed, Except.bind]
      | false =>
          have sameClosed : later.find? (network.dismiss id).isClosed =
              later.find? network.isClosed :=
            List.find?_congr fun other isLater =>
              network.isClosed_dismiss_of_ne fun same => isFirst (same ▸ isLater)
          rw [List.find?_cons_of_neg (by simp [isClosed]), if_neg nofun, Except.bind,
            inductionHypothesis _ distinctLater, sameClosed]
          cases isFound : later.find? network.isClosed with
          | none => rfl
          | some other =>
              have known := Network.knows_of_isClosed (List.find?_some isFound)
              dsimp only
              rw [(network.evolves_dismiss id).address other known]

end Pool

/-- What closing a pool does, and what it tells. -/
structure PoolRun.ClosesAll (run : PoolRun) : Prop where
  isClosed : run.close.1.pool.isClosed = true
  /-- Every installed connection is told to close, each once, and then the fallback is. -/
  told : ∃ fallback, run.pool.fallback = some fallback ∧
    (run.close.1.network.since run.network).map Occurrence.closes? =
      (run.pool.entries.connections ++ [fallback]).map some
  distinct : run.pool.entries.connections.Nodup
  closed : ∀ id, id ∈ run.pool.entries.connections ∨ run.pool.fallback = some id →
    run.close.1.network.isClosed id = true
  succeeds : run.close.2 = .ok () ↔
    ∀ id ∈ run.pool.entries.connections, run.network.isClosed id = false
  /-- It tells of the first connection that has closed before. -/
  fails : ∀ fault, run.close.2 = .error fault →
    ∃ earlier id later, run.pool.entries.connections = earlier ++ id :: later ∧
      (∀ other ∈ earlier, run.network.isClosed other = false) ∧
      run.network.isClosed id = true ∧ fault = .connectionClosed (run.network.address id)

theorem PoolRun.ClosesAll.fails_of_isClosed {run : PoolRun} (closesAll : run.ClosesAll)
    {id : ConnectionId} (isInstalled : id ∈ run.pool.entries.connections)
    (isClosed : run.network.isClosed id = true) : ∃ fault, run.close.2 = .error fault := by
  cases result : run.close.2 with
  | error fault => exact ⟨fault, rfl⟩
  | ok _ =>
      rw [closesAll.succeeds.mp result id isInstalled] at isClosed
      cases isClosed

namespace Course

variable {course : Course}

theorem Sound.isClosed_fallback (sound : course.Sound) {id : ConnectionId}
    (isFallback : course.run.pool.fallback = some id) :
    course.run.close.1.network.isClosed id = true := by
  have known := sound.known id (sound.fallback id isFallback)
  have closed : (course.run.pool.close course.run.network).2.1.isClosed id = true := by
    rw [Pool.close, isFallback]
    exact Network.isClosed_dismiss ((Pool.evolves_closeAll _ _).knows id known)
  unfold PoolRun.close
  dsimp only
  split
  · rw [PoolRun.isClosed_rest]
    exact closed
  · exact closed

theorem Sound.closesAll (sound : course.Sound)
    (agrees : course.run.pool.entries.AgreesWith course.run.network) : course.run.ClosesAll := by
  have distinct := agrees.nodup_connections sound.distinct
  have result : course.run.close.2 = _ := Pool.result_closeAll course.run.network distinct
  constructor
  · exact course.run.isClosed_close
  · obtain ⟨fallback, isFallback⟩ := Option.isSome_iff_exists.mp sound.hasFallback
    obtain ⟨deeds, does, areCloses⟩ := course.run.does_close
    refine ⟨fallback, isFallback, ?_⟩
    rw [does.since_eq, areCloses, isFallback, Option.toList_some]
  · exact distinct
  · rintro id (isMember | isFallback)
    · obtain ⟨address, installed⟩ := Entries.exists_installed sound.distinct isMember
      exact PoolRun.isClosed_of_installed sound.knowsInstalled installed
    · exact sound.isClosed_fallback isFallback
  · rw [result]
    cases isFound : course.run.pool.entries.connections.find? course.run.network.isClosed with
    | none => simpa using isFound
    | some id =>
        apply iff_of_false nofun
        intro areOpen
        have isClosed := List.find?_some isFound
        rw [areOpen id (List.mem_of_find?_eq_some isFound)] at isClosed
        cases isClosed
  · rw [result]
    cases isFound : course.run.pool.entries.connections.find? course.run.network.isClosed with
    | none => exact nofun
    | some id =>
        rintro _ ⟨⟩
        obtain ⟨isClosed, earlier, later, isSplit, areOpen⟩ :=
          List.find?_eq_some_iff_append.mp isFound
        exact ⟨earlier, id, later, isSplit, by simpa using areOpen, isClosed, rfl⟩

/-- The entries stand in another order, in which a walk may find them. -/
def walking (course : Course) (walk : Entries) : Course :=
  { course with run := { course.run with pool := { course.run.pool with entries := walk } } }

variable {walk : Entries} (walks : walk.Perm course.run.pool.entries)

include walks

theorem Sound.installed?_walking (sound : course.Sound) (address : String) :
    (course.walking walk).run.pool.entries.installed? address =
      course.run.pool.entries.installed? address :=
  Entries.installed?_perm walks sound.distinct address

theorem Sound.walking (sound : course.Sound) : (course.walking walk).Sound := by
  have sameInstalled := sound.installed?_walking walks
  constructor
  · refine sound.orderly.of_duty_eq rfl rfl rfl (.refl _) fun address id installed => ?_
    exact .inl (sameInstalled address ▸ installed)
  · exact sound.known
  · intro address id installed
    exact sound.installed address id (sameInstalled address ▸ installed)
  · exact sound.fallback
  · exact sound.hasFallback
  · exact (walks.map Prod.fst).nodup_iff.mpr sound.distinct

theorem Sound.agrees_walking (sound : course.Sound)
    (agrees : course.run.pool.entries.AgreesWith course.run.network) :
    (course.walking walk).run.pool.entries.AgreesWith (course.walking walk).run.network := by
  intro address id installed
  exact agrees address id (sound.installed?_walking walks address ▸ installed)

theorem Sound.accounts_walking (sound : course.Sound)
    (accounted : ∀ id ∈ course.dialed, course.run.Accounts id) :
    ∀ id ∈ (course.walking walk).dialed, (course.walking walk).run.Accounts id := by
  intro id isDialed
  apply (accounted id isDialed).imp_right
  rintro ⟨address, installed⟩
  exact ⟨address, (sound.installed?_walking walks address).trans installed⟩

end Course

/-- Close reaches everything, wherever a pool is in its course and in whatever order its entries are
walked: every installed connection is told to close, once, and then the fallback. It succeeds unless
an installed connection has closed before, and else tells of the first one. When a pool that has
been closed is closed once more with something installed, at whatever later moment, it fails. -/
theorem closesAll_of_reaches {dialer : Dialer} (isTruthful : dialer.IsTruthful)
    {addresses : List String} {options : PoolOptions} {start course : Course} {walk : Entries}
    (opens : Opens dialer addresses options start) (reaches : Reaches dialer start course)
    (walks : walk.Perm course.run.pool.entries) :
    (course.walking walk).run.ClosesAll ∧
      ∀ later again, Reaches dialer (course.walking walk).close later →
        again.Perm later.run.pool.entries →
          (later.walking again).run.ClosesAll ∧
            (later.run.pool.entries ≠ [] →
              ∃ fault, (later.walking again).run.close.2 = .error fault) := by
  have sound := reaches.sound opens.sound
  have agrees := reaches.agrees isTruthful opens.sound (opens.agrees isTruthful)
  have accounted : ∀ id ∈ course.dialed, course.run.Accounts id := by
    apply reaches.accounts opens.sound
    cases opens
    exact nofun
  have soundWalking := sound.walking walks
  have agreesWalking := sound.agrees_walking walks agrees
  refine ⟨soundWalking.closesAll agreesWalking, fun later again reachesLater walksAgain => ?_⟩
  obtain ⟨soundLater, closedSince⟩ :=
    reachesLater.closedSince soundWalking (sound.accounts_walking walks accounted)
  have reachesAll : Reaches dialer (course.walking walk) later := reachesLater.head ⟨_, .close⟩
  have agreesLater := reachesAll.agrees isTruthful soundWalking agreesWalking
  have closesAgain := (soundLater.walking walksAgain).closesAll
    (soundLater.agrees_walking walksAgain agreesLater)
  refine ⟨closesAgain, fun isFilled => ?_⟩
  -- Whatever is installed still was installed when the pool was closed.
  obtain ⟨⟨address, id⟩, isEntry⟩ := List.exists_mem_of_ne_nil _ isFilled
  have installed := Entries.installed?_of_mem soundLater.distinct isEntry
  have isClosed := closedSince.closed address id (closedSince.installed address id installed)
  apply closesAgain.fails_of_isClosed _ isClosed
  exact List.mem_map_of_mem (walksAgain.mem_iff.mpr isEntry)

/-- Of three connections one is connected, one is connecting, and one has closed. The pool is walked
from the last to the first, and tells of the one that had closed. Closed once more, and walked the
other way, it fails again. -/
theorem closesAll_of_three :
    ∃ start course, Opens .fresh ["a", "b", "c"] .default start ∧ Reaches .fresh start course ∧
      course.run.pool.entries = [("a", ⟨0⟩), ("b", ⟨1⟩), ("c", ⟨2⟩)] ∧
      course.run.network.isConnected ⟨0⟩ = true ∧ course.run.network.isClosed ⟨1⟩ = false ∧
      course.run.network.isClosed ⟨2⟩ = true ∧
      let walked := course.walking [("c", ⟨2⟩), ("b", ⟨1⟩), ("a", ⟨0⟩)]
      walked.run.ClosesAll ∧ walked.run.close.2 = .error (.connectionClosed "c") ∧
        ∃ fault, (walked.close.walking course.run.pool.entries).run.close.2 = .error fault := by
  have opens : Opens .fresh ["a", "b", "c"] .default _ :=
    @Opens.intro _ _ _ .empty _ _ _ _ rfl
      (.open nofun .connected (.open (by decide) .connecting (.open (by decide) .connected .done)))
      rfl
  have reaches : Reaches .fresh _ _ := .single ⟨_, opens.step_hangUp ⟨2⟩⟩
  have walks : List.Perm [("c", ⟨2⟩), ("b", ⟨1⟩), ("a", ⟨0⟩)]
      [("a", ConnectionId.mk 0), ("b", ⟨1⟩), ("c", ⟨2⟩)] := by decide
  obtain ⟨closesAll, again⟩ := closesAll_of_reaches Dialer.isTruthful_fresh opens reaches walks
  refine ⟨_, _, opens, reaches, rfl, by decide, by decide, by decide, closesAll, rfl, ?_⟩
  exact (again _ _ .refl walks.symm).2 (by decide)

end FailoverPool
