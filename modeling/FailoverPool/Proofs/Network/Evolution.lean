import FailoverPool.Network.Basic

/-!
What a network keeps while it changes: a connection that was opened stays known, keeps its address,
and stays closed once it has closed.

Every operation of the library changes a network in this way (`Evolves`), and so may whoever else
holds its connections. `OnlyCloses` says of a change that it did nothing on the network but close
connections.
-/

namespace FailoverPool
namespace Network

def Knows (network : Network) (id : ConnectionId) : Prop :=
  id.index < network.connections.size

instance (network : Network) (id : ConnectionId) : Decidable (network.Knows id) :=
  inferInstanceAs (Decidable (id.index < network.connections.size))

/-- The one network may become the other. -/
structure Evolves (before after : Network) : Prop where
  knows : ∀ id, before.Knows id → after.Knows id
  address : ∀ id, before.Knows id → after.address id = before.address id
  isClosed : ∀ id, before.isClosed id = true → after.isClosed id = true

namespace Evolves

theorem refl (network : Network) : network.Evolves network :=
  ⟨fun _ known => known, fun _ _ => rfl, fun _ closed => closed⟩

theorem trans {first second third : Network} (earlier : first.Evolves second)
    (later : second.Evolves third) : first.Evolves third where
  knows id known := later.knows id (earlier.knows id known)
  address id known := (later.address id (earlier.knows id known)).trans (earlier.address id known)
  isClosed id closed := later.isClosed id (earlier.isClosed id closed)

/-- What is said of connections does not depend on the clock, the queues or the record. -/
theorem of_connections_eq {before after : Network}
    (same : after.connections = before.connections) : before.Evolves after := by
  constructor
  · intro id known
    simpa only [Knows, same] using known
  · intro id _
    simp only [Network.address, connection?, same]
  · intro id closed
    simpa only [Network.isClosed, connection?, same] using closed

end Evolves

theorem knows_of_isClosed {network : Network} {id : ConnectionId}
    (closed : network.isClosed id = true) : network.Knows id := by
  unfold isClosed connection? at closed
  by_cases inBounds : id.index < network.connections.size
  · exact inBounds
  · simp [Array.getElem?_eq_none (Nat.le_of_not_lt inBounds)] at closed

theorem exists_of_knows {network : Network} {id : ConnectionId} (known : network.Knows id) :
    ∃ connection, network.connection? id = some connection :=
  ⟨_, Array.getElem?_eq_getElem known⟩

@[simp]
theorem connections_note (network : Network) (occurrence : Occurrence) :
    (network.note occurrence).connections = network.connections := rfl

@[simp]
theorem connections_emit (network : Network) (id : ConnectionId) (kind : EventKind) :
    (network.emit id kind).connections = network.connections := by
  unfold emit
  split <;> rfl

theorem evolves_note (network : Network) (occurrence : Occurrence) :
    network.Evolves (network.note occurrence) :=
  .of_connections_eq rfl

theorem evolves_emit (network : Network) (id : ConnectionId) (kind : EventKind) :
    network.Evolves (network.emit id kind) :=
  .of_connections_eq (connections_emit network id kind)

@[simp]
theorem connection?_modify (network : Network) (id other : ConnectionId)
    (change : Connection → Connection) :
    (network.modify id change).connection? other =
      if id = other then (network.connection? other).map change else network.connection? other := by
  unfold connection? modify
  rw [Array.getElem?_modify]
  by_cases same : id = other
  · simp [same]
  · have different : id.index ≠ other.index := fun equal =>
      same (by cases id; cases other; exact congrArg ConnectionId.mk equal)
    simp [same, different]

@[simp]
theorem knows_modify (network : Network) (id other : ConnectionId)
    (change : Connection → Connection) :
    (network.modify id change).Knows other ↔ network.Knows other := by
  simp [Knows, modify]

/-- A change to one connection that keeps its address, and keeps it closed. -/
theorem evolves_modify (network : Network) (id : ConnectionId)
    {change : Connection → Connection}
    (keepsAddress : ∀ connection, (change connection).address = connection.address)
    (keepsClosed : ∀ connection : Connection, connection.state = .closed →
      (change connection).state = .closed) :
    network.Evolves (network.modify id change) := by
  constructor
  · intro other known
    exact (knows_modify network id other change).mpr known
  · intro other _
    unfold Network.address
    rw [connection?_modify]
    split
    · cases network.connection? other with
      | none => rfl
      | some connection => simp [keepsAddress]
    · rfl
  · intro other closed
    unfold Network.isClosed at closed ⊢
    rw [connection?_modify]
    split
    · cases found : network.connection? other with
      | none => simp [found] at closed
      | some connection =>
          simp only [found, Option.any_some, beq_iff_eq] at closed
          simp [keepsClosed connection closed]
    · exact closed

theorem evolves_hangUp (network : Network) (id : ConnectionId) :
    network.Evolves (network.hangUp id) := by
  unfold hangUp
  split
  · exact .refl network
  · refine .trans (evolves_modify network id ?_ ?_) (evolves_emit _ id .closed)
    · exact fun _ => rfl
    · exact fun _ _ => rfl

theorem isClosed_hangUp {network : Network} {id : ConnectionId} (known : network.Knows id) :
    (network.hangUp id).isClosed id = true := by
  unfold hangUp
  split
  · assumption
  · obtain ⟨connection, found⟩ := exists_of_knows known
    apply (evolves_emit _ id .closed).isClosed
    simp [isClosed, found]

theorem isClosed_hangUp_of_ne (network : Network) {id other : ConnectionId}
    (isOther : other ≠ id) : (network.hangUp id).isClosed other = network.isClosed other := by
  unfold hangUp
  split
  · rfl
  · rw [isClosed, connection?, connections_emit, ← connection?, connection?_modify,
      if_neg (Ne.symm isOther), isClosed]

theorem evolves_countClose (network : Network) (id : ConnectionId) (occurrence : Occurrence) :
    network.Evolves ((network.modify id fun connection =>
      { connection with closeCalls := connection.closeCalls + 1 }).note occurrence) := by
  refine .trans (evolves_modify network id ?_ ?_) (evolves_note _ occurrence)
  · exact fun _ => rfl
  · exact fun _ closed => closed

theorem evolves_dismiss (network : Network) (id : ConnectionId) :
    network.Evolves (network.dismiss id) := by
  unfold dismiss close
  dsimp only
  split
  · exact (evolves_countClose network id _).trans (evolves_hangUp _ id)
  · exact evolves_countClose network id _

theorem isClosed_dismiss {network : Network} {id : ConnectionId} (known : network.Knows id) :
    (network.dismiss id).isClosed id = true := by
  unfold dismiss close
  dsimp only
  split
  · exact isClosed_hangUp ((evolves_countClose network id _).knows id known)
  · next wasClosed =>
    apply (evolves_countClose network id _).isClosed
    simpa using wasClosed

theorem isClosed_dismiss_of_ne (network : Network) {id other : ConnectionId}
    (isOther : other ≠ id) : (network.dismiss id).isClosed other = network.isClosed other := by
  have counted (occurrence : Occurrence) : ((network.modify id fun connection =>
      { connection with closeCalls := connection.closeCalls + 1 }).note occurrence).isClosed other =
        network.isClosed other := by
    rw [isClosed, connection?, connections_note, ← connection?, connection?_modify,
      if_neg (Ne.symm isOther), isClosed]
  unfold dismiss close
  dsimp only
  split
  · rw [isClosed_hangUp_of_ne _ isOther]
    exact counted _
  · exact counted _

theorem evolves_hand {network after : Network} {id : ConnectionId} {stream : UInt64}
    {request : Request} (isHanded : network.hand id stream request = .ok after) :
    network.Evolves after := by
  unfold hand at isHanded
  split at isHanded
  · cases isHanded
  · cases isHanded
    exact evolves_note network _

theorem connection?_addConnection {network : Network} {id : ConnectionId} (known : network.Knows id)
    (address : String) (state : ConnectionState) (queue : Option QueueId) :
    (network.addConnection address state queue).1.connection? id = network.connection? id :=
  Array.getElem?_push_lt known |>.trans (Array.getElem?_eq_getElem known).symm

theorem evolves_addConnection (network : Network) (address : String) (state : ConnectionState)
    (queue : Option QueueId) : network.Evolves (network.addConnection address state queue).1 := by
  have kept (id) (known : network.Knows id) := connection?_addConnection known address state queue
  constructor
  · intro id known
    simpa [Knows, addConnection] using Nat.lt_succ_of_lt known
  · intro id known
    simp only [Network.address, kept id known]
  · intro id closed
    simpa only [Network.isClosed, kept id (knows_of_isClosed closed)] using closed

/-- A connection that was opened has not been known before, is known now, and has the address that
was asked for. -/
theorem evolves_openConnection (network : Network) (address : String) (state : ConnectionState)
    (queue : QueueId) :
    let (after, id) := network.openConnection address state queue
    network.Evolves after ∧ ¬ network.Knows id ∧ after.Knows id ∧ after.address id = address := by
  refine ⟨?_, Nat.lt_irrefl _, ?_, ?_⟩
  · exact ((evolves_addConnection network address state (some queue)).trans
      (evolves_note _ _)).trans (evolves_emit _ _ _)
  · simp [Knows]
  · simp [Network.address, connection?]

/-- Between two moments nothing was done on the network but to close connections. -/
def OnlyCloses (before after : Network) : Prop :=
  ∃ added : List (Instant × Occurrence),
    after.record.toList = before.record.toList ++ added ∧
      ∀ entry ∈ added, ∃ id wasOpen, entry.2 = .closed id wasOpen

namespace OnlyCloses

theorem of_record_eq {before after : Network} (same : after.record = before.record) :
    before.OnlyCloses after :=
  ⟨[], by simp [same], by simp⟩

theorem trans {first second third : Network} (earlier : first.OnlyCloses second)
    (later : second.OnlyCloses third) : first.OnlyCloses third := by
  obtain ⟨added, isRecord, areCloses⟩ := earlier
  obtain ⟨addedLater, isRecordLater, areClosesLater⟩ := later
  refine ⟨added ++ addedLater, ?_, ?_⟩
  · rw [isRecordLater, isRecord, List.append_assoc]
  · intro entry membership
    rcases List.mem_append.mp membership with early | late
    · exact areCloses entry early
    · exact areClosesLater entry late

end OnlyCloses

@[simp]
theorem record_emit (network : Network) (id : ConnectionId) (kind : EventKind) :
    (network.emit id kind).record = network.record := by
  unfold emit
  split <;> rfl

@[simp]
theorem record_hangUp (network : Network) (id : ConnectionId) :
    (network.hangUp id).record = network.record := by
  unfold hangUp
  split
  · rfl
  · exact record_emit _ id .closed

theorem onlyCloses_dismiss (network : Network) (id : ConnectionId) :
    network.OnlyCloses (network.dismiss id) := by
  refine ⟨[(network.now, .closed id (!network.isClosed id))], ?_, ?_⟩
  · unfold dismiss close
    dsimp only
    split <;> simp [note, modify]
  · intro entry membership
    exact ⟨id, !network.isClosed id, congrArg Prod.snd (List.mem_singleton.mp membership)⟩

end Network
end FailoverPool
