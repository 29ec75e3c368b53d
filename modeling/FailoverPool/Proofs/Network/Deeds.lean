import FailoverPool.Proofs.Network.Evolution

/-!
What is done on a network, deed by deed.

A pool works on its network in two ways only: it takes notes, and it tells connections to close.
`Acts` lists such work in the words of the record. Whatever is done in this way, the record tells it
in full (`Acts.since_eq`), no event that waits is lost, and no connection reports elsewhere.
-/

namespace FailoverPool

/-- The address that is dialed. -/
def Occurrence.dialed? : Occurrence → Option String
  | .dial address => some address
  | _ => none

/-- The connection that is told to close. -/
def Occurrence.closes? : Occurrence → Option ConnectionId
  | .closed id _ => some id
  | _ => none

namespace Network

/-- What has been recorded since an earlier moment. -/
def since (network earlier : Network) : List Occurrence :=
  (network.record.toList.drop earlier.record.size).map Prod.snd

/-- The events that wait in a queue, oldest first. -/
def events (network : Network) (queue : QueueId) : List Event :=
  ((network.queues[queue.index]?).map (·.events)).getD []

/-- The connection tells the queue what happens to it. -/
def ReportsTo (network : Network) (queue : QueueId) (id : ConnectionId) : Prop :=
  (network.connection? id).bind (·.queue) = some queue

/-- The network changes by notes and by connections that are told to close, and this is what the
record tells of it. -/
inductive Acts : Network → List Occurrence → Network → Prop
  | nil {network} : Acts network [] network
  | note {network after occurrence later} :
      Acts (network.note occurrence) later after → Acts network (occurrence :: later) after
  | dismiss {network after id later} :
      Acts (network.dismiss id) later after →
      Acts network (.closed id (!network.isClosed id) :: later) after

/-- The record goes on, with nothing but such occurrences. -/
def RecordsOnly (before after : Network) (isExpected : Occurrence → Prop) : Prop :=
  ∃ added : List (Instant × Occurrence), after.record.toList = before.record.toList ++ added ∧
    ∀ entry ∈ added, isExpected entry.2

theorem record_dismiss (network : Network) (id : ConnectionId) :
    (network.dismiss id).record =
      network.record.push (network.now, .closed id (!network.isClosed id)) := by
  unfold dismiss close
  dsimp only
  split <;> simp [note, modify]

theorem mem_events_emit {network : Network} {queue : QueueId} {event : Event}
    (waits : event ∈ network.events queue) (id : ConnectionId) (kind : EventKind) :
    event ∈ (network.emit id kind).events queue := by
  unfold emit
  split
  · exact waits
  · next target _ =>
    unfold events at waits ⊢
    rw [Array.getElem?_modify]
    split
    · cases found : network.queues[queue.index]? with
      | none => simp [found] at waits
      | some present =>
          have stays : event ∈ (present.emit ⟨id, kind⟩).events := by
            have isPresent : event ∈ present.events := by simpa [found] using waits
            unfold EventQueue.emit
            split
            · exact List.mem_append_left _ isPresent
            · exact isPresent
          simpa [found] using stays
    · exact waits

theorem mem_events_hangUp {network : Network} {queue : QueueId} {event : Event}
    (waits : event ∈ network.events queue) (id : ConnectionId) :
    event ∈ (network.hangUp id).events queue := by
  unfold hangUp
  split
  · exact waits
  · let closed := network.modify id ({ · with state := .closed })
    have stillWaits : event ∈ closed.events queue := waits
    exact mem_events_emit stillWaits id .closed

theorem mem_events_dismiss {network : Network} {queue : QueueId} {event : Event}
    (waits : event ∈ network.events queue) (id : ConnectionId) :
    event ∈ (network.dismiss id).events queue := by
  let counted := (network.modify id fun connection =>
    { connection with closeCalls := connection.closeCalls + 1 }).note
      (.closed id !network.isClosed id)
  have stillWaits : event ∈ counted.events queue := waits
  unfold dismiss close
  dsimp only
  split
  · exact mem_events_hangUp stillWaits id
  · exact stillWaits

/-- A change to one connection that does not show. -/
theorem map_connection?_modify {network : Network} {id : ConnectionId}
    {change : Connection → Connection} {Seen : Type} {see : Connection → Seen}
    (isUnseen : ∀ connection, see (change connection) = see connection) (other : ConnectionId) :
    ((network.modify id change).connection? other).map see =
      (network.connection? other).map see := by
  rw [connection?_modify]
  split
  · cases network.connection? other with
    | none => rfl
    | some connection => simp [isUnseen]
  · rfl

theorem map_connection?_hangUp {Seen : Type} {see : Connection → Seen}
    (isUnseen : ∀ connection, see { connection with state := .closed } = see connection)
    (network : Network) (id other : ConnectionId) :
    ((network.hangUp id).connection? other).map see = (network.connection? other).map see := by
  unfold hangUp
  split
  · rfl
  · rw [connection?, connections_emit, ← connection?]
    exact map_connection?_modify isUnseen other

/-- What is seen of a connection is not whether it has closed or was told to. -/
structure IsBlind {Seen : Type} (see : Connection → Seen) : Prop where
  state : ∀ connection, see { connection with state := .closed } = see connection
  closeCalls : ∀ connection : Connection,
    see { connection with closeCalls := connection.closeCalls + 1 } = see connection

theorem map_connection?_dismiss {Seen : Type} {see : Connection → Seen} (isBlind : IsBlind see)
    (network : Network) (id other : ConnectionId) :
    ((network.dismiss id).connection? other).map see = (network.connection? other).map see := by
  have counted (occurrence : Occurrence) : (((network.modify id fun connection =>
      { connection with closeCalls := connection.closeCalls + 1 }).note occurrence).connection?
        other).map see = (network.connection? other).map see :=
    map_connection?_modify isBlind.closeCalls other
  unfold dismiss close
  dsimp only
  split
  · rw [map_connection?_hangUp isBlind.state]
    exact counted _
  · exact counted _

theorem reportsTo_iff (network : Network) (queue : QueueId) (id : ConnectionId) :
    network.ReportsTo queue id ↔ (network.connection? id).map (·.queue) = some (some queue) := by
  unfold ReportsTo
  cases network.connection? id <;> simp

theorem reportsTo_modify {network : Network} {queue : QueueId} {id other : ConnectionId}
    {change : Connection → Connection}
    (keepsQueue : ∀ connection, (change connection).queue = connection.queue) :
    (network.modify id change).ReportsTo queue other ↔ network.ReportsTo queue other := by
  rw [reportsTo_iff, map_connection?_modify keepsQueue, ← reportsTo_iff]

theorem reportsTo_of_connections_eq {before after : Network}
    (same : after.connections = before.connections) (queue : QueueId) (id : ConnectionId) :
    after.ReportsTo queue id ↔ before.ReportsTo queue id := by
  simp only [ReportsTo, connection?, same]

theorem reportsTo_hangUp (network : Network) (queue : QueueId) (id other : ConnectionId) :
    (network.hangUp id).ReportsTo queue other ↔ network.ReportsTo queue other := by
  rw [reportsTo_iff, map_connection?_hangUp fun _ => rfl, ← reportsTo_iff]

theorem since_of_record_eq {before after network : Network}
    (same : after.record = before.record) : after.since network = before.since network := by
  simp only [since, same]

theorem acts_hand {network after : Network} {id : ConnectionId} {stream : UInt64}
    {request : Request} (isHanded : network.hand id stream request = .ok after) :
    network.Acts [.sent id stream request] after := by
  unfold hand at isHanded
  split at isHanded
  · cases isHanded
  · cases isHanded
    exact .note .nil

namespace Acts

variable {before between after : Network} {deeds later : List Occurrence}

theorem append (acts : before.Acts deeds between) (actsLater : between.Acts later after) :
    before.Acts (deeds ++ later) after := by
  induction acts with
  | nil => exact actsLater
  | note _ inductionHypothesis => exact .note (inductionHypothesis actsLater)
  | dismiss _ inductionHypothesis => exact .dismiss (inductionHypothesis actsLater)

theorem evolves (acts : before.Acts deeds after) : before.Evolves after := by
  induction acts with
  | nil => exact .refl _
  | note _ inductionHypothesis => exact (evolves_note _ _).trans inductionHypothesis
  | dismiss _ inductionHypothesis => exact (evolves_dismiss _ _).trans inductionHypothesis

/-- Whoever is not told to close is not closed by it. -/
theorem isClosed_eq (acts : before.Acts deeds after) {id : ConnectionId}
    (isSpared : some id ∉ deeds.map Occurrence.closes?) :
    after.isClosed id = before.isClosed id := by
  induction acts with
  | nil => rfl
  | note _ inductionHypothesis =>
      rw [List.map_cons, List.mem_cons, not_or] at isSpared
      exact inductionHypothesis isSpared.2
  | dismiss _ inductionHypothesis =>
      rw [List.map_cons, List.mem_cons, not_or] at isSpared
      rw [inductionHypothesis isSpared.2]
      exact isClosed_dismiss_of_ne _ fun same => isSpared.1 (congrArg some same)

theorem exists_record (acts : before.Acts deeds after) :
    ∃ added, after.record.toList = before.record.toList ++ added ∧ added.map Prod.snd = deeds := by
  induction acts with
  | nil => exact ⟨[], (List.append_nil _).symm, rfl⟩
  | @note network _ occurrence _ _ inductionHypothesis =>
      obtain ⟨added, isRecord, areDeeds⟩ := inductionHypothesis
      refine ⟨(network.now, occurrence) :: added, ?_, by simp [areDeeds]⟩
      simp [isRecord, Network.note]
  | @dismiss network _ id _ _ inductionHypothesis =>
      obtain ⟨added, isRecord, areDeeds⟩ := inductionHypothesis
      exact ⟨(network.now, .closed id (!network.isClosed id)) :: added,
        by simp [isRecord, record_dismiss], by simp [areDeeds]⟩

theorem recordsOnly (acts : before.Acts deeds after) {isExpected : Occurrence → Prop}
    (areExpected : ∀ occurrence ∈ deeds, isExpected occurrence) :
    before.RecordsOnly after isExpected := by
  obtain ⟨added, isRecord, areDeeds⟩ := acts.exists_record
  refine ⟨added, isRecord, fun entry isAdded => areExpected entry.2 ?_⟩
  rw [← areDeeds]
  exact List.mem_map_of_mem isAdded

/-- The record tells all that was done, in order, and nothing else. -/
theorem since_eq (acts : before.Acts deeds after) : after.since before = deeds := by
  obtain ⟨added, isRecord, areDeeds⟩ := acts.exists_record
  rw [since, isRecord, ← Array.length_toList, List.drop_left, areDeeds]

theorem mem_events (acts : before.Acts deeds after) {queue : QueueId} {event : Event}
    (waits : event ∈ before.events queue) : event ∈ after.events queue := by
  induction acts with
  | nil => exact waits
  | note _ inductionHypothesis => exact inductionHypothesis waits
  | dismiss _ inductionHypothesis => exact inductionHypothesis (mem_events_dismiss waits _)

theorem map_connection?_eq (acts : before.Acts deeds after) {Seen : Type} {see : Connection → Seen}
    (isBlind : IsBlind see) (id : ConnectionId) :
    (after.connection? id).map see = (before.connection? id).map see := by
  induction acts with
  | nil => rfl
  | note _ inductionHypothesis => exact inductionHypothesis
  | dismiss _ inductionHypothesis =>
      rw [inductionHypothesis]
      exact map_connection?_dismiss isBlind _ _ id

theorem reportsTo (acts : before.Acts deeds after) (queue : QueueId) (id : ConnectionId) :
    after.ReportsTo queue id ↔ before.ReportsTo queue id := by
  rw [reportsTo_iff, acts.map_connection?_eq ⟨fun _ => rfl, fun _ => rfl⟩, ← reportsTo_iff]

end Acts

end Network
end FailoverPool
