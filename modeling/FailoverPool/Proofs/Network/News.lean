import FailoverPool.Proofs.Network.Deeds

/-!
What a queue hears of its network.

A network informs a queue of a change (`Informs`) if no event that waits is lost, and if every
connection that reports there and has closed says so. While there is room, this is what happens when
a connection opens (`informs_openConnection`) or ends (`informs_hangUp`).
-/

namespace FailoverPool
namespace Network

/-- Let these events wait in a queue, in place of those that do. -/
def setEvents (network : Network) (queue : QueueId) (events : List Event) : Network :=
  { network with queues := network.queues.modify queue.index ({ · with events }) }

/-- Every connection that reports to the queue and has closed meanwhile has said so. -/
def Announces (before : Network) (queue : QueueId) (after : Network) : Prop :=
  ∀ id, after.ReportsTo queue id → before.isClosed id = false → after.isClosed id = true →
    ⟨id, .closed⟩ ∈ after.events queue

/-- The network evolves, and the queue misses nothing of it. -/
structure Informs (before : Network) (queue : QueueId) (after : Network) : Prop where
  evolves : before.Evolves after
  keeps : ∀ event ∈ before.events queue, event ∈ after.events queue
  reports : ∀ id, before.Knows id → (after.ReportsTo queue id ↔ before.ReportsTo queue id)
  announces : before.Announces queue after

/-- The queue is read, and takes one more event. -/
def HasRoom (network : Network) (queue : QueueId) : Prop :=
  ∃ present, network.queues[queue.index]? = some present ∧ present.isRead = true ∧
    present.events.length < present.capacity

theorem events_setEvents {network : Network} {queue : QueueId} {event : Event}
    {later : List Event} (areEvents : network.events queue = event :: later)
    (events : List Event) : (network.setEvents queue events).events queue = events := by
  unfold Network.events at areEvents ⊢
  unfold setEvents
  rw [Array.getElem?_modify, if_pos rfl]
  cases found : network.queues[queue.index]? with
  | none => simp [found] at areEvents
  | some present => rfl

theorem connection?_openConnection {network : Network} {id : ConnectionId}
    (known : network.Knows id) (address : String) (state : ConnectionState) (queue : QueueId) :
    (network.openConnection address state queue).1.connection? id = network.connection? id := by
  rw [← connection?_addConnection known address state (some queue), connection?, openConnection,
    connections_emit, connections_note, connection?]

theorem connection?_openConnection_new (network : Network) (address : String)
    (state : ConnectionState) (queue : QueueId) :
    ((network.openConnection address state queue).1.connection?
        (network.openConnection address state queue).2).map (·.state) = some state ∧
      (network.openConnection address state queue).1.ReportsTo queue
        (network.openConnection address state queue).2 := by
  simp [openConnection, addConnection, ReportsTo, connection?]

theorem knows_of_reportsTo {network : Network} {queue : QueueId} {id : ConnectionId}
    (reports : network.ReportsTo queue id) : network.Knows id := by
  obtain ⟨_, found, _⟩ := Option.bind_eq_some_iff.mp reports
  exact (Array.getElem?_eq_some_iff.mp found).1

theorem isClosed_eq_false_of_not_knows {network : Network} {id : ConnectionId}
    (isNew : ¬ network.Knows id) : network.isClosed id = false := by
  cases closed : network.isClosed id with
  | false => rfl
  | true => exact absurd (knows_of_isClosed closed) isNew

theorem informs_openConnection (network : Network) (address : String) {state : ConnectionState}
    (isAlive : state ≠ .closed) (queue : QueueId) :
    network.Informs queue (network.openConnection address state queue).1 := by
  constructor
  · exact (network.evolves_openConnection address state queue).1
  · intro event waits
    have stillWaits : event ∈
        ((network.addConnection address state (some queue)).1.note
          (.opened (network.addConnection address state (some queue)).2)).events queue := waits
    exact mem_events_emit stillWaits _ .connected
  · intro id known
    rw [ReportsTo, connection?_openConnection known, ReportsTo]
  · intro id _ wasOpen closed
    -- Nobody has closed: who was known has kept its state, and the new one is not closed.
    exfalso
    by_cases known : network.Knows id
    · rw [isClosed, connection?_openConnection known, ← isClosed, wasOpen] at closed
      cases closed
    · have isNew : id = (network.openConnection address state queue).2 := by
        have inBounds := knows_of_isClosed closed
        simp only [Knows, openConnection, addConnection, connections_emit, connections_note,
          Array.size_push] at known inBounds ⊢
        exact congrArg ConnectionId.mk (by omega)
      have isState := (network.connection?_openConnection_new address state queue).1
      rw [← isNew] at isState
      obtain ⟨connection, found, rfl⟩ := Option.map_eq_some_iff.mp isState
      rw [isClosed, found] at closed
      exact isAlive (by simpa using closed)

/-- A queue with room takes the event of a connection that reports there. -/
theorem mem_events_emit_self {network : Network} {queue : QueueId} {id : ConnectionId}
    (reports : network.ReportsTo queue id) (hasRoom : network.HasRoom queue) (kind : EventKind) :
    ⟨id, kind⟩ ∈ (network.emit id kind).events queue := by
  obtain ⟨present, found, isRead, isFree⟩ := hasRoom
  simp only [emit, ReportsTo] at reports ⊢
  rw [reports]
  dsimp only
  rw [Network.events, Array.getElem?_modify, if_pos rfl, found]
  simp [EventQueue.emit, isRead, isFree]

theorem informs_hangUp {network : Network} {queue : QueueId} (hasRoom : network.HasRoom queue)
    (id : ConnectionId) : network.Informs queue (network.hangUp id) := by
  constructor
  · exact network.evolves_hangUp id
  · exact fun event waits => mem_events_hangUp waits id
  · exact fun other _ => reportsTo_hangUp network queue id other
  · intro other reports wasOpen closed
    by_cases same : other = id
    · subst same
      rw [hangUp, if_neg (by simp [wasOpen])]
      rw [reportsTo_hangUp] at reports
      let closed := network.modify other ({ · with state := .closed })
      have stillReports : closed.ReportsTo queue other :=
        (reportsTo_modify (by exact fun _ => rfl)).mpr reports
      exact mem_events_emit_self stillReports hasRoom .closed
    · rw [isClosed_hangUp_of_ne network same, wasOpen] at closed
      cases closed

namespace Informs

variable {before after : Network} {queue : QueueId} {id : ConnectionId}

/-- A connection that has closed has its event in the queue, if it has closed meanwhile or if its
event was there already. -/
theorem waits (informs : before.Informs queue after) (reports : after.ReportsTo queue id)
    (closed : after.isClosed id = true)
    (waited : before.isClosed id = true → ⟨id, .closed⟩ ∈ before.events queue) :
    ⟨id, .closed⟩ ∈ after.events queue := by
  cases wasClosed : before.isClosed id with
  | true => exact informs.keeps _ (waited wasClosed)
  | false => exact informs.announces id reports wasClosed closed

theorem reportedBefore (informs : before.Informs queue after) (reports : after.ReportsTo queue id)
    (wasClosed : before.isClosed id = true) : before.ReportsTo queue id :=
  (informs.reports id (knows_of_isClosed wasClosed)).mp reports

end Informs

end Network
end FailoverPool
