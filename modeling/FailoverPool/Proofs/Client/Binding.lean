import FailoverPool.Proofs.Client.Routing
import FailoverPool.Proofs.Pool.Deeds

/-!
A prepared statement never runs on the wrong connection.

A `Client` has any number of pools on one network, and prepares statements through them and through
connections. It keeps where the request of each preparation stands in the record, so that it is
known whose answer made a statement. Whatever is entered into the record, requests that belong to a
connection were handed to that connection (`Occurrence.IsRightful`). Main statement:
`binds_of_reaches`.
-/

namespace FailoverPool

/-- If it is a request that was handed over, and belongs to a connection, it was handed to that
connection. -/
def Occurrence.IsRightful : Occurrence → Prop
  | .sent id _ request => ∀ bound, request.boundTo? = some bound → id = bound
  | .dial _ | .refused _ | .opened _ | .closed _ _ => True

theorem Occurrence.isRightful_of_upkeep {occurrence : Occurrence}
    (isOfUpkeep : occurrence.IsOfUpkeep) : occurrence.IsRightful := by
  cases occurrence with
  | sent id stream request =>
      intro bound isBound
      rw [isOfUpkeep] at isBound
      cases isBound
  | dial | refused | opened | closed => trivial

/-- The record goes on, with nothing but rightful occurrences. -/
def Network.RecordsRightly (before after : Network) : Prop :=
  ∃ added : List (Instant × Occurrence), after.record.toList = before.record.toList ++ added ∧
    ∀ entry ∈ added, entry.2.IsRightful

theorem Network.RecordsRightly.of_record_eq {before after : Network}
    (same : after.record = before.record) : before.RecordsRightly after :=
  ⟨[], by simp [same], nofun⟩

theorem Network.Acts.recordsRightly {before after : Network} {deeds : List Occurrence}
    (acts : before.Acts deeds after) (areRightful : ∀ occurrence ∈ deeds, occurrence.IsRightful) :
    before.RecordsRightly after :=
  acts.recordsOnly areRightful

theorem Network.recordsRightly_hand {network after : Network} {id : ConnectionId} {stream : UInt64}
    {request : Request} (isHanded : network.hand id stream request = .ok after)
    (isRightful : ∀ bound, request.boundTo? = some bound → id = bound) :
    network.RecordsRightly after :=
  (acts_hand isHanded).recordsRightly (List.forall_mem_singleton.mpr isRightful)

/-- A router hands what belongs to a connection to that connection. -/
theorem ConnectionId.eq_bound_of_route {connection target : ConnectionId} {request : Request}
    (isRouted : connection.route request = .ok target) :
    ∀ bound, request.boundTo? = some bound → target = bound := by
  intro bound isBound
  rw [route_of_bound isBound] at isRouted
  split at isRouted
  · next same =>
    cases isRouted
    exact same.symm
  · cases isRouted

theorem Pool.eq_bound_of_route {pool : Pool} {network : Network} {request : Request}
    {target : ConnectionId} (isRouted : (pool.route network request).2 = .ok target) :
    ∀ bound, request.boundTo? = some bound → target = bound := by
  intro bound isBound
  rw [route_of_bound isBound] at isRouted
  split at isRouted
  · cases isRouted
    rfl
  · cases isRouted

theorem PoolRun.Works.recordsRightly {before after : PoolRun} (works : before.Works after) :
    before.network.RecordsRightly after.network := by
  obtain ⟨deeds, ⟨network, acts, _, sameRecord, _⟩, areOfUpkeep⟩ := works
  have areRightful (occurrence) (isDeed : occurrence ∈ deeds) : occurrence.IsRightful :=
    Occurrence.isRightful_of_upkeep (areOfUpkeep occurrence isDeed)
  obtain ⟨added, isRecord, areRightful⟩ := acts.recordsRightly areRightful
  exact ⟨added, by rw [sameRecord, isRecord], areRightful⟩

theorem PoolRun.recordsRightly_request (run : PoolRun) (request : Request) :
    run.network.RecordsRightly (run.request request).network := by
  unfold PoolRun.request
  cases isRouted : run.pool.route run.network request with
  | mk pool target =>
      cases target with
      | error _ => exact .of_record_eq rfl
      | ok id =>
          dsimp only
          cases isHanded : run.network.hand id 0 request with
          | error _ => exact .of_record_eq rfl
          | ok network =>
              apply Network.recordsRightly_hand isHanded
              exact Pool.eq_bound_of_route (congrArg Prod.snd isRouted)

theorem Step.recordsRightly {dialer : Dialer} {before after : Course} {move : Move}
    (step : Step dialer before move after) (isInside : move ≠ .surroundings) :
    before.run.network.RecordsRightly after.run.network := by
  cases isSilent : move.isSilent with
  | true => exact (step.works isSilent).recordsRightly
  | false =>
      cases step with
      | surroundings => exact absurd rfl isInside
      | request request => exact before.run.recordsRightly_request request
      | select | event | check | discovery | answer | refused | opened | close | release =>
          cases isSilent

/-- A pool at work, without the network that it shares with others. -/
structure Member where
  pool : Pool
  duty : Duty
  warmed : List ConnectionId
  dialed : List ConnectionId

def Member.course (member : Member) (network : Network) : Course :=
  ⟨⟨network, member.pool, member.duty⟩, member.warmed, member.dialed⟩

def Course.member (course : Course) : Member :=
  ⟨course.run.pool, course.run.duty, course.warmed, course.dialed⟩

/-- A statement that is being prepared. -/
structure Preparation where
  /-- The place of its request in the record. -/
  place : Nat
  /-- The connection that it was asked of. -/
  connection : ConnectionId

structure Prepared where
  statement : Statement
  /-- The connection that answered the request to prepare it. -/
  answeredBy : ConnectionId

/-- Whatever one process does with connections and pools. -/
structure Client where
  network : Network
  pools : List Member
  preparations : List Preparation
  statements : List Prepared

namespace Client

def empty : Client := ⟨.empty, [], [], []⟩

/-- One move of a client. What a pool was before it joins is left open, and so is what happens to
connections meanwhile, but for requests that belong to a connection: these go through routers. -/
inductive Proceeds (dialer : Dialer) : Client → Client → Prop where
  | surroundings {client network} :
      client.network.Evolves network →
      (∃ added : List (Instant × Occurrence),
        network.record.toList = client.network.record.toList ++ added ∧
          ∀ moment id stream request, (moment, .sent id stream request) ∈ added →
            request.boundTo? = none) →
      Proceeds dialer client { client with network }
  | join {client} (member : Member) :
      Proceeds dialer client { client with pools := member :: client.pools }
  /-- A pool moves, and be it that a caller sends a request through it. -/
  | pool {client earlier member later move course} :
      client.pools = earlier ++ member :: later →
      Step dialer (member.course client.network) move course → move ≠ .surroundings →
      Proceeds dialer client { client with
        network := course.run.network
        pools := earlier ++ course.member :: later }
  | connection {client connection request target network} :
      ConnectionId.route connection request = .ok target →
      client.network.hand target 0 request = .ok network →
      Proceeds dialer client { client with network }
  | stream {client stream request target network} :
      Stream.route stream request = .ok target →
      client.network.hand target stream.id request = .ok network →
      Proceeds dialer client { client with network }
  | prepare {client connection sql target network} :
      ConnectionId.route connection (.prepare sql) = .ok target →
      client.network.hand target 0 (.prepare sql) = .ok network →
      Proceeds dialer client { client with
        network
        preparations := ⟨client.network.record.size, connection⟩ :: client.preparations }
  | prepareThrough {client earlier member later pool connection sql target network} :
      client.pools = earlier ++ member :: later →
      member.pool.select client.network = (pool, some connection) →
      ConnectionId.route connection (.prepare sql) = .ok target →
      client.network.hand target 0 (.prepare sql) = .ok network →
      Proceeds dialer client { client with
        network
        pools := earlier ++ { member with pool } :: later
        preparations := ⟨client.network.record.size, connection⟩ :: client.preparations }
  /-- The connection that has the request answers it. -/
  | answered {client preparation moment id stream request response statement} :
      preparation ∈ client.preparations →
      client.network.record.toList[preparation.place]? = some (moment, .sent id stream request) →
      Response.toStatement response preparation.connection = .ok statement →
      Proceeds dialer client { client with statements := ⟨statement, id⟩ :: client.statements }

def Reaches (dialer : Dialer) : Client → Client → Prop :=
  Relation.ReflTransGen (Proceeds dialer)

/-- What holds wherever a client is. -/
structure Sound (client : Client) : Prop where
  rightful : ∀ entry ∈ client.network.record.toList, entry.2.IsRightful
  preparing : ∀ preparation ∈ client.preparations, ∃ moment sql,
    client.network.record.toList[preparation.place]? =
      some (moment, .sent preparation.connection 0 (.prepare sql))
  prepared : ∀ prepared ∈ client.statements, prepared.statement.connection = prepared.answeredBy

theorem sound_empty : Client.empty.Sound := ⟨nofun, nofun, nofun⟩

/-- The record goes on, and with it nothing that was entered changes its place. -/
theorem Sound.goesOn {before after : Client} (sound : before.Sound)
    (records : before.network.RecordsRightly after.network)
    (samePreparations : after.preparations = before.preparations)
    (sameStatements : after.statements = before.statements) : after.Sound := by
  obtain ⟨added, isRecord, areRightful⟩ := records
  constructor
  · rw [isRecord]
    exact List.forall_mem_append.mpr ⟨sound.rightful, areRightful⟩
  · rw [samePreparations, isRecord]
    intro preparation isPreparation
    obtain ⟨moment, sql, isRequest⟩ := sound.preparing preparation isPreparation
    refine ⟨moment, sql, ?_⟩
    rw [List.getElem?_append_left (List.getElem?_eq_some_iff.mp isRequest).1]
    exact isRequest
  · rw [sameStatements]
    exact sound.prepared

/-- A preparation begins with its request at the end of the record. -/
theorem Sound.prepare {before : Client} (sound : before.Sound) {connection target : ConnectionId}
    {sql : String} {network : Network} (isRouted : connection.route (.prepare sql) = .ok target)
    (isHanded : before.network.hand target 0 (.prepare sql) = .ok network) (pools : List Member) :
    Sound { before with
      network
      pools
      preparations := ⟨before.network.record.size, connection⟩ :: before.preparations } := by
  have records := Network.recordsRightly_hand isHanded (ConnectionId.eq_bound_of_route isRouted)
  have goesOn : Sound { before with network, pools } := sound.goesOn records rfl rfl
  refine ⟨goesOn.rightful, List.forall_mem_cons.mpr ⟨?_, goesOn.preparing⟩, goesOn.prepared⟩
  obtain rfl := ConnectionId.eq_of_route isRouted
  obtain ⟨added, isRecord, areDeeds⟩ := (Network.acts_hand isHanded).exists_record
  obtain ⟨⟨moment, occurrence⟩, rfl, rfl⟩ := List.map_eq_singleton_iff.mp areDeeds
  refine ⟨moment, sql, ?_⟩
  rw [isRecord, List.getElem?_append_right (by simp)]
  simp

theorem connection_of_toStatement {response : Response} {connection : ConnectionId}
    {statement : Statement} (isAnswer : response.toStatement connection = .ok statement) :
    statement.connection = connection := by
  unfold Response.toStatement at isAnswer
  split at isAnswer
  · cases isAnswer
  · cases isAnswer
    rfl

theorem Proceeds.sound {dialer : Dialer} {before after : Client}
    (proceeds : Proceeds dialer before after) (sound : before.Sound) : after.Sound := by
  cases proceeds with
  | surroundings _ grows =>
      obtain ⟨added, isRecord, areUnbound⟩ := grows
      refine sound.goesOn ⟨added, isRecord, ?_⟩ rfl rfl
      rintro ⟨moment, occurrence⟩ isAdded
      cases occurrence with
      | sent id stream request =>
          intro bound isBound
          rw [areUnbound moment id stream request isAdded] at isBound
          cases isBound
      | dial | refused | opened | closed => trivial
  | join member => exact sound.goesOn (.of_record_eq rfl) rfl rfl
  | pool _ step isInside => exact sound.goesOn (step.recordsRightly isInside) rfl rfl
  | connection isRouted isHanded | stream isRouted isHanded =>
      have isRightful := ConnectionId.eq_bound_of_route isRouted
      exact sound.goesOn (Network.recordsRightly_hand isHanded isRightful) rfl rfl
  | prepare isRouted isHanded => exact sound.prepare isRouted isHanded _
  | prepareThrough _ _ isRouted isHanded => exact sound.prepare isRouted isHanded _
  | answered isPreparation isRequest isAnswer =>
      refine ⟨sound.rightful, sound.preparing, List.forall_mem_cons.mpr ⟨?_, sound.prepared⟩⟩
      obtain ⟨_, _, isOwnRequest⟩ := sound.preparing _ isPreparation
      rw [isRequest] at isOwnRequest
      cases isOwnRequest
      exact connection_of_toStatement isAnswer

theorem Reaches.sound {dialer : Dialer} {before after : Client}
    (reaches : Reaches dialer before after) (sound : before.Sound) : after.Sound := by
  induction reaches with
  | refl => exact sound
  | tail _ proceeds inductionHypothesis => exact proceeds.sound inductionHypothesis

/-- The requests of a statement go to the connection that prepared it, and nowhere else: so it is in
the record, and so do pools, connections and streams route them. -/
structure Binds (client : Client) (prepared : Prepared) : Prop where
  connection : prepared.statement.connection = prepared.answeredBy
  handed : ∀ moment id stream request,
    (moment, .sent id stream request) ∈ client.network.record.toList →
      prepared.statement.Uses request → id = prepared.answeredBy
  throughPool : ∀ request, prepared.statement.Uses request →
    ∀ (world : Simulation.World) index upkeep, world.heldUpkeep? = some (index, upkeep) →
      world.sendOn .pool request =
        if upkeep.pool.entries.installed? (world.network.address prepared.answeredBy) =
            some prepared.answeredBy then world.send prepared.answeredBy 0 request
        else world.refuse
  throughConnection : ∀ request, prepared.statement.Uses request →
    ∀ (world : Simulation.World) name id, world.connectionNamed? name = some id →
      world.sendOn (.connection name) request =
        if prepared.answeredBy = id then world.send id 0 request else world.refuse
  throughStream : ∀ request, prepared.statement.Uses request →
    ∀ (world : Simulation.World) stream, world.sendInStream stream request =
      if prepared.answeredBy = stream.connection then
        world.send stream.connection stream.id request
      else world.refuse

end Client

/-- A prepared statement never runs on the wrong connection, whatever has become of connections and
pools since it was asked for. -/
theorem binds_of_reaches {dialer : Dialer} {client : Client} {prepared : Prepared}
    (reaches : Client.Reaches dialer .empty client) (isPrepared : prepared ∈ client.statements) :
    client.Binds prepared := by
  have sound := reaches.sound Client.sound_empty
  have isSame := sound.prepared prepared isPrepared
  constructor
  · exact isSame
  · intro moment id stream request isRecorded uses
    rw [sound.rightful _ isRecorded _ uses.boundTo?, isSame]
  · intro request uses world index upkeep isHeld
    rw [← isSame]
    exact Simulation.World.sendOn_pool_of_uses uses isHeld
  · intro request uses world name id isNamed
    rw [← isSame]
    exact Simulation.World.sendOn_connection_of_uses uses isNamed
  · intro request uses world stream
    rw [← isSame]
    exact Simulation.World.sendInStream_of_uses uses stream

/-- A statement is asked for through a pool, and its connection is replaced before it answers. -/
theorem binds_of_late_answer :
    ∃ client prepared, Client.Reaches .fresh .empty client ∧ prepared ∈ client.statements ∧
      prepared.answeredBy = ⟨0⟩ ∧
      client.pools.map (·.pool.entries.installed? "a") = [some ⟨1⟩] ∧ client.Binds prepared := by
  let pool : Pool := ⟨["a"], [("a", ⟨0⟩)], some ⟨0⟩, false, true, ⟨0⟩, .default⟩
  have connected : Client.Reaches .fresh .empty _ :=
    .single (.surroundings (Network.empty.evolves_openConnection "a" .connected ⟨0⟩).1
      ⟨[(0, .opened ⟨0⟩)], rfl, by simp⟩)
  have asked := (connected.tail (.join ⟨pool, .idle, [⟨0⟩], []⟩)).tail
    (@Client.Proceeds.prepareThrough _ _ [] _ [] _ _ "SELECT 1" _ _ rfl rfl rfl rfl)
  -- The connection closes, and the pool begins to redial its address.
  have lost : Client.Reaches .fresh .empty
      ⟨⟨0, #[⟨"a", 1, .closed, some ⟨0⟩, 0, 0⟩], #[],
        #[(0, .opened ⟨0⟩), (0, .sent ⟨0⟩ 0 (.prepare "SELECT 1")), (0, .dial "a")]⟩,
        [⟨pool, .repair "a" ⟨0⟩, [⟨0⟩], []⟩], [⟨1, ⟨0⟩⟩], []⟩ := by
    have closed := asked.tail (.surroundings (Network.evolves_hangUp _ ⟨0⟩) ⟨[], rfl, nofun⟩)
    have dialed := closed.tail
      (@Client.Proceeds.pool _ _ [] _ [] _ _ rfl (.event ⟨⟨0⟩, .closed⟩ rfl) nofun)
    exact dialed
  have replaced := (lost.tail
    (.surroundings (Network.evolves_openConnection _ "a" .connected ⟨0⟩).1
      ⟨[(0, .opened ⟨1⟩)], rfl, by simp⟩)).tail
    (@Client.Proceeds.pool _ _ [] _ [] (.opened ⟨1⟩) _ rfl
      (.opened rfl (by decide) ⟨by decide, rfl⟩) nofun)
  have answered := replaced.tail
    (.answered (List.mem_singleton.mpr rfl) rfl
      (rfl : Response.toStatement { Response.empty with statementId := some 7 } ⟨0⟩ = .ok _))
  exact ⟨_, _, answered, List.mem_singleton.mpr rfl, rfl, rfl,
    binds_of_reaches answered (List.mem_singleton.mpr rfl)⟩

end FailoverPool
