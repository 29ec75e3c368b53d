import FailoverPool.Proofs.Client.Binding
import FailoverPool.Proofs.Exchange.Streams

/-!
Streams stay on their connections and do not mix.

A `Traffic` is what one process does with connections, pools and streams, with a list of the
requests that went through streams. A connection counts its streams, so that the numbers of those
that are open tell how far it has counted (`Sound.numbered`), and the record has a number for the
requests of streams and for no other (`Sound.handed`, `Sound.plain`). Main statement:
`separates_of_reaches`.
-/

namespace FailoverPool

/-- If it is a request that was handed over, it was outside of all streams. -/
def Occurrence.IsPlain : Occurrence → Prop
  | .sent _ stream _ => stream = 0
  | .dial _ | .refused _ | .opened _ | .closed _ _ => True

theorem Occurrence.isPlain_of_work {dismisses : ConnectionId → Prop} {occurrence : Occurrence}
    (isWork : occurrence.IsWork dismisses) : occurrence.IsPlain := by
  cases isWork with
  | dial | close => trivial
  | ask => rfl

namespace Network

/-- How many streams were opened on a connection. -/
def openedOn (network : Network) (id : ConnectionId) : Nat :=
  ((network.connection? id).map (·.streams)).getD 0

theorem openedOn_of_new {network : Network}
    (areNew : ∀ connection ∈ network.connections, connection.streams = 0) (id : ConnectionId) :
    network.openedOn id = 0 := by
  unfold openedOn
  cases found : network.connection? id with
  | none => rfl
  | some connection => exact areNew connection (Array.mem_of_getElem? found)

section

variable {network after : Network} {id : ConnectionId} {number : UInt64}

theorem number_of_nextStream (isNext : network.nextStream id = (after, number)) :
    number = Outgoing.numberAt (network.openedOn id) :=
  (congrArg Prod.snd isNext).symm

theorem record_of_nextStream (isNext : network.nextStream id = (after, number)) :
    after.record = network.record :=
  congrArg (fun taken => taken.1.record) isNext.symm

theorem evolves_of_nextStream (isNext : network.nextStream id = (after, number)) :
    network.Evolves after := by
  have evolves : network.Evolves (network.nextStream id).1 :=
    network.evolves_modify id (fun _ => rfl) fun _ closed => closed
  rwa [isNext] at evolves

theorem openedOn_of_nextStream (known : network.Knows id)
    (isNext : network.nextStream id = (after, number)) (other : ConnectionId) :
    after.openedOn other =
      if id = other then network.openedOn other + 1 else network.openedOn other := by
  obtain ⟨connection, found⟩ := exists_of_knows known
  obtain ⟨rfl, _⟩ := Prod.mk.inj isNext
  by_cases isSame : id = other
  · subst isSame
    simp [openedOn, found]
  · simp [openedOn, isSame]

end

/-- Between two moments no stream was opened, and requests were handed over outside of streams
only. -/
structure SparesStreams (before after : Network) : Prop where
  evolves : before.Evolves after
  openedOn : ∀ id, after.openedOn id = before.openedOn id
  record : before.RecordsOnly after Occurrence.IsPlain

theorem SparesStreams.refl (network : Network) : network.SparesStreams network :=
  ⟨.refl network, fun _ => rfl, [], (List.append_nil _).symm, nofun⟩

theorem Acts.openedOn_eq {before after : Network} {deeds : List Occurrence}
    (acts : before.Acts deeds after) (id : ConnectionId) :
    after.openedOn id = before.openedOn id := by
  rw [openedOn, acts.map_connection?_eq ⟨fun _ => rfl, fun _ => rfl⟩, openedOn]

theorem Acts.sparesStreams {before after : Network} {deeds : List Occurrence}
    (acts : before.Acts deeds after) (arePlain : ∀ occurrence ∈ deeds, occurrence.IsPlain) :
    before.SparesStreams after :=
  ⟨acts.evolves, acts.openedOn_eq, acts.recordsOnly arePlain⟩

end Network

theorem PoolRun.Does.sparesStreams {before after : PoolRun} {deeds : List Occurrence}
    (does : before.Does deeds after) (arePlain : ∀ occurrence ∈ deeds, occurrence.IsPlain) :
    before.network.SparesStreams after.network := by
  have evolves := does.evolves
  obtain ⟨network, acts, sameConnections, sameRecord, _⟩ := does
  have spares := acts.sparesStreams arePlain
  refine ⟨evolves, fun id => ?_, ?_⟩
  · rw [← spares.openedOn id]
    simp only [Network.openedOn, Network.connection?, sameConnections]
  · unfold Network.RecordsOnly
    rw [sameRecord]
    exact spares.record

/-- A pool opens no streams, and all requests that it hands over are outside of streams. -/
theorem Step.sparesStreams {dialer : Dialer} {before after : Course} {move : Move}
    (step : Step dialer before move after) (isInside : move ≠ .surroundings) :
    before.run.network.SparesStreams after.run.network := by
  cases isSilent : move.isSilent with
  | true =>
      obtain ⟨deeds, does, areWork⟩ := step.toilsAnyhow isSilent
      exact does.sparesStreams fun occurrence isDeed =>
        Occurrence.isPlain_of_work (areWork occurrence isDeed)
  | false =>
      cases step with
      | surroundings => exact absurd rfl isInside
      | request request =>
          obtain ⟨deeds, does, areRequests⟩ := before.run.does_request request
          refine does.sparesStreams fun occurrence isDeed => ?_
          obtain ⟨id, rfl⟩ := areRequests occurrence isDeed
          rfl
      | select | event | check | discovery | answer | refused | opened | close | release =>
          cases isSilent

/-- Whatever a pool chooses is a connection that it knows of. -/
theorem Course.Sound.knows_selected {course : Course} (sound : course.Sound) {pool : Pool}
    {id : ConnectionId} (isChosen : course.run.pool.select course.run.network = (pool, some id)) :
    course.run.network.Knows id := by
  apply sound.known
  have ofCandidate (isCandidate : id ∈ course.run.pool.candidates) : id ∈ course.handed := by
    obtain ⟨address, _, installed⟩ := List.mem_filterMap.mp isCandidate
    exact sound.installed address id installed
  unfold Pool.select at isChosen
  split at isChosen
  · next first found =>
    cases isChosen
    exact ofCandidate (List.mem_of_find?_eq_some found)
  · rcases Option.or_eq_some_iff.mp (Prod.mk.inj isChosen).2 with isLast | ⟨_, isFallback⟩
    · exact ofCandidate (List.mem_of_getLast? isLast)
    · exact sound.fallback id isFallback

theorem Member.sound_of_evolves {member : Member} {before after : Network}
    (sound : (member.course before).Sound) (evolves : before.Evolves after) :
    (member.course after).Sound :=
  (@Step.surroundings .fresh (member.course before) after evolves).sound sound

theorem Member.sound_select {member : Member} {network : Network} {pool : Pool}
    {target : Option ConnectionId} (sound : (member.course network).Sound)
    (isChosen : member.pool.select network = (pool, target)) :
    (({ member with pool } : Member).course network).Sound := by
  have isPool : (member.pool.select network).1 = pool := congrArg Prod.fst isChosen
  rw [← isPool]
  exact (@Step.select .fresh (member.course network)).sound sound

/-- A request that went through a stream. -/
structure Issue where
  /-- The place of the stream among all streams. A clone of a stream has the same place. -/
  stream : Nat
  request : Request
  /-- The place of the request in the record. -/
  place : Nat

/-- What one process does with connections, pools and streams. -/
structure Traffic where
  network : Network
  pools : List Member
  /-- In the order in which they were opened. -/
  streams : List Stream
  issues : List Issue

namespace Traffic

def empty : Traffic := ⟨.empty, [], [], []⟩

/-- One move. Connections may come and end at any time, and a pool joins with all that it has been
through before. -/
inductive Proceeds (dialer : Dialer) : Traffic → Traffic → Prop where
  /-- Something happens that is neither a request nor the opening of a stream. -/
  | surroundings {traffic network} :
      traffic.network.Evolves network →
      (∀ id, network.openedOn id = traffic.network.openedOn id) →
      (∃ added : List (Instant × Occurrence),
        network.record.toList = traffic.network.record.toList ++ added ∧
          ∀ moment id stream request, (moment, .sent id stream request) ∉ added) →
      Proceeds dialer traffic { traffic with network }
  | join {traffic} (member : Member) :
      (member.course traffic.network).Sound →
      Proceeds dialer traffic { traffic with pools := member :: traffic.pools }
  /-- A pool moves, and be it that a caller sends a request through it. -/
  | pool {traffic earlier member later move course} :
      traffic.pools = earlier ++ member :: later →
      Step dialer (member.course traffic.network) move course → move ≠ .surroundings →
      Proceeds dialer traffic { traffic with
        network := course.run.network
        pools := earlier ++ course.member :: later }
  | connection {traffic connection request target network} :
      ConnectionId.route connection request = .ok target →
      traffic.network.hand target 0 request = .ok network →
      Proceeds dialer traffic { traffic with network }
  | openOn {traffic connection network number} :
      traffic.network.Knows connection →
      traffic.network.nextStream connection = (network, number) →
      Proceeds dialer traffic { traffic with
        network
        streams := traffic.streams ++ [⟨connection, number⟩] }
  | openThrough {traffic earlier member later pool connection network number} :
      traffic.pools = earlier ++ member :: later →
      member.pool.select traffic.network = (pool, some connection) →
      traffic.network.nextStream connection = (network, number) →
      Proceeds dialer traffic { traffic with
        network
        pools := earlier ++ { member with pool } :: later
        streams := traffic.streams ++ [⟨connection, number⟩] }
  | stream {traffic index stream request target network} :
      traffic.streams[index]? = some stream →
      Stream.route stream request = .ok target →
      traffic.network.hand target stream.id request = .ok network →
      Proceeds dialer traffic { traffic with
        network
        issues := ⟨index, request, traffic.network.record.size⟩ :: traffic.issues }

def Reaches (dialer : Dialer) : Traffic → Traffic → Prop :=
  Relation.ReflTransGen (Proceeds dialer)

/-- The request was handed to the connection of its stream, under the number of its stream. -/
def Records (traffic : Traffic) (issue : Issue) : Prop :=
  ∃ stream moment, traffic.streams[issue.stream]? = some stream ∧
    traffic.network.record.toList[issue.place]? =
      some (moment, .sent stream.connection stream.id issue.request)

theorem Records.place_lt {traffic : Traffic} {issue : Issue} (records : traffic.Records issue) :
    issue.place < traffic.network.record.size := by
  obtain ⟨_, _, _, isRecorded⟩ := records
  rw [← Array.length_toList]
  exact (List.getElem?_eq_some_iff.mp isRecorded).1

/-- The numbers that a connection has given to streams, in their order. -/
def numbersOn (traffic : Traffic) (connection : ConnectionId) : List UInt64 :=
  (traffic.streams.filter (·.connection = connection)).map Stream.id

/-- What holds wherever the traffic is. -/
structure Sound (traffic : Traffic) : Prop where
  pools : ∀ member ∈ traffic.pools, (member.course traffic.network).Sound
  numbered : ∀ connection, traffic.numbersOn connection =
    (List.range (traffic.network.openedOn connection)).map Outgoing.numberAt
  handed : ∀ issue ∈ traffic.issues, traffic.Records issue
  plain : ∀ place moment id stream request,
    traffic.network.record.toList[place]? = some (moment, .sent id stream request) →
      stream ≠ 0 → ∃ issue ∈ traffic.issues, issue.place = place
  once : (traffic.issues.map Issue.place).Nodup

theorem sound_empty : empty.Sound where
  pools := nofun
  numbered _ := rfl
  handed := nofun
  plain := nofun
  once := .nil

theorem Records.goesOn {before after : Traffic} {issue : Issue} (records : before.Records issue)
    (streams : before.streams <+: after.streams)
    (record : before.network.record.toList <+: after.network.record.toList) :
    after.Records issue := by
  obtain ⟨stream, moment, isStream, isRecorded⟩ := records
  obtain ⟨opened, isStreams⟩ := streams
  obtain ⟨added, isRecord⟩ := record
  refine ⟨stream, moment, ?_, ?_⟩
  · rw [← isStreams, List.getElem?_append_left (List.getElem?_eq_some_iff.mp isStream).1]
    exact isStream
  · rw [← isRecord, List.getElem?_append_left (List.getElem?_eq_some_iff.mp isRecorded).1]
    exact isRecorded

theorem Sound.goesOn {before : Traffic} (sound : before.Sound) {network : Network}
    {pools : List Member} (spares : before.network.SparesStreams network)
    (arePools : ∀ member ∈ pools, (member.course network).Sound) :
    Sound { before with network, pools } := by
  obtain ⟨added, isRecord, arePlain⟩ := spares.record
  refine ⟨arePools, fun connection => ?_, fun issue isIssue => ?_, ?_, sound.once⟩
  · rw [spares.openedOn]
    exact sound.numbered connection
  · exact (sound.handed issue isIssue).goesOn List.prefix_rfl ⟨added, isRecord.symm⟩
  · intro place moment id stream request isRecorded inStream
    dsimp only at isRecorded
    rw [isRecord, List.getElem?_append] at isRecorded
    split at isRecorded
    · exact sound.plain place moment id stream request isRecorded inStream
    · exact absurd (arePlain _ (List.mem_of_getElem? isRecorded)) inStream

theorem Sound.poolsAt {before : Traffic} (sound : before.Sound) {network : Network}
    (evolves : before.network.Evolves network) :
    ∀ member ∈ before.pools, (member.course network).Sound :=
  fun member isMember => Member.sound_of_evolves (sound.pools member isMember) evolves

/-- One pool has moved, and the others see what it has done. -/
theorem Sound.poolsAfter {before : Traffic} (sound : before.Sound) {network : Network}
    (evolves : before.network.Evolves network) {earlier later : List Member} {member moved : Member}
    (arePools : before.pools = earlier ++ member :: later)
    (movedSound : (moved.course network).Sound) :
    ∀ other ∈ earlier ++ moved :: later, (other.course network).Sound := by
  have stillSound := sound.poolsAt evolves
  rw [arePools, List.forall_mem_append, List.forall_mem_cons] at stillSound
  rw [List.forall_mem_append, List.forall_mem_cons]
  exact ⟨stillSound.1, movedSound, stillSound.2.2⟩

theorem Sound.open {before : Traffic} (sound : before.Sound) {connection : ConnectionId}
    {network : Network} {number : UInt64} {pools : List Member}
    (known : before.network.Knows connection)
    (isNext : before.network.nextStream connection = (network, number))
    (arePools : ∀ member ∈ pools, (member.course network).Sound) :
    Sound { before with
      network
      pools
      streams := before.streams ++ [⟨connection, number⟩] } := by
  have sameRecord := Network.record_of_nextStream isNext
  refine ⟨arePools, fun other => ?_, fun issue isIssue => ?_, ?_, sound.once⟩
  · have wasNumbered := sound.numbered other
    unfold numbersOn at wasNumbered ⊢
    rw [List.filter_append, List.map_append, wasNumbered,
      Network.openedOn_of_nextStream known isNext, Network.number_of_nextStream isNext]
    by_cases isSame : connection = other
    · simp [isSame, List.range_succ]
    · simp [isSame]
  · exact (sound.handed issue isIssue).goesOn (List.prefix_append _ _)
      ⟨[], (List.append_nil _).trans (congrArg Array.toList sameRecord.symm)⟩
  · dsimp only
    rw [sameRecord]
    exact sound.plain

theorem Sound.issue {before : Traffic} (sound : before.Sound) {index : Nat} {stream : Stream}
    {request : Request} {target : ConnectionId} {network : Network}
    (isStream : before.streams[index]? = some stream)
    (isRouted : stream.route request = .ok target)
    (isHanded : before.network.hand target stream.id request = .ok network) :
    Sound { before with
      network
      issues := ⟨index, request, before.network.record.size⟩ :: before.issues } := by
  obtain rfl := ConnectionId.eq_of_route isRouted
  have acts := Network.acts_hand isHanded
  obtain ⟨added, isRecord, areDeeds⟩ := acts.exists_record
  obtain ⟨⟨moment, occurrence⟩, rfl, rfl⟩ := List.map_eq_singleton_iff.mp areDeeds
  have keeps {issue : Issue} (records : before.Records issue) :
      Records { before with
        network
        issues := ⟨index, request, before.network.record.size⟩ :: before.issues } issue :=
    records.goesOn List.prefix_rfl ⟨_, isRecord.symm⟩
  constructor
  · exact sound.poolsAt acts.evolves
  · intro connection
    rw [acts.openedOn_eq]
    exact sound.numbered connection
  · refine List.forall_mem_cons.mpr ⟨⟨stream, moment, isStream, ?_⟩, fun issue isIssue =>
      keeps (sound.handed issue isIssue)⟩
    dsimp only
    rw [isRecord, List.getElem?_append_right (by simp)]
    simp
  · intro place moment id number asked isRecorded inStream
    dsimp only at isRecorded
    rw [isRecord, List.getElem?_append] at isRecorded
    split at isRecorded
    · obtain ⟨issue, isIssue, isPlace⟩ :=
        sound.plain place moment id number asked isRecorded inStream
      exact ⟨issue, .tail _ isIssue, isPlace⟩
    · next isLate =>
      have isLast := (List.getElem?_eq_some_iff.mp isRecorded).1
      refine ⟨_, List.mem_cons_self, ?_⟩
      simp only [Array.length_toList, List.length_singleton] at isLate isLast ⊢
      omega
  · refine List.nodup_cons.mpr ⟨fun isPlace => ?_, sound.once⟩
    obtain ⟨issue, isIssue, isSize⟩ := List.mem_map.mp isPlace
    exact Nat.ne_of_lt (sound.handed issue isIssue).place_lt isSize

theorem Proceeds.sound {dialer : Dialer} {before after : Traffic}
    (proceeds : Proceeds dialer before after) (sound : before.Sound) : after.Sound := by
  cases proceeds with
  | surroundings evolves openedOn grows =>
      obtain ⟨added, isRecord, areNoRequests⟩ := grows
      refine sound.goesOn ⟨evolves, openedOn, added, isRecord, ?_⟩ (sound.poolsAt evolves)
      rintro ⟨moment, occurrence⟩ isAdded
      cases occurrence with
      | sent => exact absurd isAdded (areNoRequests _ _ _ _)
      | dial | refused | opened | closed => trivial
  | join member isSound =>
      exact sound.goesOn (.refl _) (List.forall_mem_cons.mpr ⟨isSound, sound.pools⟩)
  | @pool earlier member later _ _ arePools step isInside =>
      have spares := step.sparesStreams isInside
      have wasSound := sound.pools member (arePools ▸ List.mem_append_cons_self)
      exact sound.goesOn spares (sound.poolsAfter spares.evolves arePools (step.sound wasSound))
  | connection _ isHanded =>
      have acts := Network.acts_hand isHanded
      have spares := acts.sparesStreams (List.forall_mem_singleton.mpr rfl)
      exact sound.goesOn spares (sound.poolsAt acts.evolves)
  | openOn known isNext =>
      exact sound.open known isNext (sound.poolsAt (Network.evolves_of_nextStream isNext))
  | @openThrough earlier member later _ _ _ _ arePools isChosen isNext =>
      have evolves := Network.evolves_of_nextStream isNext
      have wasSound := sound.pools member (arePools ▸ List.mem_append_cons_self)
      have movedSound := Member.sound_of_evolves (Member.sound_select wasSound isChosen) evolves
      exact sound.open (wasSound.knows_selected isChosen) isNext
        (sound.poolsAfter evolves arePools movedSound)
  | stream isStream isRouted isHanded => exact sound.issue isStream isRouted isHanded

theorem Reaches.sound {dialer : Dialer} {before after : Traffic}
    (reaches : Reaches dialer before after) (sound : before.Sound) : after.Sound := by
  induction reaches with
  | refl => exact sound
  | tail _ proceeds inductionHypothesis => exact proceeds.sound inductionHypothesis

variable {traffic : Traffic}

/-- A connection has counted its streams, and no others. -/
theorem Sound.openedOn_eq (sound : traffic.Sound) (connection : ConnectionId) :
    traffic.network.openedOn connection =
      traffic.streams.countP (·.connection = connection) := by
  have sameLength := congrArg List.length (sound.numbered connection)
  simpa [numbersOn, List.countP_eq_length_filter] using sameLength.symm

theorem id_ne_zero {stream : Stream} (areNumbers : (0 :: traffic.numbersOn stream.connection).Nodup)
    (isStream : stream ∈ traffic.streams) : stream.id ≠ 0 := by
  intro isZero
  have isNumber : stream.id ∈ traffic.numbersOn stream.connection :=
    List.mem_map_of_mem (List.mem_filter.mpr ⟨isStream, by simp⟩)
  rw [isZero] at isNumber
  exact (List.nodup_cons.mp areNumbers).1 isNumber

/-- Streams of one connection differ in their numbers, and so no stream was opened twice. -/
theorem nodup_streams (areNumbers : ∀ connection, (0 :: traffic.numbersOn connection).Nodup) :
    traffic.streams.Nodup := by
  rw [List.nodup_iff_count_le_one]
  intro stream
  have areOwn := List.Nodup.of_map _ (List.nodup_cons.mp (areNumbers stream.connection)).2
  rw [List.nodup_iff_count_le_one] at areOwn
  have isOnce := areOwn stream
  rwa [List.count_filter (by simp)] at isOnce

/-- A request with a number went through the stream that has this number on its connection. -/
theorem Sound.exists_issue (sound : traffic.Sound) {place : Nat} {moment : Instant}
    {id : ConnectionId} {number : UInt64} {request : Request}
    (isRecorded : traffic.network.record.toList[place]? = some (moment, .sent id number request))
    (inStream : number ≠ 0) :
    ∃ issue ∈ traffic.issues, issue.place = place ∧ issue.request = request ∧
      traffic.streams[issue.stream]? = some ⟨id, number⟩ := by
  obtain ⟨issue, isIssue, rfl⟩ := sound.plain place moment id number request isRecorded inStream
  obtain ⟨stream, other, isStream, isOwn⟩ := sound.handed issue isIssue
  rw [isOwn] at isRecorded
  cases isRecorded
  exact ⟨issue, isIssue, rfl, rfl, isStream⟩

/-- The frame tells the number of a stream if and only if it is a request that went through this
stream, and so does a reader see it. -/
def Tags (traffic : Traffic) (id : ConnectionId) (frame : Outgoing) : Prop :=
  ∃ header, Value.decode (frame.encode.drop 5) = .ok (Fields.toValue header, frame.body) ∧
    ∀ value, (Key.streamId, value) ∈ header ↔
      ∃ issue ∈ traffic.issues, ∃ sync stream, traffic.streams[issue.stream]? = some stream ∧
        stream.connection = id ∧ frame = .request sync stream.id issue.request ∧
          value = .ofUInt64 stream.id

/-- The moves are those of a connection of the traffic: as many streams are opened on it, and all
requests that it is given stand in the record. -/
structure Serves (traffic : Traffic) (id : ConnectionId) (moves : List Exchange.Move) : Prop where
  opens : moves.countP Exchange.Move.isOpening = traffic.streams.countP (·.connection = id)
  sends : ∀ now number request, .send now number request ∈ moves →
    ∃ moment, (moment, .sent id number request) ∈ traffic.network.record.toList

theorem Sound.opened_eq (sound : traffic.Sound) {id : ConnectionId} {moves : List Exchange.Move}
    (serves : traffic.Serves id moves) (address : String) (timeout : Duration) (unread : Bytes) :
    (Exchange.established address timeout unread).opened moves = traffic.numbersOn id := by
  rw [Exchange.opened_eq, serves.opens, sound.numbered, sound.openedOn_eq]

theorem Sound.tags (sound : traffic.Sound)
    (areNumbers : ∀ connection, (0 :: traffic.numbersOn connection).Nodup) {id : ConnectionId}
    {moves : List Exchange.Move} (serves : traffic.Serves id moves) {address : String}
    {timeout : Duration} {unread : Bytes} {frame : Outgoing}
    (isSent : frame ∈ ((Exchange.established address timeout unread).run moves).sent) :
    traffic.Tags id frame := by
  refine ⟨frame.header, frame.decode_encode, fun value => ?_⟩
  rw [Outgoing.streamId_mem_header]
  constructor
  · rintro ⟨sync, number, request, rfl, inStream, isValue⟩
    obtain ⟨now, isAsked⟩ := (Exchange.mem_sent_run isSent).resolve_left List.not_mem_nil
    obtain ⟨moment, isRecorded⟩ := serves.sends now number request isAsked
    obtain ⟨place, isPlace⟩ := List.mem_iff_getElem?.mp isRecorded
    obtain ⟨issue, isIssue, _, rfl, isStream⟩ := sound.exists_issue isPlace inStream
    exact ⟨issue, isIssue, sync, ⟨id, number⟩, isStream, rfl, rfl, isValue⟩
  · rintro ⟨issue, _, sync, stream, isStream, rfl, isFrame, isValue⟩
    refine ⟨sync, stream.id, issue.request, isFrame, ?_, isValue⟩
    exact id_ne_zero (areNumbers stream.connection) (List.mem_of_getElem? isStream)

/-- Streams stay on their connections and do not mix. -/
structure Separates (traffic : Traffic) : Prop where
  /-- A connection gives no number twice, and never gives zero. -/
  numbers : ∀ connection, (0 :: traffic.numbersOn connection).Nodup
  /-- What goes through a stream is handed to the connection of the stream, under its number. -/
  handed : ∀ issue ∈ traffic.issues, traffic.Records issue
  /-- It is handed over once. -/
  once : (traffic.issues.map Issue.place).Nodup
  /-- A request in the record has a number if and only if it went through a stream. -/
  tagged : ∀ place moment id number request,
    traffic.network.record.toList[place]? = some (moment, .sent id number request) →
      (number ≠ 0 ↔ ∃ issue ∈ traffic.issues, issue.place = place)
  /-- Requests that have the same number on a connection went through the same stream. -/
  apart : ∀ first ∈ traffic.issues, ∀ second ∈ traffic.issues,
    ∀ moment later id number request asked,
      traffic.network.record.toList[first.place]? = some (moment, .sent id number request) →
        traffic.network.record.toList[second.place]? = some (later, .sent id number asked) →
          first.stream = second.stream
  /-- So it is whatever has become of the pool and the connections. -/
  inStream : ∀ stream ∈ traffic.streams, ∀ (world : Simulation.World) request,
    (world.sendInStream stream request).1.network =
      if stream.connection.accepts request ∧ world.network.isClosed stream.connection = false then
        world.network.note (.sent stream.connection stream.id request)
      else world.network
  outside : ∀ (world : Simulation.World) route request,
    (world.sendOn route request).1.network = world.network ∨
      ∃ id, (world.sendOn route request).1.network = world.network.note (.sent id 0 request)
  /-- A connection that frames its requests counts its streams in the same way, and its frames tell
  the numbers of streams for the requests of streams. -/
  wire : ∀ id moves, traffic.Serves id moves → ∀ address timeout unread,
    (Exchange.established address timeout unread).opened moves = traffic.numbersOn id ∧
      ∀ frame ∈ ((Exchange.established address timeout unread).run moves).sent,
        traffic.Tags id frame

end Traffic

/-- Whatever is sent through streams and outside of them, while connections end and pools go on to
others: all requests of a stream are handed to its connection under its number, two streams of one
connection have different numbers, and no other request has a number, in the record and on the
wire. -/
theorem separates_of_reaches {dialer : Dialer} {traffic : Traffic}
    (reaches : Traffic.Reaches dialer .empty traffic)
    (areCounted : ∀ connection,
      traffic.streams.countP (·.connection = connection) ≤ 2 ^ (64 : Nat) - 1) :
    traffic.Separates := by
  have sound := reaches.sound Traffic.sound_empty
  have areNumbers (connection : ConnectionId) : (0 :: traffic.numbersOn connection).Nodup := by
    rw [sound.numbered]
    apply Outgoing.nodup_numbers
    rw [sound.openedOn_eq]
    exact areCounted connection
  constructor
  · exact areNumbers
  · exact sound.handed
  · exact sound.once
  · intro place moment id number request isRecorded
    refine ⟨sound.plain place moment id number request isRecorded, ?_⟩
    rintro ⟨issue, isIssue, rfl⟩
    obtain ⟨stream, _, isStream, isOwn⟩ := sound.handed issue isIssue
    rw [isOwn] at isRecorded
    cases isRecorded
    exact Traffic.id_ne_zero (areNumbers stream.connection) (List.mem_of_getElem? isStream)
  · intro first isFirst second isSecond moment later id number request asked ofFirst ofSecond
    obtain ⟨⟨_, _⟩, _, isStream, isOwn⟩ := sound.handed first isFirst
    obtain ⟨⟨_, _⟩, _, isOther, isToo⟩ := sound.handed second isSecond
    rw [isOwn] at ofFirst
    rw [isToo] at ofSecond
    cases ofFirst
    cases ofSecond
    have isInBounds := (List.getElem?_eq_some_iff.mp isStream).1
    exact (List.getElem?_inj isInBounds (Traffic.nodup_streams areNumbers)).mp
      (isStream.trans isOther.symm)
  · exact fun stream _ world request => world.network_sendInStream stream request
  · exact fun world route request => world.network_sendOn route request
  · intro id moves serves address timeout unread
    exact ⟨sound.opened_eq serves address timeout unread,
      fun frame isSent => sound.tags areNumbers serves isSent⟩

/-- A connection of a pool is not connected for a while. The pool goes on to another, and the stream
that was opened before does not. -/
theorem separates_of_absence :
    ∃ traffic, Traffic.Reaches .fresh .empty traffic ∧ traffic.streams = [⟨⟨0⟩, 1⟩, ⟨⟨1⟩, 1⟩] ∧
      traffic.network.record.toList.drop 4 =
        [(0, .sent ⟨0⟩ 1 (.begin .serverDefault .zero)), (0, .sent ⟨1⟩ 0 .ping),
          (0, .sent ⟨0⟩ 1 .commit), (0, .sent ⟨1⟩ 1 .ping)] ∧
      traffic.Serves ⟨0⟩
        [.openStream, .send 0 1 (.begin .serverDefault .zero), .send 0 1 .commit] ∧
      traffic.Separates := by
  have opens : Opens .fresh ["a", "b"] .default _ :=
    @Opens.intro _ _ _ .empty _ _ _ _ rfl
      (.open nofun .connected (.open (by decide) .connected .done)) rfl
  let pool : Pool := ⟨["a", "b"], [("a", ⟨0⟩), ("b", ⟨1⟩)], some ⟨0⟩, false, true, ⟨0⟩, .default⟩
  let member : Member := ⟨pool, .idle, [⟨1⟩, ⟨0⟩], []⟩
  let first : Connection := ⟨"a", 1, .connected, some ⟨0⟩, 0, 0⟩
  let second : Connection := ⟨"b", 1, .connected, some ⟨0⟩, 0, 0⟩
  let queue : EventQueue := ⟨20, [⟨⟨0⟩, .connected⟩, ⟨⟨1⟩, .connected⟩], true⟩
  let dialed : Array (Instant × Occurrence) :=
    #[(0, .dial "a"), (0, .opened ⟨0⟩), (0, .dial "b"), (0, .opened ⟨1⟩)]
  have joined : Traffic.Reaches .fresh .empty
      ⟨⟨0, #[first, second], #[queue], dialed⟩, [member], [], []⟩ := by
    refine .tail (.single (.surroundings ⟨nofun, nofun, nofun⟩ ?_ ?_)) (.join member opens.sound)
    · exact Network.openedOn_of_new (by decide)
    · exact ⟨dialed.toList, rfl, by simp [dialed]⟩
  let begin : Request := .begin .serverDefault .zero
  have begun : Traffic.Reaches .fresh .empty
      ⟨⟨0, #[{ first with streams := 1 }, second], #[queue], dialed.push (0, .sent ⟨0⟩ 1 begin)⟩,
        [member], [⟨⟨0⟩, 1⟩], [⟨0, begin, 4⟩]⟩ :=
    (joined.tail (@Traffic.Proceeds.openThrough _ _ [] _ [] _ _ _ _ rfl rfl rfl)).tail
      (@Traffic.Proceeds.stream _ _ 0 _ begin _ _ rfl rfl rfl)
  -- The pool has another connection to go on to, and the first one is still there.
  have pinged : Traffic.Reaches .fresh .empty
      ⟨⟨0, #[{ first with state := .connecting, streams := 1 }, second], #[queue],
        (dialed.push (0, .sent ⟨0⟩ 1 begin)).push (0, .sent ⟨1⟩ 0 .ping)⟩, [member],
        [⟨⟨0⟩, 1⟩], [⟨0, begin, 4⟩]⟩ := by
    let pause (connection : Connection) : Connection := { connection with
      state := if connection.state = .closed then .closed else .connecting }
    have evolves (network : Network) : network.Evolves (network.modify ⟨0⟩ pause) :=
      network.evolves_modify ⟨0⟩ (fun _ => rfl) fun _ closed => if_pos closed
    have isUnseen (connection : Connection) : (pause connection).streams = connection.streams := rfl
    have paused := begun.tail (.surroundings (evolves _)
      (fun id => congrArg (Option.getD · 0) (Network.map_connection?_modify isUnseen id))
      ⟨[], rfl, nofun⟩)
    have requested := paused.tail
      (@Traffic.Proceeds.pool _ _ [] _ [] _ _ rfl (.request .ping) nofun)
    exact requested
  have reopened := pinged.tail (@Traffic.Proceeds.openThrough _ _ [] _ [] _ _ _ _ rfl rfl rfl)
  have committed := (reopened.tail (@Traffic.Proceeds.stream _ _ 0 _ .commit _ _ rfl rfl rfl)).tail
    (@Traffic.Proceeds.stream _ _ 1 _ .ping _ _ rfl rfl rfl)
  refine ⟨_, committed, rfl, rfl, ⟨rfl, ?_⟩, separates_of_reaches committed ?_⟩
  · rintro now number request (_ | ⟨_, _ | ⟨_, _ | ⟨_, ⟨⟩⟩⟩⟩)
    · exact ⟨0, List.mem_of_getElem? (i := 4) rfl⟩
    · exact ⟨0, List.mem_of_getElem? (i := 6) rfl⟩
  · exact fun _ => Nat.le_trans List.countP_le_length (by decide)

end FailoverPool
