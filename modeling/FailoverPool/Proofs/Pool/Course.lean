import FailoverPool.Pool.WarmUp
import FailoverPool.Proofs.Network.Evolution
import Mathlib.Logic.Relation

/-!
The course of a pool, from the first dial of its warm-up on.

A course goes on move by move, and the upkeep is suspended between two moves. Nothing is said of the
order of moves, and little of what is outside the pool: its surroundings change the network in any
way in which networks evolve, events may report anything, and a discovery call may be answered
anyhow. What dials hand over is up to a `Dialer`.
-/

namespace FailoverPool

/-- The connections that a dial may hand over: given those handed over before, the network at the
end of the dial, and the address that was dialed. -/
abbrev Dialer := List ConnectionId → Network → String → ConnectionId → Prop

/-- A dialer that hands over nothing but new connections with the address that was dialed. -/
def Dialer.fresh : Dialer := fun handed network address id =>
  id ∉ handed ∧ network.address id = address

/-- A pool in the making, with the network and the connections that were handed to it. -/
structure Warming where
  network : Network
  warmUp : WarmUp
  handed : List ConnectionId

/-- Addresses are dialed one after another, while anything may happen to the network. -/
inductive Warms (dialer : Dialer) : Warming → List String → Warming → Prop where
  | done {warming} : Warms dialer warming [] warming
  | refused {warming after network address later} :
      (warming.network.note (.dial address)).Evolves network →
      Warms dialer { warming with network, warmUp := warming.warmUp.take network address none }
        later after →
      Warms dialer warming (address :: later) after
  | opened {warming after network address later id} :
      (warming.network.note (.dial address)).Evolves network →
      network.Knows id → dialer warming.handed network address id →
      Warms dialer ⟨network, warming.warmUp.take network address (some id), id :: warming.handed⟩
        later after →
      Warms dialer warming (address :: later) after

/-- A pool at work, with the connections that were handed to it. -/
structure Course where
  run : PoolRun
  /-- Those that the warm-up dialed. -/
  warmed : List ConnectionId
  /-- Those that the upkeep dialed. -/
  dialed : List ConnectionId

/-- All connections that dials have handed to the pool. -/
def Course.handed (course : Course) : List ConnectionId := course.dialed ++ course.warmed

/-- A pool of these addresses is constructed. -/
inductive Opens (dialer : Dialer) (addresses : List String) (options : PoolOptions) :
    Course → Prop where
  | intro {network finished begun warming pool} :
      WarmUp.begin network addresses options = .ok begun →
      Warms dialer ⟨begun.1, begun.2, []⟩ addresses warming →
      warming.warmUp.finish warming.network = (finished, .ok pool) →
      Opens dialer addresses options ⟨⟨finished, pool, .idle⟩, warming.handed, []⟩

namespace PoolRun

/-- The present connection is asked for, to use it or to tell something of it. -/
def select (run : PoolRun) : PoolRun := { run with pool := (run.pool.select run.network).1 }

def request (run : PoolRun) (request : Request) : PoolRun :=
  match run.pool.route run.network request with
  | (pool, .error _) => { run with pool }
  | (pool, .ok id) =>
      { run with pool, network := (run.network.hand id 0 request).toOption.getD run.network }

end PoolRun

inductive Move where
  /-- Something outside the pool, to connections or queues or the clock. -/
  | surroundings
  | select
  | request (request : Request)
  | event (event : Event)
  | check
  | discovery (function : String)
  /-- The discovery call is answered, or given up. -/
  | answer (outcome : Outcome)
  | refused
  | opened (id : ConnectionId)
  | close
  | release

namespace Move

/-- The upkeep begins with something. -/
def isBeginning : Move → Bool
  | .event _ | .check | .discovery _ => true
  | _ => false

/-- It is the upkeep that goes on. -/
def isUpkeep : Move → Bool
  | .answer _ | .refused | .opened _ => true
  | move => move.isBeginning

end Move

/-- One move. The upkeep begins only with nothing else to do, and goes on when what it waits for is
there. -/
inductive Step (dialer : Dialer) : Course → Move → Course → Prop where
  | surroundings {course network} :
      course.run.network.Evolves network →
      Step dialer course .surroundings { course with run := { course.run with network } }
  | select {course} : Step dialer course .select { course with run := course.run.select }
  | request {course} (request : Request) :
      Step dialer course (.request request) { course with run := course.run.request request }
  | event {course} (event : Event) :
      course.run.duty = .idle →
      Step dialer course (.event event) { course with run := course.run.handleEvent event }
  | check {course} :
      course.run.duty = .idle →
      Step dialer course .check { course with run := course.run.beginCheck }
  | discovery {course} (function : String) :
      course.run.duty = .idle →
      Step dialer course (.discovery function)
        { course with run := course.run.beginDiscovery function }
  | answer {course id} (outcome : Outcome) :
      course.run.duty = .ask id →
      Step dialer course (.answer outcome) { course with run := course.run.finishDiscovery outcome }
  | refused {course address} :
      course.run.duty.dialing? = some address →
      Step dialer course .refused { course with run := course.run.finishDial none }
  | opened {course address id} :
      course.run.duty.dialing? = some address →
      course.run.network.Knows id → dialer course.handed course.run.network address id →
      Step dialer course (.opened id)
        { course with run := course.run.finishDial (some id), dialed := id :: course.dialed }
  | close {course} : Step dialer course .close { course with run := course.run.close.1 }
  | release {course} : Step dialer course .release { course with run := course.run.release }

def Reaches (dialer : Dialer) : Course → Course → Prop :=
  Relation.ReflTransGen fun before after => ∃ move, Step dialer before move after

theorem Dialer.fresh_openConnection {handed : List ConnectionId} {network : Network}
    (known : ∀ id ∈ handed, network.Knows id) (address : String) (state : ConnectionState)
    (queue : QueueId) :
    let (after, id) := network.openConnection address state queue
    network.Evolves after ∧ after.Knows id ∧ Dialer.fresh handed after address id := by
  have opened := network.evolves_openConnection address state queue
  exact ⟨opened.1, opened.2.2.1, fun isHanded => opened.2.1 (known _ isHanded), opened.2.2.2⟩

theorem Warms.open {warming after : Warming} {address : String} {later : List String}
    (known : ∀ id ∈ warming.handed, warming.network.Knows id) (state : ConnectionState)
    (warms :
      let (network, id) := (warming.network.note (.dial address)).openConnection address state
        warming.warmUp.queue
      Warms .fresh ⟨network, warming.warmUp.take network address (some id), id :: warming.handed⟩
        later after) :
    Warms .fresh warming (address :: later) after := by
  have knownBefore : ∀ id ∈ warming.handed, (warming.network.note (.dial address)).Knows id := known
  obtain ⟨evolves, isKnown, isFresh⟩ :=
    Dialer.fresh_openConnection knownBefore address state warming.warmUp.queue
  exact .opened evolves isKnown isFresh warms

/-- The dial that is under way, if there is one, succeeds. -/
def Course.open (course : Course) (state : ConnectionState) : Course :=
  match course.run.duty.dialing? with
  | none => course
  | some address =>
      let (network, id) :=
        course.run.network.openConnection address state course.run.pool.queue
      { course with
        run := ({ course.run with network } : PoolRun).finishDial (some id)
        dialed := id :: course.dialed }

theorem Course.reaches_open {course : Course}
    (known : ∀ id ∈ course.handed, course.run.network.Knows id) (state : ConnectionState) :
    Reaches .fresh course (course.open state) := by
  unfold Course.open
  cases isDialed : course.run.duty.dialing? with
  | none => exact .refl
  | some address =>
      obtain ⟨evolves, isKnown, isFresh⟩ :=
        Dialer.fresh_openConnection known address state course.run.pool.queue
      exact .tail (.single ⟨_, .surroundings evolves⟩) ⟨_, .opened isDialed isKnown isFresh⟩

/-- A connection ends, and an upkeep with nothing else to do hears of it. -/
def Course.lose (course : Course) (id : ConnectionId) : Course :=
  let run := { course.run with network := course.run.network.hangUp id }
  { course with run := run.handleEvent ⟨id, .closed⟩ }

section

variable {dialer : Dialer} {addresses : List String} {options : PoolOptions} {course : Course}

/-- A pool that has just been constructed has nothing to do. -/
theorem Opens.isIdle (opens : Opens dialer addresses options course) :
    course.run.duty = .idle := by
  cases opens
  rfl

theorem Opens.step_hangUp (_ : Opens dialer addresses options course) (id : ConnectionId) :
    Step dialer course .surroundings
      { course with run := { course.run with network := course.run.network.hangUp id } } :=
  .surroundings (course.run.network.evolves_hangUp id)

theorem Opens.step_event (opens : Opens dialer addresses options course) (id : ConnectionId) :
    Step dialer
      { course with run := { course.run with network := course.run.network.hangUp id } }
      (.event ⟨id, .closed⟩) (course.lose id) :=
  .event ⟨id, .closed⟩ opens.isIdle

theorem Opens.reaches_lose (opens : Opens dialer addresses options course) (id : ConnectionId) :
    Reaches dialer course (course.lose id) :=
  .tail (.single ⟨_, opens.step_hangUp id⟩) ⟨_, opens.step_event id⟩

end

end FailoverPool
