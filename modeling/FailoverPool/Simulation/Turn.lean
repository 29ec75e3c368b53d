import FailoverPool.Simulation.World

/-!
What a task does in its turn: it goes on until it has to wait, and sets an alarm for whatever it
waits for that comes with time.
-/

namespace FailoverPool
namespace Simulation

/-- How a step of an upkeep leaves the world, and whether the upkeep goes on or waits. -/
inductive Progress where
  | goesOn (world : World)
  | waits (world : World)

namespace World

/-- More steps than any script has at one moment. -/
def stepLimit : Nat := 1000000

def runOf (world : World) (upkeep : Upkeep) : PoolRun := ⟨world.network, upkeep.pool, upkeep.duty⟩

def setUpkeep (world : World) (index : Nat) (upkeep : Upkeep) : World :=
  { world with upkeeps := world.upkeeps.modify index fun _ => upkeep }

/-- Take over what was done to a pool while its upkeep stays suspended in what it is doing. -/
def store (world : World) (index : Nat) (run : PoolRun) : World :=
  { world with
    network := run.network
    upkeeps := world.upkeeps.modify index ({ · with pool := run.pool, duty := run.duty }) }

/-- Take over what the upkeep of a pool has done, and find out what it waits for now. -/
def resume (world : World) (index : Nat) (upkeep : Upkeep) (run : PoolRun) : World :=
  let world := { world with network := run.network }
  let (world, call) :=
    match run.duty, upkeep.pool.options.discoveryFunction with
    | .ask id, some function => world.answerRequest id (Discovery.request function)
    | _, _ => (world, upkeep.call)
  world.setUpkeep index { upkeep with
    pool := run.pool
    duty := run.duty
    dialDue := run.duty.dialing?.bind world.dialEnd?
    call }

def eventsOf (world : World) (upkeep : Upkeep) : List Event :=
  ((world.network.queues[upkeep.pool.queue.index]?).map (·.events)).getD []

def setEvents (world : World) (upkeep : Upkeep) (events : List Event) : World :=
  let queues := world.network.queues.modify upkeep.pool.queue.index ({ · with events })
  { world with network := { world.network with queues } }

/-- Look for something to do. Of several the upkeep takes an event before a discovery and a
discovery before a check; what comes behind the one it takes it has not looked for, and so neither
listens for it nor sets its alarm. -/
def seek (world : World) (index : Nat) (upkeep : Upkeep) : Progress :=
  let task := Task.upkeep index
  let timers := upkeep.timers.getD (.start world.now upkeep.pool.options)
  let upkeep := { upkeep with timers := some timers }
  match world.eventsOf upkeep with
  | event :: later =>
      let world := world.setEvents upkeep later
      .goesOn (world.resume index upkeep ((world.runOf upkeep).handleEvent event))
  | [] =>
      let upkeep := { upkeep with listens := true }
      match upkeep.pool.options.discoveryFunction, world.isOver timers.refresh.due with
      | some function, true =>
          let refresh := timers.refresh.serve world.now
          let upkeep := { upkeep with timers := some { timers with refresh } }
          .goesOn (world.resume index upkeep ((world.runOf upkeep).beginDiscovery function))
      | function, _ =>
          let world :=
            if function.isSome then world.setAlarm timers.refresh.due task .refresh else world
          if world.isOver timers.check.due then
            let check := timers.check.serve world.now
            let upkeep := { upkeep with timers := some { timers with check } }
            .goesOn (world.resume index upkeep (world.runOf upkeep).beginCheck)
          else
            .waits ((world.setAlarm timers.check.due task .check).setUpkeep index upkeep)

def advance (world : World) (index : Nat) (upkeep : Upkeep) : Progress :=
  let task := Task.upkeep index
  match upkeep.duty with
  | .ended => .waits world
  | .repair address _ | .check address _ | .update address _ _ _ =>
      match upkeep.dialDue.filter (!world.isOver ·) with
      | some due => .waits (world.setAlarm due task .dial)
      | none =>
          let (world, dialed) := world.endDial address upkeep.pool.queue
          .goesOn (world.resume index upkeep ((world.runOf upkeep).finishDial dialed))
  | .ask _ =>
      match world.poll upkeep.call with
      | (world, some outcome) =>
          let world := world.cancelAlarm task .call
          .goesOn (world.resume index upkeep ((world.runOf upkeep).finishDiscovery outcome))
      | (world, none) =>
          .waits ((world.deadline? upkeep.call).elim world fun due => world.setAlarm due task .call)
  | .idle => world.seek index upkeep

/-- An upkeep that listens takes note of an event, once. -/
def hear (world : World) (index : Nat) : World × Bool :=
  match world.upkeeps[index]? with
  | none => (world, false)
  | some upkeep =>
      if upkeep.listens && !(world.eventsOf upkeep).isEmpty then
        (world.setUpkeep index { upkeep with listens := false }, true)
      else (world, false)

/-- Let every upkeep that listens for events have a turn if there is one. -/
def hearAll (world : World) : World :=
  (List.range world.upkeeps.size).foldl (fun world index =>
    match world.hear index with
    | (world, true) => world.wake (.upkeep index)
    | (world, false) => world) world

/-- Let an upkeep go on until it waits, in at most so many steps, and tell whether it has heard of
an event meanwhile. -/
def goOn : (steps : Nat) → World → (index : Nat) → (hasHeard : Bool) → World × Bool
  | 0, world, _, hasHeard => (world, hasHeard)
  | steps + 1, world, index, hasHeard =>
      match world.upkeeps[index]? with
      | none => (world, hasHeard)
      | some upkeep =>
          match world.advance index upkeep with
          | .waits world => (world, hasHeard)
          | .goesOn world =>
              let (world, hears) := world.hear index
              goOn steps world index (hasHeard || hears)

/-- A future has its result: the upkeep that waits for it goes on. -/
def wakeCaller (world : World) (future : FutureId) : World :=
  let isCaller (upkeep : Upkeep) : Bool :=
    match upkeep.duty with
    | .ask _ => upkeep.call = future
    | _ => false
  match world.upkeeps.findIdx? isCaller with
  | some index => world.wake (.upkeep index)
  | none => world

/-- A result sets out, is under way, or arrives. -/
def deliver (world : World) (index : Nat) (delivery : Delivery) : World :=
  let arrival := delivery.arrival.getD (Instant.after world.now delivery.delay)
  if world.isOver arrival then
    let futures := world.futures.modify delivery.future.index (·.send delivery.outcome)
    { world with futures }.wakeCaller delivery.future
  else
    let deliveries := world.deliveries.modify index ({ · with arrival := some arrival })
    { world with deliveries }.setAlarm arrival (.delivery index) .arrival

def takeTurn (world : World) : Task → World
  | .upkeep index =>
      match goOn stepLimit world index false with
      | (world, true) => world.wake (.upkeep index)
      | (world, false) => world
  | .delivery index => world.deliveries[index]?.elim world (world.deliver index)

end World

end Simulation
end FailoverPool
