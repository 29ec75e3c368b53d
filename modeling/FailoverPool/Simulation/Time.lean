import FailoverPool.Simulation.Turn

/-!
The passing of time.

Time stands still while any task has a turn to take; then it moves to the next moment at which an
alarm goes off. The script comes first: what it waits for it has before the tasks that the same
moment wakes take their turns.
-/

namespace FailoverPool
namespace Simulation
namespace World

/-- Let the tasks that were woken take their turns, in at most so many turns. -/
def takeTurns : (turns : Nat) → World → World
  | 0, world => world
  | turns + 1, world =>
      match world.schedule.next? with
      | none => world
      | some (task, schedule) => takeTurns turns ({ world with schedule }.takeTurn task)

/-- Let every task go on until all of them wait. -/
def work (world : World) : World := takeTurns stepLimit world

def ring (world : World) : World := { world with schedule := world.schedule.ring world.now }

/-- Let everything happen that needs no time to pass, in at most so many rounds. -/
def settleWithin : (rounds : Nat) → World → World
  | 0, world => world
  | rounds + 1, world =>
      let world := world.work.ring
      if world.schedule.ready.isEmpty then world else settleWithin rounds world

def settle (world : World) : World := settleWithin stepLimit world

/-- Move the clock to the next alarm, but not past the first of some moments. -/
def moveClock (world : World) (limit : Instant) (moments : List Instant) : World :=
  let next := (moments ++ world.schedule.nextDue?.toList).foldl min limit
  (world.setNow (max world.now next)).ring

/-- Let time pass up to a moment, from alarm to alarm. -/
def passTime : (alarms : Nat) → World → (target : Instant) → World
  | 0, world, _ => world
  | alarms + 1, world, target =>
      let world := world.work.moveClock target []
      if world.isOver target then world else passTime alarms world target

/-- Let time pass up to a moment: what is due before it happens, what is due at it does not yet.
From one alarm to the next the clock moves, so there are no more of them than milliseconds. -/
def elapse (world : World) (target : Instant) : World :=
  if world.isOver target then world else passTime (target - world.now + 1) world target

/-- The clock jumps; the alarms that it passes go off together. -/
def jump (world : World) (milliseconds : Nat) : World :=
  (world.setNow (world.now + milliseconds)).work.ring

/-- Wait for a future until a moment, from alarm to alarm. -/
def awaitWithin : (alarms : Nat) → World → FutureId → (limit : Instant) → World × Option Outcome
  | 0, world, _, _ => (world, none)
  | alarms + 1, world, id, limit =>
      let (world, first) := world.poll id
      if first.isSome || world.isOver limit then (world, first)
      else
        let (world, second) := world.work.poll id
        if second.isSome then (world, second)
        else awaitWithin alarms (world.moveClock limit (world.deadline? id).toList) id limit

/-- Wait for a future as long as patience lasts. -/
def await (world : World) (id : FutureId) : World × Option Outcome :=
  awaitWithin (patience + 2) world id (world.now + patience)

end World

end Simulation
end FailoverPool
