import FailoverPool.Duration

/-!
Tasks that take turns, and the alarms that wake them.

A task that was woken has its turn behind those that were woken before it, and one turn however
often it was woken. Alarms go off in the order in which they are due, and those of one moment in
the order in which they were set. Main statements: no task waits for two turns (`nodup_ring`), and
an alarm that is still set is due later (`lt_due_of_mem_ring`).
-/

namespace FailoverPool
namespace Simulation

/-- Something that goes on by itself, beside the script. -/
inductive Task where
  | upkeep (index : Nat)
  | delivery (index : Nat)
  deriving DecidableEq, Repr

/-- What a task has an alarm for. -/
inductive Wait where
  | refresh
  | check
  | dial
  | call
  | arrival
  deriving DecidableEq, Repr

structure Alarm where
  due : Instant
  task : Task
  wait : Wait
  deriving DecidableEq, Repr

/-- Which tasks wait for their turn, and which alarms are set. -/
structure Schedule where
  /-- The tasks that were woken, first to last. -/
  ready : List Task
  alarms : List Alarm
  /-- The moment up to which alarms have gone off. -/
  rung : Instant
  deriving DecidableEq, Repr

namespace Schedule

def empty : Schedule := ⟨[], [], 0⟩

def wake (schedule : Schedule) (task : Task) : Schedule :=
  if task ∈ schedule.ready then schedule
  else { schedule with ready := schedule.ready ++ [task] }

def wakeAll (schedule : Schedule) (tasks : List Task) : Schedule := tasks.foldl wake schedule

/-- A task has its turn. -/
def next? (schedule : Schedule) : Option (Task × Schedule) :=
  match schedule.ready with
  | [] => none
  | task :: later => some (task, { schedule with ready := later })

/-- Whoever waited for this moment need not wait any longer. -/
def isOver (schedule : Schedule) (moment : Instant) : Bool := moment ≤ schedule.rung

def setAlarm (schedule : Schedule) (alarm : Alarm) : Schedule :=
  if alarm ∈ schedule.alarms then schedule
  else { schedule with alarms := schedule.alarms ++ [alarm] }

def cancel (schedule : Schedule) (task : Task) (wait : Wait) : Schedule :=
  { schedule with
    alarms := schedule.alarms.filter fun alarm => !(alarm.task = task && alarm.wait = wait) }

def nextDue? (schedule : Schedule) : Option Instant := (schedule.alarms.map (·.due)).min?

/-- The alarms that are due by now, in the order in which they go off. -/
def dueBy (schedule : Schedule) (now : Instant) : List Alarm :=
  (schedule.alarms.filter (·.due ≤ now)).mergeSort fun first second => first.due ≤ second.due

/-- Let the alarms that are due by now go off. -/
def ring (schedule : Schedule) (now : Instant) : Schedule :=
  let later : Schedule := { schedule with
    alarms := schedule.alarms.filter (now < ·.due)
    rung := now }
  later.wakeAll ((schedule.dueBy now).map (·.task))

theorem mem_dueBy {schedule : Schedule} {now : Instant} {alarm : Alarm} :
    alarm ∈ schedule.dueBy now ↔ alarm ∈ schedule.alarms ∧ alarm.due ≤ now := by
  simp [dueBy]

/-- Alarms go off in the order in which they are due. -/
theorem pairwise_dueBy (schedule : Schedule) (now : Instant) :
    (schedule.dueBy now).Pairwise (·.due ≤ ·.due) := by
  have isSorted : (schedule.dueBy now).Pairwise
      fun first second => decide (first.due ≤ second.due) = true := by
    apply List.pairwise_mergeSort
    · intro first second third isFirst isSecond
      exact decide_eq_true (Nat.le_trans (of_decide_eq_true isFirst) (of_decide_eq_true isSecond))
    · intro first second
      simpa using Nat.le_total first.due second.due
  exact isSorted.imp of_decide_eq_true

@[simp] theorem alarms_wake (schedule : Schedule) (task : Task) :
    (schedule.wake task).alarms = schedule.alarms := by
  unfold wake
  split <;> rfl

@[simp] theorem alarms_wakeAll (schedule : Schedule) (tasks : List Task) :
    (schedule.wakeAll tasks).alarms = schedule.alarms := by
  induction tasks generalizing schedule with
  | nil => rfl
  | cons task later ih => exact (ih (schedule.wake task)).trans (alarms_wake schedule task)

@[simp] theorem rung_wake (schedule : Schedule) (task : Task) :
    (schedule.wake task).rung = schedule.rung := by
  unfold wake
  split <;> rfl

@[simp] theorem rung_wakeAll (schedule : Schedule) (tasks : List Task) :
    (schedule.wakeAll tasks).rung = schedule.rung := by
  induction tasks generalizing schedule with
  | nil => rfl
  | cons task later ih => exact (ih (schedule.wake task)).trans (rung_wake schedule task)

/-- Once the alarms of a moment have gone off, it is over, and so is every moment before it. -/
theorem isOver_ring (schedule : Schedule) (now moment : Instant) :
    (schedule.ring now).isOver moment = decide (moment ≤ now) := by
  rw [isOver, ring, rung_wakeAll]

/-- A task waits for one turn at most. -/
theorem nodup_wake {schedule : Schedule} (isOnce : schedule.ready.Nodup) (task : Task) :
    (schedule.wake task).ready.Nodup := by
  unfold wake
  split
  · exact isOnce
  · next isNew =>
    refine List.nodup_append.2 ⟨isOnce, by simp, ?_⟩
    rintro first isReady second isTask rfl
    exact isNew (List.mem_singleton.1 isTask ▸ isReady)

theorem nodup_wakeAll {schedule : Schedule} (isOnce : schedule.ready.Nodup) (tasks : List Task) :
    (schedule.wakeAll tasks).ready.Nodup := by
  induction tasks generalizing schedule with
  | nil => exact isOnce
  | cons task later ih => exact ih (nodup_wake isOnce task)

theorem nodup_ring {schedule : Schedule} (isOnce : schedule.ready.Nodup) (now : Instant) :
    (schedule.ring now).ready.Nodup := by
  unfold ring
  apply nodup_wakeAll
  exact isOnce

theorem lt_due_of_mem_ring {schedule : Schedule} {now : Instant} {alarm : Alarm}
    (isSet : alarm ∈ (schedule.ring now).alarms) : now < alarm.due := by
  rw [ring, alarms_wakeAll] at isSet
  exact of_decide_eq_true (List.mem_filter.1 isSet).2

end Schedule

end Simulation
end FailoverPool
