import FailoverPool.Future.Basic

/-!
One future in virtual time: a script sends to it, polls it, waits and lets go of either end.
-/

namespace FailoverPool
namespace FutureScript

inductive Build where
  | timeout (timeout : Duration)
  | hook

inductive Step where
  | poll
  | sleep (milliseconds : Nat)
  | send (outcome : Outcome)
  | dropSender
  | dropFuture
  /-- Wait for the result, which uses the future up. -/
  | await
  | describe

inductive Reply where
  | nothing
  | flag (value : Bool)
  | stillPending
  | outcome (outcome : Outcome)
  | text (text : String)

structure State where
  now : Instant
  future : Option (ResponseFuture Unit)
  released : Nat

def build (future : ResponseFuture Unit) : List Build → ResponseFuture Unit
  | [] => future
  | .timeout timeout :: rest => build (future.withTimeout 0 timeout) rest
  | .hook :: rest => build (future.onTimeout ()) rest

def State.count (state : State) (released : Option Unit) : State :=
  { state with released := state.released + if released.isSome then 1 else 0 }

/-- What a poll shows; one that panics shows nothing any more. -/
def Reply.ofPoll? : Poll → Option Reply
  | .pending => some .stillPending
  | .ready result => some (.outcome result)
  | .panicked => none

def State.await (state : State) (future : ResponseFuture Unit) : Option (State × Reply) :=
  let first := future.poll state.now
  match first.result, first.future.deadline with
  | .pending, none => some (state, .stillPending)
  | .pending, some deadline => do
      let now := max state.now deadline
      let second := first.future.poll now
      let after := { state with now, future := none }.count second.released
      return (after, ← Reply.ofPoll? second.result)
  | result, _ => do
      return ({ state with future := none }.count first.released, ← Reply.ofPoll? result)

/-- Take a step, unless it panics. -/
def State.step (state : State) : Step → Option (State × Reply)
  | .poll =>
      match state.future with
      | none => some (state, .nothing)
      | some future => do
          let polled := future.poll state.now
          let after := { state with future := some polled.future }.count polled.released
          return (after, ← Reply.ofPoll? polled.result)
  | .sleep milliseconds =>
      some ({ state with now := Instant.after state.now milliseconds }, .nothing)
  | .send outcome =>
      some ({ state with future := state.future.map (·.send outcome) },
        .flag state.future.isSome)
  | .dropSender => some ({ state with future := state.future.map (·.abandon) }, .nothing)
  | .dropFuture => some ({ state with future := none }, .nothing)
  | .await =>
      match state.future with
      | none => some (state, .nothing)
      | some future => state.await future
  | .describe => some (state, state.future.elim .nothing (.text ·.describe))

/-- Take all steps, up to the first that panics; after each, what it shows and how often a hook has
been released by then. -/
def State.run (state : State) : List Step → List (Reply × Nat)
  | [] => []
  | step :: rest =>
      match state.step step with
      | none => []
      | some (state, reply) => (reply, state.released) :: state.run rest

end FutureScript
end FailoverPool
