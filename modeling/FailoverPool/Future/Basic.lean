import FailoverPool.Protocol.Response

/-!
A response that will arrive later.

A future either has its result from the start or waits for one to be sent. Polling looks first for
what was sent, then at whether the sender is gone, and last at the deadline; the hook is released
by the poll that meets the deadline and by no other. What has been sent is given once: to poll again
is a mistake of the caller, and panics.
-/

namespace FailoverPool

/-- What a request comes to. -/
abbrev Outcome := Except Error Response

/-- Where a waiting future finds its result. -/
inductive Inbox where
  | empty
  | sent (outcome : Outcome)
  /-- The sender is gone and sent nothing. -/
  | abandoned
  /-- What was to be had has been taken out. -/
  | taken

/-- Where a future has its result from. -/
inductive FutureState where
  /-- It was known from the start, and is absent once it has been taken. -/
  | ready (outcome : Option Outcome)
  | pending (inbox : Inbox)

/-- What a poll comes to. -/
inductive Poll where
  | pending
  | ready (outcome : Outcome)
  | panicked

def Poll.outcome? : Poll → Option Outcome
  | .ready outcome => some outcome
  | .pending | .panicked => none

/-- A response that will arrive later. A `Hook` names what is to be done when the deadline passes
first. -/
structure ResponseFuture (Hook : Type) where
  state : FutureState
  deadline : Option Instant
  hook : Option Hook

namespace ResponseFuture

variable {Hook : Type}

def ready (outcome : Outcome) : ResponseFuture Hook := ⟨.ready (some outcome), none, none⟩

def failed (error : Error) : ResponseFuture Hook := ready (.error error)

def pending : ResponseFuture Hook := ⟨.pending .empty, none, none⟩

/-- The future was made to wait for its result. -/
def isPending (future : ResponseFuture Hook) : Bool :=
  match future.state with
  | .ready _ => false
  | .pending _ => true

def describe (future : ResponseFuture Hook) : String :=
  "ResponseFuture \x7b state: \"" ++ (if future.isPending then "pending" else "ready") ++ "\" \x7d"

/-- Fail once a time has passed from now, if the future waits and the time is not zero. -/
def withTimeout (future : ResponseFuture Hook) (now : Instant) (timeout : Duration) :
    ResponseFuture Hook :=
  if !timeout.isZero && future.isPending then
    { future with deadline := some (Instant.after now timeout.ticks) }
  else future

/-- Attach a hook in place of any attached before; without a deadline there is none to attach. -/
def onTimeout (future : ResponseFuture Hook) (hook : Hook) : ResponseFuture Hook :=
  if future.deadline.isSome then { future with hook := some hook } else future

def send (future : ResponseFuture Hook) (outcome : Outcome) : ResponseFuture Hook :=
  match future.state with
  | .pending .empty => { future with state := .pending (.sent outcome) }
  | _ => future

def abandon (future : ResponseFuture Hook) : ResponseFuture Hook :=
  match future.state with
  | .pending .empty => { future with state := .pending .abandoned }
  | _ => future

/-- What a poll gives: the future after it, what it comes to, and the hook that it releases. -/
structure Polled (Hook : Type) where
  future : ResponseFuture Hook
  result : Poll
  released : Option Hook

def isLate (future : ResponseFuture Hook) (now : Instant) : Bool :=
  match future.deadline with
  | some deadline => deadline ≤ now
  | none => false

def poll (future : ResponseFuture Hook) (now : Instant) : Polled Hook :=
  match future.state with
  | .ready outcome =>
      ⟨{ future with state := .ready none }, .ready (outcome.getD (.error .canceled)), none⟩
  | .pending (.sent outcome) => ⟨{ future with state := .pending .taken }, .ready outcome, none⟩
  | .pending .abandoned =>
      ⟨{ future with state := .pending .taken }, .ready (.error .canceled), none⟩
  | .pending .taken => ⟨future, .panicked, none⟩
  | .pending .empty =>
      if future.isLate now then
        ⟨{ future with hook := none }, .ready (.error .timeout), future.hook⟩
      else ⟨future, .pending, none⟩

end ResponseFuture

end FailoverPool
