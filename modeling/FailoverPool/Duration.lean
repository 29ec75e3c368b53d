import FailoverPool.Floating.Rounding

/-!
Spans of time, to the nanosecond.
-/

namespace FailoverPool

structure Duration where
  nanoseconds : Nat
  deriving DecidableEq, Repr, Inhabited

namespace Duration

def zero : Duration := ⟨0⟩

def ofSeconds (seconds : Nat) : Duration := ⟨seconds * 1000000000⟩

def ofMilliseconds (milliseconds : Nat) : Duration := ⟨milliseconds * 1000000⟩

def isZero (duration : Duration) : Bool := duration.nanoseconds == 0

def seconds (duration : Duration) : Nat := duration.nanoseconds / 1000000000

def subsecond (duration : Duration) : Nat := duration.nanoseconds % 1000000000

/-- The milliseconds, a part of one counted as a whole: timers go off on whole milliseconds and
never early. -/
def ticks (duration : Duration) : Nat := (duration.nanoseconds + 999999) / 1000000

/-- The seconds as a double: the whole seconds and the rest of one, each rounded, then their
rounded sum. -/
def secondsFloat (duration : Duration) : UInt64 :=
  let whole := FloatFormat.double.ofRatio duration.seconds 1
  let part := FloatFormat.double.ofRatio duration.subsecond 1000000000
  UInt64.ofNat (FloatFormat.double.add whole part)

end Duration

/-- A moment, in milliseconds since the beginning. -/
abbrev Instant := Nat

namespace Instant

/-- The longest time that the timers underneath wait, in milliseconds: thirty years of 365 days.
They cut every longer wait to it, and not only one that their clock could not count to. -/
def longestWait : Nat := 30 * 365 * 24 * 60 * 60 * 1000

def after (now : Instant) (milliseconds : Nat) : Instant := now + min milliseconds longestWait

theorem after_of_le {now : Instant} {milliseconds : Nat} (isShort : milliseconds ≤ longestWait) :
    after now milliseconds = now + milliseconds := by
  rw [after, Nat.min_eq_left isShort]

end Instant

end FailoverPool
