import FailoverPool.Error

/-!
The isolation levels that a transaction can ask for.
-/

namespace FailoverPool

inductive IsolationLevel where
  | serverDefault
  | readCommitted
  | readConfirmed
  | bestEffort
  deriving DecidableEq, Repr, Inhabited

namespace IsolationLevel

def code : IsolationLevel → UInt64
  | .serverDefault => 0
  | .readCommitted => 1
  | .readConfirmed => 2
  | .bestEffort => 3

def ofCode? (code : UInt64) : Option IsolationLevel :=
  if code = 0 then some .serverDefault
  else if code = 1 then some .readCommitted
  else if code = 2 then some .readConfirmed
  else if code = 3 then some .bestEffort
  else none

def read (code : UInt64) : Except Error IsolationLevel :=
  match ofCode? code with
  | some level => .ok level
  | none => .error (.protocol (.unknownIsolation code))

@[simp]
theorem ofCode?_code (level : IsolationLevel) : ofCode? level.code = some level := by
  cases level <;> rfl

@[simp]
theorem read_code (level : IsolationLevel) : read level.code = .ok level := by
  simp [read]

end IsolationLevel

end FailoverPool
