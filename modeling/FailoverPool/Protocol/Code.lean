import FailoverPool.Bytes

/-!
The kinds of frame, by the code in their header.
-/

namespace FailoverPool

inductive FrameCode where
  | ok
  | select
  | insert
  | replace
  | update
  | delete
  | call16
  | auth
  | eval
  | upsert
  | call17
  | execute
  | prepare
  | begin
  | commit
  | rollback
  | ping
  | watch
  | unwatch
  | event
  deriving DecidableEq, Repr

def FrameCode.number : FrameCode → UInt64
  | .ok => 0
  | .select => 1
  | .insert => 2
  | .replace => 3
  | .update => 4
  | .delete => 5
  | .call16 => 6
  | .auth => 7
  | .eval => 8
  | .upsert => 9
  | .call17 => 10
  | .execute => 11
  | .prepare => 13
  | .begin => 14
  | .commit => 15
  | .rollback => 16
  | .ping => 64
  | .watch => 74
  | .unwatch => 75
  | .event => 76

/-- The bit of a response's code that marks an error. -/
def errorBit : UInt32 := 0x8000

end FailoverPool
