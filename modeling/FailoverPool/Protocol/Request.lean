import FailoverPool.Duration
import FailoverPool.Protocol.Frame
import FailoverPool.Protocol.Isolation

/-!
Requests to the server: their kinds, and the body that each sends.
-/

namespace FailoverPool

/-- The identity of a physical connection. Two connections to one address differ. -/
structure ConnectionId where
  index : Nat
  deriving DecidableEq, Repr, Inhabited

structure Column where
  name : String
  type : String
  deriving DecidableEq, Repr, Inhabited

/-- A statement prepared on the server, which knows it on one connection only. -/
structure Statement where
  id : UInt64
  parameters : UInt64
  columns : List Column
  connection : ConnectionId
  deriving DecidableEq, Repr, Inhabited

inductive IndexIterator where
  | eq
  | req
  | all
  | lt
  | le
  | ge
  | gt
  | bitsAllSet
  | bitsAnySet
  | bitsAllNotSet
  | overlaps
  | neighbor
  deriving DecidableEq, Repr, Inhabited

def IndexIterator.number : IndexIterator → UInt64
  | .eq => 0
  | .req => 1
  | .all => 2
  | .lt => 3
  | .le => 4
  | .ge => 5
  | .gt => 6
  | .bitsAllSet => 7
  | .bitsAnySet => 8
  | .bitsAllNotSet => 9
  | .overlaps => 10
  | .neighbor => 11

/-- A request. Spaces and indexes go by number; tuples, keys, operations and arguments are values
of any kind. -/
inductive Request where
  | ping
  | select (space index offset limit : UInt32) (iterator : IndexIterator) (key : Value)
  | insert (space : UInt32) (tuple : Value)
  | replace (space : UInt32) (tuple : Value)
  | delete (space index : UInt32) (key : Value)
  | update (space index : UInt32) (key operations : Value)
  | upsert (space : UInt32) (tuple operations : Value)
  | call16 (function : String) (arguments : Value)
  | call17 (function : String) (arguments : Value)
  | eval (expression : String) (arguments : Value)
  | execute (sql : String) (arguments : Value)
  | prepare (sql : String)
  | executePrepared (statement : Statement) (arguments : Value)
  | unprepare (statement : Statement)
  | begin (isolation : IsolationLevel) (timeout : Duration)
  | commit
  | rollback
  deriving Inhabited

namespace Request

def get (space index : UInt32) (key : Value) : Request := .select space index 0 1 .eq key

def code : Request → FrameCode
  | .ping => .ping
  | .select .. => .select
  | .insert .. => .insert
  | .replace .. => .replace
  | .delete .. => .delete
  | .update .. => .update
  | .upsert .. => .upsert
  | .call16 .. => .call16
  | .call17 .. => .call17
  | .eval .. => .eval
  | .execute .. | .executePrepared .. => .execute
  | .prepare .. | .unprepare .. => .prepare
  | .begin .. => .begin
  | .commit => .commit
  | .rollback => .rollback

/-- The connection that alone can serve the request, if it belongs to one. -/
def boundTo? : Request → Option ConnectionId
  | .executePrepared statement _ | .unprepare statement => some statement.connection
  | _ => none

/-- The request belongs to exactly this connection. -/
def isBoundTo (request : Request) (connection : ConnectionId) : Bool :=
  request.boundTo? == some connection

/-- The body of a transaction's beginning. What equals the server's defaults is left out, so the
map has no entry, one or two. -/
def beginBody (isolation : IsolationLevel) (timeout : Duration) : Bytes :=
  let hasTimeout := !timeout.isZero
  let hasIsolation := isolation != .serverDefault
  Header.map (hasTimeout.toUInt32 + hasIsolation.toUInt32) ++
    (if hasTimeout then Unsigned.encode Key.timeout ++ packFloat64 timeout.secondsFloat else []) ++
    if hasIsolation then Entry.number Key.isolation isolation.code else []

def body : Request → Bytes
  | .ping | .commit | .rollback => Header.map 0
  | .select space index offset limit iterator key =>
      Header.map 6 ++ Entry.number Key.space space.toUInt64 ++
        Entry.number Key.index index.toUInt64 ++ Entry.number Key.offset offset.toUInt64 ++
        Entry.number Key.limit limit.toUInt64 ++ Entry.number Key.iterator iterator.number ++
        Entry.packed Key.key key
  | .insert space tuple | .replace space tuple =>
      Header.map 2 ++ Entry.number Key.space space.toUInt64 ++ Entry.packed Key.tuple tuple
  | .delete space index key =>
      Header.map 3 ++ Entry.number Key.space space.toUInt64 ++
        Entry.number Key.index index.toUInt64 ++ Entry.packed Key.key key
  | .update space index key operations =>
      Header.map 4 ++ Entry.number Key.space space.toUInt64 ++
        Entry.number Key.index index.toUInt64 ++ Entry.packed Key.key key ++
        Entry.packed Key.tuple operations
  | .upsert space tuple operations =>
      Header.map 3 ++ Entry.number Key.space space.toUInt64 ++ Entry.packed Key.tuple tuple ++
        Entry.packed Key.updateOperations operations
  | .call16 function arguments | .call17 function arguments =>
      Header.map 2 ++ Entry.text Key.functionName function ++ Entry.packed Key.tuple arguments
  | .eval expression arguments =>
      Header.map 2 ++ Entry.text Key.expression expression ++ Entry.packed Key.tuple arguments
  | .execute sql arguments =>
      Header.map 2 ++ Entry.text Key.sqlText sql ++ Entry.packed Key.sqlBind arguments
  | .prepare sql => Header.map 1 ++ Entry.text Key.sqlText sql
  | .executePrepared statement arguments =>
      Header.map 2 ++ Entry.number Key.statementId statement.id ++
        Entry.packed Key.sqlBind arguments
  | .unprepare statement => Header.map 1 ++ Entry.number Key.statementId statement.id
  | .begin isolation timeout => beginBody isolation timeout

def encode (request : Request) (sync stream : UInt64) : Bytes :=
  Frame.encode request.code sync stream request.body

end Request

end FailoverPool
