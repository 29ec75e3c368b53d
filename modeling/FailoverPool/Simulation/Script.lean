import FailoverPool.Pool.WarmUp

/-!
Scripts for a client in a simulated cluster: what the servers will do, how much time passes, and
what the client's owner asks for.
-/

namespace FailoverPool
namespace Simulation

inductive Answer where
  | now (outcome : Outcome)
  | after (milliseconds : Nat) (outcome : Outcome)
  | never
  /-- The request is given up on the way. -/
  | lost
  deriving Inhabited

/-- Through what a request goes: the pool, or a connection, known by its name. -/
inductive Route where
  | pool
  | connection (name : String)
  deriving DecidableEq, Repr

/-- A request of a prepared statement. -/
inductive StatementUse where
  | execute (arguments : Value)
  | unprepare

def StatementUse.request (statement : Statement) : StatementUse → Request
  | .execute arguments => .executePrepared statement arguments
  | .unprepare => .unprepare statement

inductive Step where
  | reach (address : String) (isReachable : Bool)
  | dialState (address : String) (state : ConnectionState)
  | dialDelay (address : String) (milliseconds : Nat)
  /-- How every dialed connection answers the discovery call. -/
  | discovery (answer : Option Answer)
  | answer (connection : String) (answer : Answer)
  /-- A connection that belongs to no pool. -/
  | newConnection (address : String) (state : ConnectionState)
  | connect (addresses : List String) (options : PoolOptions) (timeout : Duration)
  | hangUp (connection : String)
  | setState (connection : String) (state : ConnectionState)
  /-- Events that report what has not just happened. -/
  | replay (connection : String) (kind : EventKind) (times : Nat)
  | sleep (milliseconds : Nat)
  /-- The clock jumps; timers that were due meanwhile go off late. -/
  | jump (milliseconds : Nat)
  | current
  | describe
  | isConnected (route : Route)
  | timeout (route : Route)
  | watch (route : Route)
  | request (route : Route) (request : Request)
  /-- Send a request and keep its future. -/
  | start (route : Route) (request : Request) (label : String)
  | await (label : String)
  | prepare (route : Route) (sql : String) (label : String)
  | statement (connection : String) (id : UInt64) (label : String)
  | useStatement (route : Route) (label : String) (use : StatementUse)
  | useStatementInStream (stream : String) (label : String) (use : StatementUse)
  | isBound (label : String) (use : StatementUse) (connection : String)
  | openStream (route : Route) (label : String)
  | requestInStream (stream : String) (request : Request)
  | close (route : Route)
  | release

inductive Reply where
  | nothing
  | text (text : String)
  | flag (value : Bool)
  | duration (duration : Duration)
  | options (options : PoolOptions)
  | outcome (outcome : Outcome)
  /-- The result did not come while the script waited for it. -/
  | stillPending
  | statement (statement : Statement) (address : String)
  | stream (id : UInt64) (address : String)
  | bound (toConnection : Bool) (plain : Bool)
  | done
  | failed (error : Error)

/-- How much the script waits for a result, in milliseconds. -/
def patience : Nat := 10000

end Simulation
end FailoverPool
