import FailoverPool.Duration
import FailoverPool.Error

/-!
Options of pools and connections.
-/

namespace FailoverPool

structure PoolOptions where
  checkInterval : Duration
  /-- The stored function that returns the current address list. -/
  discoveryFunction : Option String
  discoveryInterval : Duration
  deriving DecidableEq, Repr, Inhabited

namespace PoolOptions

def defaultDiscoveryInterval : Duration := .ofSeconds 60

/-- A check every second, and no discovery. -/
def default : PoolOptions where
  checkInterval := .ofSeconds 1
  discoveryFunction := none
  discoveryInterval := defaultDiscoveryInterval

def validate (options : PoolOptions) : Except Error Unit :=
  if options.checkInterval.isZero then .error (.config .zeroCheckInterval) else .ok ()

/-- Put the defaults in place of an interval of zero and of a function without a name. -/
def normalized (options : PoolOptions) : PoolOptions where
  checkInterval := options.checkInterval
  discoveryFunction := options.discoveryFunction.filter (· ≠ "")
  discoveryInterval :=
    if options.discoveryInterval.isZero then defaultDiscoveryInterval
    else options.discoveryInterval

end PoolOptions

/-- How a connection is opened and used. -/
structure ConnectOptions where
  /-- The time that a request may take; zero for as long as it needs. -/
  timeout : Duration
  connectTimeout : Duration
  /-- The user to authenticate; empty for a guest, who does not. -/
  user : String
  password : String
  deriving DecidableEq, Repr, Inhabited

/-- Requests without a deadline, three seconds to connect, as a guest. -/
def ConnectOptions.default : ConnectOptions where
  timeout := .zero
  connectTimeout := .ofSeconds 3
  user := ""
  password := ""

end FailoverPool
