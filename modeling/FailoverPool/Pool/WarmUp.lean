import FailoverPool.Pool.Maintenance

/-!
How a pool comes to be: every address is dialed once, in order, and the pool exists if one of them
could be connected.
-/

namespace FailoverPool

/-- How many events of each address can wait. -/
def eventsPerAddress : Nat := 10

structure WarmUp where
  addresses : List String
  options : PoolOptions
  queue : QueueId
  entries : Entries
  fallback : Option ConnectionId
  /-- Some connection was connected when it was opened. -/
  isAlive : Bool
  deriving DecidableEq, Repr, Inhabited

namespace WarmUp

/-- Begin with addresses and options, if a pool can be run with them. -/
def begin (network : Network) (addresses : List String) (options : PoolOptions) :
    Except Error (Network × WarmUp) := do
  if addresses.isEmpty then throw (.config .noAddresses)
  options.validate
  let (network, queue) := network.addQueue (eventsPerAddress * addresses.length)
  return (network, ⟨addresses, options.normalized, queue, [], none, false⟩)

def take (warmUp : WarmUp) (network : Network) (address : String) :
    Option ConnectionId → WarmUp
  | none => warmUp
  | some id =>
      { warmUp with
        entries := warmUp.entries.put address id
        fallback := warmUp.fallback.or (some id)
        isAlive := warmUp.isAlive || network.isConnected id }

/-- All addresses have been dialed. Without a connected connection there is no pool, and every
connection that would have been installed is closed. -/
def finish (warmUp : WarmUp) (network : Network) : Network × Except Error Pool :=
  if warmUp.isAlive then
    (network, .ok ⟨warmUp.addresses, warmUp.entries, warmUp.fallback, false, true, warmUp.queue,
      warmUp.options⟩)
  else
    let network := warmUp.entries.connections.foldl Network.dismiss network
    ({ network with queues := network.queues.modify warmUp.queue.index (·.abandon) },
      .error .noActiveConnection)

end WarmUp

end FailoverPool
