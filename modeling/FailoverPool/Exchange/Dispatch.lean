import FailoverPool.Exchange.Basic

/-!
What a connection does with the bytes that it receives.

Bytes are cut into frames; a frame is an event for watchers or a response to a request. A frame
that cannot be read, or that breaks the protocol, ends the connection. A response that reports an
error of the server does not.
-/

namespace FailoverPool
namespace Exchange

def codeOf (header : Value) : Option UInt64 := do
  (← Value.lookup? Key.code (← header.map?)).toUInt64?

def eventOf (body : Option Value) : Except Error (String × Option Value) := do
  let fields ← match body with
    | none => pure []
    | some body => Response.expectFields body
  let (key, value) := fields.foldl (fun (key, value) (field : UInt64 × Value) =>
    if field.1 = Key.eventKey then (field.2.text?, value)
    else if field.1 = Key.eventData then (key, some field.2)
    else (key, value)) (none, none)
  match key with
  | some key => return (key, value)
  | none => throw (.protocol .eventWithoutKey)

/-- The callback of a watcher: it takes note of the event, unregisters whom it will, and ends. -/
def callback (exchange : Exchange) (key : String) (value : Option Value) (watcher : Watcher) :
    Exchange × CallbackEnd :=
  (watcher.reaction.unregisters.foldl unregister
    { exchange with calls := exchange.calls ++ [⟨watcher.id, key, value⟩] },
    watcher.reaction.ending)

/-- Run the callback of a watcher. A panic is caught and goes no further: what the callback has done
stays done, and neither the other callbacks nor the connection suffer. -/
def runCallback (exchange : Exchange) (key : String) (value : Option Value) (watcher : Watcher) :
    Exchange :=
  match exchange.callback key value watcher with
  | (after, .returned) => after
  | (after, .panicked) => after

@[simp]
theorem runCallback_eq (exchange : Exchange) (key : String) (value : Option Value)
    (watcher : Watcher) :
    exchange.runCallback key value watcher = (exchange.callback key value watcher).1 := by
  unfold runCallback
  split <;> simp_all

/-- Handle an event: all callbacks that its key has at this moment run, in the order of their
registration, and then the server is asked for the next event of the key. -/
def handleEvent (exchange : Exchange) (key : String) (value : Option Value) : Exchange :=
  match exchange.watchers.watchersOf key with
  | [] => exchange
  | watchers =>
      (watchers.foldl (fun exchange watcher => exchange.runCallback key value watcher)
        exchange).sendWatch key

def dispatch (exchange : Exchange) (frame : Frame) : Except Error Exchange := do
  if codeOf frame.header = some FrameCode.event.number then
    let (key, value) ← eventOf frame.body
    return exchange.handleEvent key value
  else
    let response ← Response.ofFrame frame
    return exchange.resolve response.sync response.toResult

def receive (exchange : Exchange) (frame : Except Error Frame) : Exchange :=
  match frame.bind exchange.dispatch with
  | .ok exchange => exchange
  | .error _ => exchange.teardown

/-- Take in the next frame among the unread bytes, if it is whole. -/
def readNext (exchange : Exchange) : Exchange :=
  if exchange.isClosed then exchange
  else match Frame.split exchange.unread with
    | (.ok payload, rest) => { exchange with unread := rest }.receive (Frame.ofPayload payload)
    | (.error fault, _) => if fault.isIncomplete then exchange else exchange.teardown

/-- Take in the whole frames among the unread bytes, at most so many. -/
def readFrames : (count : Nat) → Exchange → Exchange
  | 0, exchange => exchange
  | count + 1, exchange => readFrames count exchange.readNext

/-- Take in all whole frames among the unread bytes. A frame has at least one byte. -/
def readAll (exchange : Exchange) : Exchange := exchange.readFrames exchange.unread.length

def feed (exchange : Exchange) (bytes : Bytes) : Exchange :=
  if exchange.isClosed then exchange
  else { exchange with unread := exchange.unread ++ bytes }.readAll

def endInput (exchange : Exchange) : Exchange := exchange.teardown

end Exchange
end FailoverPool
