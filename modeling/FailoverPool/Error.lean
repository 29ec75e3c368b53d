import FailoverPool.Text.Base64
import FailoverPool.Text.Quoted
import FailoverPool.Value.Display
import FailoverPool.Value.Reader

/-!
The failures that a caller can be given, each with its cause, and the text that tells it.
-/

namespace FailoverPool

inductive ConfigFault where
  | noAddresses
  | zeroCheckInterval
  | other (text : String)
  deriving DecidableEq, Repr

def ConfigFault.text : ConfigFault → String
  | .noAddresses => "addrs should not be empty"
  | .zeroCheckInterval => "wrong check timeout, must be greater than 0"
  | .other text => text

inductive IoFault where
  /-- The stream ended where a number of known width had begun. -/
  | earlyEnd
  /-- The stream ended where more bytes were announced. -/
  | unexpectedEnd
  /-- The operating system refused, for a reason with a name of its own. -/
  | system (kind : String)
  | other (text : String)
  deriving DecidableEq, Repr

def IoFault.text : IoFault → String
  | .earlyEnd => "early eof"
  | .unexpectedEnd => "unexpected end of file"
  | .system kind => kind
  | .other text => text

inductive ProtocolFault where
  | notUnsigned (got : Value)
  | notMap (got : Value)
  | notArray (got : Value)
  | codeOutOfRange (code : UInt64)
  | lengthMarker (byte : UInt8)
  | frameTooLong (length : UInt64)
  | eventWithoutKey
  | incompleteGreeting
  | unexpectedGreeting (version : String)
  | invalidSalt (fault : Base64.Fault)
  | shortSalt
  | unknownIsolation (code : UInt64)
  | noStatementId
  | other (text : String)

def maxFrameLength : UInt64 := 0xffffffff

def ProtocolFault.text : ProtocolFault → String
  | .notUnsigned got => "expected unsigned integer, got " ++ got.display
  | .notMap got => "expected map, got " ++ got.display
  | .notArray got => "expected array, got " ++ got.display
  | .codeOutOfRange code => s!"response code {code} out of range"
  | .lengthMarker byte => "Invalid frame length marker 0x" ++ hexText byte.toNat
  | .frameTooLong length => s!"Frame length {length} exceeds {maxFrameLength}"
  | .eventWithoutKey => "event without key"
  | .incompleteGreeting => "Incomplete greeting"
  | .unexpectedGreeting version => "Unexpected greeting: " ++ version
  | .invalidSalt fault => "Invalid salt: " ++ fault.text
  | .shortSalt => "Salt is too short"
  | .unknownIsolation code => s!"unknown isolation level {code}"
  | .noStatementId => "prepare response without statement id"
  | .other text => text

inductive DecodeFault where
  | unreadable (fault : ReadFault)
  /-- The values do not have the shape that the caller asked for. -/
  | shape
  | other (text : String)
  deriving DecidableEq, Repr

def DecodeFault.text : DecodeFault → String
  | .unreadable fault => fault.text
  | .shape => "the data has another shape"
  | .other text => text

inductive UnsupportedFault where
  | poolWatchers
  | connectionWatchers
  | other (text : String)
  deriving DecidableEq, Repr

def UnsupportedFault.text : UnsupportedFault → String
  | .poolWatchers => "watchers are not supported by ConnectionPool, use a pooled connection type"
  | .connectionWatchers => "watchers are not supported by this connection"
  | .other text => text

inductive Error where
  | config (fault : ConfigFault)
  | noActiveConnection
  /-- A request that belongs to one connection was routed through another. -/
  | bindingMismatch
  | io (fault : IoFault)
  | connectionClosed (address : String)
  | timeout
  | canceled
  | protocol (fault : ProtocolFault)
  | server (code : UInt32) (message : String)
  | encode (text : String)
  | decode (fault : DecodeFault)
  | discovery (text : String)
  | unsupported (fault : UnsupportedFault)
  deriving Inhabited

namespace Error

/-- The text of a failure. The operating system's refusals are told by their name alone. -/
def message : Error → String
  | .config fault => fault.text
  | .noActiveConnection => "no active connections"
  | .bindingMismatch =>
      "the passed connected request doesn't belong to the current connection or connection pool"
  | .io (.system kind) => kind
  | .io fault => "I/O error: " ++ fault.text
  | .connectionClosed address => "connection to " ++ address ++ " is closed"
  | .timeout => "request timed out"
  | .canceled => "request was canceled before a response arrived"
  | .protocol fault => "protocol error: " ++ fault.text
  | .server code message => "server error 0x" ++ hexText code.toNat ++ ": " ++ message
  | .encode text => "msgpack encode error: " ++ text
  | .decode fault => "msgpack decode error: " ++ fault.text
  | .discovery text => "cluster discovery failed: " ++ text
  | .unsupported fault => fault.text

/-- The failure arose on the way to the server or back, and neither in the server nor in a check
made before anything was sent. -/
def isTransport : Error → Bool
  | .io _ | .connectionClosed _ | .timeout | .canceled | .protocol _ => true
  | _ => false

end Error

end FailoverPool
