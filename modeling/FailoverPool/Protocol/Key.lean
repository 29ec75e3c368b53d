import FailoverPool.Bytes

/-!
The keys of the maps in frames.
-/

namespace FailoverPool
namespace Key

/-! Header. -/

def code : UInt64 := 0x00
def sync : UInt64 := 0x01
def streamId : UInt64 := 0x0a

/-! Request bodies. -/

def space : UInt64 := 0x10
def index : UInt64 := 0x11
def limit : UInt64 := 0x12
def offset : UInt64 := 0x13
def iterator : UInt64 := 0x14
def key : UInt64 := 0x20
def tuple : UInt64 := 0x21
def functionName : UInt64 := 0x22
def userName : UInt64 := 0x23
def expression : UInt64 := 0x27
def updateOperations : UInt64 := 0x28
def sqlText : UInt64 := 0x40
def sqlBind : UInt64 := 0x41
def statementId : UInt64 := 0x43
def timeout : UInt64 := 0x56
def eventKey : UInt64 := 0x57
def eventData : UInt64 := 0x58
def isolation : UInt64 := 0x59

/-! Response bodies. -/

def data : UInt64 := 0x30
def plainError : UInt64 := 0x31
def metadata : UInt64 := 0x32
def bindCount : UInt64 := 0x34
def sqlInfo : UInt64 := 0x42
def extendedError : UInt64 := 0x52

end Key
end FailoverPool
