import FailoverPool.Protocol.Request
import FailoverPool.Value.Typed

/-!
Responses of the server.

`Response.decode` takes the entries of the header and the body in order; an entry whose key it does
not know has no effect.
-/

namespace FailoverPool

structure SqlInfo where
  affected : UInt64
  /-- The keys that the server chose for inserted rows. -/
  generatedIds : List UInt64
  deriving DecidableEq, Repr, Inhabited

structure Response where
  code : UInt32
  sync : UInt64
  data : List Value
  error : Option String
  columns : List Column
  sql : SqlInfo
  statementId : Option UInt64
  bindCount : Option UInt64
  deriving Inhabited

namespace Response

/-- The response that says nothing. -/
def empty : Response where
  code := 0
  sync := 0
  data := []
  error := none
  columns := []
  sql := ⟨0, []⟩
  statementId := none
  bindCount := none

def expectUnsigned (value : Value) : Except Error UInt64 :=
  match value.toUInt64? with
  | some number => .ok number
  | none => .error (.protocol (.notUnsigned value))

def expectArray : Value → Except Error (List Value)
  | .array items => .ok items
  | other => .error (.protocol (.notArray other))

/-- The entries of a map under numbers, or the protocol fault that it is no map or has another
key. -/
def expectFields : Value → Except Error Fields
  | .map entries => entries.mapM fun (key, value) => do return (← expectUnsigned key, value)
  | other => .error (.protocol (.notMap other))

/-- The message of the first frame of an extended error. -/
def extendedMessage? (value : Value) : Option String := do
  let stack ← Value.lookup? 0x00 (← value.map?)
  let frame ← (← stack.array?).head?
  (← Value.lookup? 0x03 (← frame.map?)).text?

/-- Take one entry of a column's description. What is not a text counts as an empty one. -/
def takeColumnField (column : Column) : UInt64 × Value → Column
  | (key, value) =>
      let text := value.text?.getD ""
      if key = 0x00 then { column with name := text }
      else if key = 0x01 then { column with type := text }
      else column

def decodeColumns (value : Value) : Except Error (List Column) := do
  (← expectArray value).mapM fun item => do
    return (← expectFields item).foldl takeColumnField ⟨"", ""⟩

def takeSqlField (info : SqlInfo) : UInt64 × Value → Except Error SqlInfo
  | (key, value) => do
      if key = 0x00 then return { info with affected := ← expectUnsigned value }
      else if key = 0x01 then
        return { info with generatedIds := ← (← expectArray value).mapM expectUnsigned }
      else return info

def decodeSqlInfo (value : Value) : Except Error SqlInfo := do
  (← expectFields value).foldlM takeSqlField ⟨0, []⟩

def takeHeaderField (response : Response) : UInt64 × Value → Except Error Response
  | (key, value) => do
      if key = Key.code then
        let code ← expectUnsigned value
        if code ≤ 0xffffffff then return { response with code := code.toUInt32 }
        else throw (.protocol (.codeOutOfRange code))
      else if key = Key.sync then return { response with sync := ← expectUnsigned value }
      else return response

/-- Take one entry of the body. The message of an extended error replaces a plain one, and a plain
one replaces none. -/
def takeBodyField (response : Response) : UInt64 × Value → Except Error Response
  | (key, value) => do
      if key = Key.data then return { response with data := ← expectArray value }
      else if key = Key.plainError then
        return { response with error := response.error.or value.text? }
      else if key = Key.extendedError then
        return { response with error := (extendedMessage? value).or response.error }
      else if key = Key.metadata then return { response with columns := ← decodeColumns value }
      else if key = Key.sqlInfo then return { response with sql := ← decodeSqlInfo value }
      else if key = Key.statementId then
        return { response with statementId := some (← expectUnsigned value) }
      else if key = Key.bindCount then
        return { response with bindCount := some (← expectUnsigned value) }
      else return response

def decode (header : Value) (body : Option Value) : Except Error Response := do
  let response ← (← expectFields header).foldlM takeHeaderField empty
  match body with
  | none => return response
  | some body => (← expectFields body).foldlM takeBodyField response

def ofFrame (frame : Frame) : Except Error Response := decode frame.header frame.body

def isError (response : Response) : Bool := response.code &&& errorBit != 0

/-- The response itself, or the error that it reports. -/
def toResult (response : Response) : Except Error Response :=
  if response.isError then
    .error (.server (response.code &&& ~~~errorBit) (response.error.getD ""))
  else .ok response

/-- The data as an array of a known shape. -/
def typed {Data : Type} (shape : Value → Option Data) (response : Response) : Except Error Data :=
  match shape (.array response.data) with
  | some data => .ok data
  | none => .error (.decode .shape)

/-- The statement that a connection's answer to a preparation describes. -/
def toStatement (response : Response) (connection : ConnectionId) : Except Error Statement :=
  match response.statementId with
  | none => .error (.protocol .noStatementId)
  | some id => .ok ⟨id, response.bindCount.getD 0, response.columns, connection⟩

end Response

end FailoverPool
