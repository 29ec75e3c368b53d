import FailoverPool.Proofs.Value.Writing
import FailoverPool.Protocol.Request

/-!
What frames and requests say, apart from how they are written.

The tables here give the header of a frame as a map, and for each kind of request its number and the
entries of its body, keys and numbers spelled out. A writer puts a count in front and the entries
one by one behind it; that the two agree, so that the bytes are those of the map, is
`Frame.encodeHeader_eq` and `Request.body_eq`.
-/

namespace FailoverPool

/-- The map of these entries. -/
def Fields.toValue (fields : Fields) : Value :=
  .map (fields.map fun (key, value) => (.ofUInt64 key, value))

/-- The iterators, each at the place that is its number. -/
def IndexIterator.listed : List IndexIterator :=
  [.eq, .req, .all, .lt, .le, .ge, .gt, .bitsAllSet, .bitsAnySet, .bitsAllNotSet, .overlaps,
    .neighbor]

/-- The levels, each at the place that is its number. -/
def IsolationLevel.listed : List IsolationLevel :=
  [.serverDefault, .readCommitted, .readConfirmed, .bestEffort]

namespace Request

/-- The number of a kind of request. -/
def kind : Request → UInt64
  | .select .. => 1
  | .insert .. => 2
  | .replace .. => 3
  | .update .. => 4
  | .delete .. => 5
  | .call16 .. => 6
  | .eval .. => 8
  | .upsert .. => 9
  | .call17 .. => 10
  | .execute .. | .executePrepared .. => 11
  | .prepare .. | .unprepare .. => 13
  | .begin .. => 14
  | .commit => 15
  | .rollback => 16
  | .ping => 64

/-- What stands in the body of a request. The two kinds that have a number in common with another
differ from it in the key of what is to be executed or forgotten. -/
def contents : Request → Fields
  | .ping | .commit | .rollback => []
  | .select space index offset limit iterator key =>
      [(0x10, .ofUInt64 space.toUInt64), (0x11, .ofUInt64 index.toUInt64),
        (0x13, .ofUInt64 offset.toUInt64), (0x12, .ofUInt64 limit.toUInt64),
        (0x14, .ofUInt64 (UInt64.ofNat (IndexIterator.listed.idxOf iterator))), (0x20, key)]
  | .insert space tuple => [(0x10, .ofUInt64 space.toUInt64), (0x21, tuple)]
  | .replace space tuple => [(0x10, .ofUInt64 space.toUInt64), (0x21, tuple)]
  | .delete space index key =>
      [(0x10, .ofUInt64 space.toUInt64), (0x11, .ofUInt64 index.toUInt64), (0x20, key)]
  -- Operations stand where the tuple of an insertion does.
  | .update space index key operations =>
      [(0x10, .ofUInt64 space.toUInt64), (0x11, .ofUInt64 index.toUInt64), (0x20, key),
        (0x21, operations)]
  | .upsert space tuple operations =>
      [(0x10, .ofUInt64 space.toUInt64), (0x21, tuple), (0x28, operations)]
  | .call16 function arguments => [(0x22, .text function), (0x21, arguments)]
  | .call17 function arguments => [(0x22, .text function), (0x21, arguments)]
  | .eval expression arguments => [(0x27, .text expression), (0x21, arguments)]
  | .execute sql arguments => [(0x40, .text sql), (0x41, arguments)]
  | .prepare sql => [(0x40, .text sql)]
  | .executePrepared statement arguments => [(0x43, .ofUInt64 statement.id), (0x41, arguments)]
  | .unprepare statement => [(0x43, .ofUInt64 statement.id)]
  | .begin isolation timeout =>
      (if timeout = .zero then [] else [(0x56, .float64 timeout.secondsFloat)]) ++
        if isolation = .serverDefault then []
        else [(0x59, .ofUInt64 (UInt64.ofNat (IsolationLevel.listed.idxOf isolation)))]

end Request

/-- What stands in the header of a frame: its code, its number and, inside a stream, the number of
the stream. -/
def Frame.headerFields (code : FrameCode) (sync stream : UInt64) : Fields :=
  [(0x00, .ofUInt64 code.number), (0x01, .ofUInt64 sync)] ++
    if stream = 0 then [] else [(0x0a, .ofUInt64 stream)]

theorem Value.encode_ofUInt64 (number : UInt64) :
    (Value.ofUInt64 number).encode = Unsigned.encode number := by
  have isUnsigned : 0 ≤ (Integer.ofUInt64 number).val := Int.natCast_nonneg _
  have isNumber : UInt64.ofNat (Integer.ofUInt64 number).val.toNat = number := UInt64.ofNat_toNat
  rw [ofUInt64, encode_int, Integer.encode, if_pos isUnsigned, isNumber]

theorem Entry.number_eq (key value : UInt64) : number key value = packed key (.ofUInt64 value) := by
  rw [number, packed, Value.encode_ofUInt64]

theorem Entry.text_eq (key : UInt64) (value : String) :
    text key value = packed key (.text value) := by
  rw [text, packed, Value.encode_text, Utf8.pack]

/-- The map of some entries is their count and then the entries. -/
theorem Fields.encode_toValue (fields : Fields) : fields.toValue.encode =
    Header.map (UInt32.ofNat fields.length) ++
      fields.flatMap fun field => Entry.packed field.1 field.2 := by
  rw [toValue, Value.encode_map, List.length_map, List.flatMap_map]
  congr 2
  funext field
  rw [Value.encodeEntry, Entry.packed, Value.encode_ofUInt64]

/-- The header is written as the map that it stands for. -/
theorem Frame.encodeHeader_eq (code : FrameCode) (sync stream : UInt64) :
    encodeHeader code sync stream = (headerFields code sync stream).toValue.encode := by
  rw [encodeHeader, headerFields, Fields.encode_toValue]
  split <;> simp_all [Entry.number_eq, Key.code, Key.sync, Key.streamId]

/-- What stands in a frame behind its length. -/
def Frame.payload (code : FrameCode) (sync stream : UInt64) (body : Bytes) : Bytes :=
  encodeHeader code sync stream ++ body

theorem Frame.encode_eq (code : FrameCode) (sync stream : UInt64) (body : Bytes) :
    encode code sync stream body =
      0xce :: (BigEndian.encode 4 (payload code sync stream body).length ++
        payload code sync stream body) := by
  simp [encode, payload]

theorem Frame.watchBody_eq (key : String) :
    watchBody key = (Fields.toValue [(0x57, .text key)]).encode := by
  rw [watchBody, Fields.encode_toValue, Entry.text_eq]
  simp [Key.eventKey]

namespace Request

theorem number_code (request : Request) : request.code.number = request.kind := by
  cases request <;> rfl

theorem beginBody_eq (isolation : IsolationLevel) (timeout : Duration) :
    beginBody isolation timeout = (contents (.begin isolation timeout)).toValue.encode := by
  have isListed : isolation.code = UInt64.ofNat (IsolationLevel.listed.idxOf isolation) := by
    cases isolation <;> rfl
  have hasTimeout : (!timeout.isZero) = !decide (timeout = .zero) := by
    cases timeout
    simp [Duration.isZero, Duration.zero, Bool.beq_eq_decide_eq]
  have hasIsolation : (isolation != .serverDefault) = !decide (isolation = .serverDefault) := by
    cases isolation <;> rfl
  rw [contents, Fields.encode_toValue, beginBody, hasTimeout, hasIsolation, ← isListed]
  by_cases noTimeout : timeout = .zero <;> by_cases isDefault : isolation = .serverDefault <;>
    simp [noTimeout, isDefault, Bool.toUInt32, Entry.number_eq, Entry.packed, packFloat64,
      Value.encode_float64, Key.timeout, Key.isolation]

/-- The body is written as the map that it stands for: the count in front of the entries is right,
and each entry stands under its key. -/
theorem body_eq (request : Request) : request.body = request.contents.toValue.encode := by
  cases request with
  | begin isolation timeout => exact beginBody_eq isolation timeout
  | select space index offset limit iterator key =>
      have isListed : iterator.number = UInt64.ofNat (IndexIterator.listed.idxOf iterator) := by
        cases iterator <;> rfl
      rw [contents, Fields.encode_toValue, ← isListed]
      simp [body, Entry.number_eq, Key.space, Key.index, Key.offset, Key.limit, Key.iterator,
        Key.key]
  | _ =>
      rw [contents, Fields.encode_toValue]
      simp [body, Entry.number_eq, Entry.text_eq, Key.space, Key.index, Key.key, Key.tuple,
        Key.functionName, Key.expression, Key.updateOperations, Key.sqlText, Key.sqlBind,
        Key.statementId]

end Request
end FailoverPool
