import FailoverPool.Proofs.Protocol.Contents
import FailoverPool.Proofs.Protocol.Entries
import FailoverPool.Protocol.Response

/-!
A response is what the entries of its header and body say, in whatever order they stand.

No entry is read in the light of another: `Response.Describes` tells each field of the response from
the one key that it belongs to, and the error from two keys of which one takes precedence.
Decoding succeeds if there is a response that the entries describe, and finds it
(`Response.decode_eq_ok_iff`); else it fails with a protocol error. Main statement:
`Response.decode_rearranged`.
-/

namespace FailoverPool

namespace Value

theorem text?_eq_some_iff {value : Value} {text : String} :
    value.text? = some text ↔ value = .text text := by
  cases value <;> simp [text?]

theorem array?_eq_some_iff {value : Value} {items : List Value} :
    value.array? = some items ↔ value = .array items := by
  cases value <;> simp [array?]

theorem toUInt64?_eq_some_iff {value : Value} {number : UInt64} :
    value.toUInt64? = some number ↔ value = .ofUInt64 number := by
  constructor
  · intro isNumber
    cases value <;> simp only [toUInt64?, reduceCtorEq] at isNumber
    case int integer =>
      obtain ⟨val, lower, upper⟩ := integer
      simp only [Integer.toUInt64?] at isNumber
      split_ifs at isNumber with isUnsigned
      cases isNumber
      simp only [ofUInt64, Integer.ofUInt64, int.injEq, Integer.mk.injEq, UInt64.toNat_ofNat']
      omega
  · rintro rfl
    exact Integer.toUInt64?_ofUInt64 number

theorem map?_eq_some_iff {value : Value} {entries : List (Value × Value)} :
    value.map? = some entries ↔ value = .map entries := by
  cases value <;> simp [map?]

end Value

def Error.IsProtocol (error : Error) : Prop := ∃ fault, error = .protocol fault

namespace Response

def headerKeys : List UInt64 := [Key.code, Key.sync]

def bodyKeys : List UInt64 :=
  [Key.data, Key.plainError, Key.extendedError, Key.metadata, Key.sqlInfo, Key.statementId,
    Key.bindCount]

def readCode (value : Value) : Except Error UInt32 := do
  let code ← expectUnsigned value
  if code ≤ 0xffffffff then return code.toUInt32 else throw (.protocol (.codeOutOfRange code))

def readNumber (value : Value) : Except Error (Option UInt64) := some <$> expectUnsigned value

/-- The message that the entries of a body leave, after an earlier one. -/
def messageAfter (body : Fields) (earlier : Option String) : Option String :=
  ((body.lookup Key.extendedError).bind extendedMessage?).or
    (earlier.or ((body.lookup Key.plainError).bind Value.text?))

/-- The response is what header and body say. -/
structure Describes (header body : Fields) (response : Response) : Prop where
  code : header.said Key.code readCode 0 = .ok response.code
  sync : header.said Key.sync expectUnsigned 0 = .ok response.sync
  data : body.said Key.data expectArray [] = .ok response.data
  columns : body.said Key.metadata decodeColumns [] = .ok response.columns
  sql : body.said Key.sqlInfo decodeSqlInfo ⟨0, []⟩ = .ok response.sql
  statementId : body.said Key.statementId readNumber none = .ok response.statementId
  bindCount : body.said Key.bindCount readNumber none = .ok response.bindCount
  error : response.error = messageAfter body none

section Faults

theorem expectUnsigned_failsOnly (value : Value) : FailsOnly Error.IsProtocol
    (expectUnsigned value) := by
  unfold expectUnsigned
  split
  · exact .ok _
  · exact .error ⟨_, rfl⟩

theorem expectArray_failsOnly (value : Value) : FailsOnly Error.IsProtocol
    (expectArray value) := by
  unfold expectArray
  split
  · exact .ok _
  · exact .error ⟨_, rfl⟩

theorem expectFields_failsOnly (value : Value) : FailsOnly Error.IsProtocol
    (expectFields value) := by
  unfold expectFields
  split
  · apply FailsOnly.mapM
    rintro ⟨key, value⟩
    exact (expectUnsigned_failsOnly key).bind fun _ => .ok _
  · exact .error ⟨_, rfl⟩

theorem decodeColumns_failsOnly (value : Value) : FailsOnly Error.IsProtocol
    (decodeColumns value) := by
  apply (expectArray_failsOnly value).bind
  apply FailsOnly.mapM
  exact fun item => (expectFields_failsOnly item).bind fun _ => .ok _

theorem decodeSqlInfo_failsOnly (value : Value) : FailsOnly Error.IsProtocol
    (decodeSqlInfo value) := by
  refine (expectFields_failsOnly value).bind fun fields => .foldlM ?_ fields _
  rintro info ⟨key, value⟩
  simp only [takeSqlField]
  split_ifs
  · exact (expectUnsigned_failsOnly value).bind fun _ => .ok _
  · exact (expectArray_failsOnly value).bind fun items =>
      (FailsOnly.mapM expectUnsigned_failsOnly items).bind fun _ => .ok _
  · exact .ok _

theorem readCode_failsOnly (value : Value) : FailsOnly Error.IsProtocol (readCode value) := by
  refine (expectUnsigned_failsOnly value).bind fun code => ?_
  split_ifs
  · exact .ok _
  · exact .error ⟨_, rfl⟩

end Faults

section Entries

variable {header body : Fields} {response state next last : Response} {key : UInt64}
  {value : Value} {field : UInt64 × Value}

theorem takeHeaderField_code (response : Response) (value : Value) :
    takeHeaderField response (Key.code, value) =
      readCode value >>= fun code => .ok { response with code := code } := by
  simp only [takeHeaderField, readCode, if_true]
  cases expectUnsigned value with
  | error fault => rfl
  | ok code =>
      by_cases isCode : code ≤ 0xffffffff
      · simp [isCode, bind, Except.bind, pure, Except.pure]
      · simp [isCode, bind, Except.bind, throw, throwThe, MonadExceptOf.throw]

/-- Everything that an entry of the header does. -/
structure TakesHeader (field : UInt64 × Value) (state next : Response) : Prop where
  code : Fields.Sets Key.code readCode field state.code next.code
  sync : Fields.Sets Key.sync expectUnsigned field state.sync next.sync
  rest : next = { state with code := next.code, sync := next.sync }

theorem takesHeader_of_ok (isTaken : takeHeaderField state field = .ok next) :
    TakesHeader field state next := by
  obtain ⟨key, value⟩ := field
  by_cases isCode : key = Key.code
  · subst isCode
    rw [takeHeaderField_code, bind_eq_ok_iff] at isTaken
    obtain ⟨code, isRead, ⟨⟩⟩ := isTaken
    exact ⟨isRead, rfl, rfl⟩
  · by_cases isSync : key = Key.sync
    · subst isSync
      simp only [takeHeaderField, isCode, if_false, if_true, bind_eq_ok_iff] at isTaken
      obtain ⟨sync, isRead, ⟨⟩⟩ := isTaken
      exact ⟨rfl, isRead, rfl⟩
    · simp only [takeHeaderField, isCode, isSync, if_false] at isTaken
      cases isTaken
      exact ⟨by simp [Fields.Sets, isCode], by simp [Fields.Sets, isSync], rfl⟩

/-- Everything that an entry of the body does. -/
structure TakesBody (field : UInt64 × Value) (state next : Response) : Prop where
  header : next.code = state.code ∧ next.sync = state.sync
  data : Fields.Sets Key.data expectArray field state.data next.data
  columns : Fields.Sets Key.metadata decodeColumns field state.columns next.columns
  sql : Fields.Sets Key.sqlInfo decodeSqlInfo field state.sql next.sql
  statementId : Fields.Sets Key.statementId readNumber field state.statementId next.statementId
  bindCount : Fields.Sets Key.bindCount readNumber field state.bindCount next.bindCount
  error : next.error = messageAfter [field] state.error

theorem messageAfter_singleton (key : UInt64) (value : Value) (earlier : Option String) :
    messageAfter [(key, value)] earlier =
      if key = Key.plainError then earlier.or value.text?
      else if key = Key.extendedError then (extendedMessage? value).or earlier
      else earlier := by
  have areDistinct : Key.extendedError ≠ Key.plainError := by decide
  split_ifs with isPlain isExtended
  · subst isPlain
    simp [messageAfter, Fields.lookup_cons_of_ne areDistinct]
  · subst isExtended
    simp [messageAfter, Fields.lookup_cons_of_ne areDistinct.symm]
  · simp [messageAfter, Fields.lookup_cons_of_ne (Ne.symm isPlain),
      Fields.lookup_cons_of_ne (Ne.symm isExtended)]

theorem takesBody_of_ok (isTaken : takeBodyField state field = .ok next) :
    TakesBody field state next := by
  obtain ⟨key, value⟩ := field
  have areDistinct : bodyKeys.Nodup := by decide
  simp only [bodyKeys, List.nodup_cons, List.mem_cons, List.not_mem_nil, or_false, not_or]
    at areDistinct
  simp only [takeBodyField] at isTaken
  split_ifs at isTaken with isData isPlain isExtended isMetadata isSql isStatement isBind
  all_goals first
    | cases isTaken
    | obtain ⟨data, isRead, ⟨⟩⟩ := bind_eq_ok_iff.mp isTaken
  all_goals
    try subst key
    constructor <;> simp_all [Fields.Sets, messageAfter_singleton, readNumber]

theorem exists_takeHeaderField (describes : Describes header body response)
    (once : header.Once headerKeys) (isField : (key, value) ∈ header) (state : Response) :
    ∃ next, takeHeaderField state (key, value) = .ok next := by
  by_cases isCode : key = Key.code
  · subst isCode
    have isRead := describes.code
    rw [Fields.said_of_mem (once _ (by simp [headerKeys])) isField] at isRead
    rw [takeHeaderField_code, isRead]
    exact ⟨_, rfl⟩
  · by_cases isSync : key = Key.sync
    · subst isSync
      have isRead := describes.sync
      rw [Fields.said_of_mem (once _ (by simp [headerKeys])) isField] at isRead
      simp only [takeHeaderField, isCode, if_false, if_true, isRead]
      exact ⟨_, rfl⟩
    · simp only [takeHeaderField, isCode, isSync, if_false]
      exact ⟨_, rfl⟩

theorem exists_takeBodyField (describes : Describes header body response)
    (once : body.Once bodyKeys) (isField : (key, value) ∈ body) (state : Response) :
    ∃ next, takeBodyField state (key, value) = .ok next := by
  have isSaid {Data : Type} {read : Value → Except Error Data} {absent data : Data}
      (isKnown : key ∈ bodyKeys) (isRead : body.said key read absent = .ok data) :
      read value = .ok data := by
    rwa [Fields.said_of_mem (once key isKnown) isField] at isRead
  have exists_read {number : Option UInt64} (isRead : readNumber value = .ok number) :
      ∃ sync, expectUnsigned value = .ok sync := by
    simp only [readNumber, map_eq_pure_bind, bind_eq_ok_iff] at isRead
    exact isRead.imp fun _ => And.left
  simp only [takeBodyField]
  split_ifs with isData isPlain isExtended isMetadata isSql isStatement isBind
  all_goals try subst key
  · exact ⟨_, by rw [isSaid (by simp [bodyKeys]) describes.data]; rfl⟩
  · exact ⟨_, rfl⟩
  · exact ⟨_, rfl⟩
  · exact ⟨_, by rw [isSaid (by simp [bodyKeys]) describes.columns]; rfl⟩
  · exact ⟨_, by rw [isSaid (by simp [bodyKeys]) describes.sql]; rfl⟩
  · obtain ⟨_, isRead⟩ := exists_read (isSaid (by simp [bodyKeys]) describes.statementId)
    exact ⟨_, by rw [isRead]; rfl⟩
  · obtain ⟨_, isRead⟩ := exists_read (isSaid (by simp [bodyKeys]) describes.bindCount)
    exact ⟨_, by rw [isRead]; rfl⟩
  · exact ⟨_, rfl⟩

theorem messageAfter_cons (once : Fields.Once bodyKeys ((key, value) :: body))
    (earlier : Option String) : messageAfter ((key, value) :: body) earlier =
      messageAfter body (messageAfter [(key, value)] earlier) := by
  have areDistinct : Key.extendedError ≠ Key.plainError := by decide
  rw [messageAfter_singleton]
  split_ifs with isPlain isExtended
  · subst isPlain
    have isAbsent : body.lookup Key.plainError = none :=
      Fields.lookup_eq_none (Fields.notMem_of_count_le (once _ (by simp [bodyKeys])))
    simp [messageAfter, Fields.lookup_cons_of_ne areDistinct, isAbsent]
  · subst isExtended
    have isAbsent : body.lookup Key.extendedError = none :=
      Fields.lookup_eq_none (Fields.notMem_of_count_le (once _ (by simp [bodyKeys])))
    simp [messageAfter, Fields.lookup_cons_of_ne areDistinct.symm, isAbsent, Option.or_assoc]
  · simp [messageAfter, Fields.lookup_cons_of_ne (Ne.symm isPlain),
      Fields.lookup_cons_of_ne (Ne.symm isExtended)]

theorem error_of_foldlM (once : body.Once bodyKeys)
    (areTaken : body.foldlM takeBodyField state = .ok last) :
    last.error = messageAfter body state.error := by
  induction body generalizing state with
  | nil =>
      cases areTaken
      simp [messageAfter]
  | cons field rest inductionHypothesis =>
      rw [List.foldlM_cons, bind_eq_ok_iff] at areTaken
      obtain ⟨next, isTaken, areLater⟩ := areTaken
      rw [inductionHypothesis once.tail areLater, (takesBody_of_ok isTaken).error]
      exact (messageAfter_cons once _).symm

theorem header_of_foldlM (areTaken : body.foldlM takeBodyField state = .ok last) :
    last.code = state.code ∧ last.sync = state.sync := by
  induction body generalizing state with
  | nil =>
      cases areTaken
      exact ⟨rfl, rfl⟩
  | cons field rest inductionHypothesis =>
      rw [List.foldlM_cons, bind_eq_ok_iff] at areTaken
      obtain ⟨next, isTaken, areLater⟩ := areTaken
      have isKept := (takesBody_of_ok isTaken).header
      exact ⟨(inductionHypothesis areLater).1.trans isKept.1,
        (inductionHypothesis areLater).2.trans isKept.2⟩

/-- The header leaves what belongs to the body as it is. -/
theorem body_of_foldlM (areTaken : header.foldlM takeHeaderField state = .ok last) :
    last = { state with code := last.code, sync := last.sync } := by
  induction header generalizing state with
  | nil =>
      cases areTaken
      rfl
  | cons field rest inductionHypothesis =>
      rw [List.foldlM_cons, bind_eq_ok_iff] at areTaken
      obtain ⟨next, isTaken, areLater⟩ := areTaken
      rw [inductionHypothesis areLater, (takesHeader_of_ok isTaken).rest]

theorem expectUnsigned_eq_ok_iff {number : UInt64} :
    expectUnsigned value = .ok number ↔ value = .ofUInt64 number := by
  rw [← Value.toUInt64?_eq_some_iff, expectUnsigned]
  cases value.toUInt64? <;> simp

/-- Every map whose keys are all unsigned reads as its entries, and no other value does. -/
theorem expectFields_eq_ok_iff {fields : Fields} :
    expectFields value = .ok fields ↔ value = fields.toValue := by
  unfold expectFields
  split
  case h_1 entries =>
    have isRead (entry : Value × Value) (field : UInt64 × Value) :
        (do return (← expectUnsigned entry.1, entry.2)) = Except.ok field ↔
          entry = (.ofUInt64 field.1, field.2) := by
      obtain ⟨key, value⟩ := entry
      obtain ⟨number, held⟩ := field
      simp [bind_eq_ok_iff, expectUnsigned_eq_ok_iff, pure, Except.pure]
    simp only [mapM_eq_ok_iff, isRead, Fields.toValue, Value.map.injEq]
    rw [← List.forall₂_eq_eq_eq, List.forall₂_map_right_iff]
  case h_2 isOther =>
    simp only [reduceCtorEq, false_iff]
    exact isOther _

/-- No body says what an empty one says. -/
theorem decode_eq (header : Fields) (body : Option Fields) :
    decode header.toValue (body.map Fields.toValue) =
      header.foldlM takeHeaderField empty >>= (body.getD []).foldlM takeBodyField := by
  cases body with
  | none =>
    simp only [decode, expectFields_eq_ok_iff.mpr rfl]
    rfl
  | some body =>
    simp only [decode, expectFields_eq_ok_iff.mpr rfl, Option.map_some]
    rfl

theorem describes_of_foldlM (onceHeader : header.Once headerKeys) (onceBody : body.Once bodyKeys)
    (isHeader : header.foldlM takeHeaderField empty = .ok state)
    (isBody : body.foldlM takeBodyField state = .ok response) : Describes header body response := by
  have isKept := header_of_foldlM isBody
  have isStart := body_of_foldlM isHeader
  have isSaid {Data : Type} {key : UInt64} {read : Value → Except Error Data}
      (get : Response → Data) (isKnown : key ∈ bodyKeys)
      (sets : ∀ state next field, TakesBody field state next →
        Fields.Sets key read field (get state) (get next)) (isEmpty : get state = get empty) :
      body.said key read (get empty) = .ok (get response) := by
    rw [← isEmpty]
    exact Fields.said_of_foldlM get (fun _ _ _ taken => sets _ _ _ (takesBody_of_ok taken))
      (onceBody key isKnown) isBody
  constructor
  case code =>
    rw [isKept.1]
    exact Fields.said_of_foldlM Response.code (fun _ _ _ taken => (takesHeader_of_ok taken).code)
      (onceHeader _ (by simp [headerKeys])) isHeader
  case sync =>
    rw [isKept.2]
    exact Fields.said_of_foldlM Response.sync (fun _ _ _ taken => (takesHeader_of_ok taken).sync)
      (onceHeader _ (by simp [headerKeys])) isHeader
  case error =>
    rw [error_of_foldlM onceBody isBody, isStart]
    rfl
  case data =>
    exact isSaid Response.data (by simp [bodyKeys]) (fun _ _ _ => TakesBody.data) (by rw [isStart])
  case columns =>
    exact isSaid Response.columns (by simp [bodyKeys]) (fun _ _ _ => TakesBody.columns)
      (by rw [isStart])
  case sql =>
    exact isSaid Response.sql (by simp [bodyKeys]) (fun _ _ _ => TakesBody.sql) (by rw [isStart])
  case statementId =>
    exact isSaid Response.statementId (by simp [bodyKeys]) (fun _ _ _ => TakesBody.statementId)
      (by rw [isStart])
  case bindCount =>
    exact isSaid Response.bindCount (by simp [bodyKeys]) (fun _ _ _ => TakesBody.bindCount)
      (by rw [isStart])

/-- The entries describe one response at most. -/
theorem Describes.unique {other : Response} (describes : Describes header body response)
    (describesOther : Describes header body other) : response = other := by
  have same {Data : Type} {said : Except Error Data} {data second : Data}
      (isFirst : said = .ok data) (isSecond : said = .ok second) : data = second :=
    Except.ok.inj (isFirst.symm.trans isSecond)
  cases response
  cases other
  simp only [mk.injEq]
  exact ⟨same describes.code describesOther.code, same describes.sync describesOther.sync,
    same describes.data describesOther.data, describes.error.trans describesOther.error.symm,
    same describes.columns describesOther.columns, same describes.sql describesOther.sql,
    same describes.statementId describesOther.statementId,
    same describes.bindCount describesOther.bindCount⟩

/-- What a response says is what the entries of header and body say. -/
theorem decode_eq_ok_iff (onceHeader : header.Once headerKeys) {body : Option Fields}
    (onceBody : (body.getD []).Once bodyKeys) :
    decode header.toValue (body.map Fields.toValue) = .ok response ↔
      Describes header (body.getD []) response := by
  rw [decode_eq, bind_eq_ok_iff]
  constructor
  · rintro ⟨state, isHeader, isBody⟩
    exact describes_of_foldlM onceHeader onceBody isHeader isBody
  · intro describes
    obtain ⟨state, isHeader⟩ := exists_foldlM
      (fun field isField => exists_takeHeaderField describes onceHeader isField) empty
    obtain ⟨last, isBody⟩ := exists_foldlM
      (fun field isField => exists_takeBodyField describes onceBody isField) state
    have isLast := (describes_of_foldlM onceHeader onceBody isHeader isBody).unique describes
    exact ⟨state, isHeader, isLast ▸ isBody⟩

theorem takeHeaderField_failsOnly (state : Response) (field : UInt64 × Value) :
    FailsOnly Error.IsProtocol (takeHeaderField state field) := by
  obtain ⟨key, value⟩ := field
  by_cases isCode : key = Key.code
  · rw [isCode, takeHeaderField_code]
    exact (readCode_failsOnly value).bind fun _ => .ok _
  · simp only [takeHeaderField, isCode, if_false]
    split_ifs
    · exact (expectUnsigned_failsOnly value).bind fun _ => .ok _
    · exact .ok _

theorem takeBodyField_failsOnly (state : Response) (field : UInt64 × Value) :
    FailsOnly Error.IsProtocol (takeBodyField state field) := by
  obtain ⟨key, value⟩ := field
  simp only [takeBodyField]
  split_ifs
  · exact (expectArray_failsOnly value).bind fun _ => .ok _
  · exact .ok _
  · exact .ok _
  · exact (decodeColumns_failsOnly value).bind fun _ => .ok _
  · exact (decodeSqlInfo_failsOnly value).bind fun _ => .ok _
  · exact (expectUnsigned_failsOnly value).bind fun _ => .ok _
  · exact (expectUnsigned_failsOnly value).bind fun _ => .ok _
  · exact .ok _

theorem decode_failsOnly (header : Value) (body : Option Value) :
    FailsOnly Error.IsProtocol (decode header body) := by
  refine (expectFields_failsOnly header).bind fun fields =>
    (FailsOnly.foldlM takeHeaderField_failsOnly fields empty).bind fun state => ?_
  cases body with
  | none => exact .ok state
  | some body =>
    exact (expectFields_failsOnly body).bind fun entries =>
      .foldlM takeBodyField_failsOnly entries state

end Entries

section Messages

/-- An extended error with a readable message in its first frame. -/
inductive TellsMessage : Value → String → Prop where
  | intro {entries frame : List (Value × Value)} {later : List Value} {message : String} :
      Value.lookup? 0x00 entries = some (.array (.map frame :: later)) →
      Value.lookup? 0x03 frame = some (.text message) → TellsMessage (.map entries) message

/-- The message of an error that comes with this body. An extended error that can be read goes
before a plain text. -/
inductive Reports (body : Fields) : String → Prop where
  | extended {value : Value} {message : String} :
      (Key.extendedError, value) ∈ body → TellsMessage value message → Reports body message
  | plain {message : String} :
      (∀ value told, (Key.extendedError, value) ∈ body → ¬ TellsMessage value told) →
      (Key.plainError, .text message) ∈ body → Reports body message
  | silent :
      (∀ value told, (Key.extendedError, value) ∈ body → ¬ TellsMessage value told) →
      (∀ message, (Key.plainError, .text message) ∉ body) → Reports body ""

theorem extendedMessage?_eq_some_iff {value : Value} {message : String} :
    extendedMessage? value = some message ↔ TellsMessage value message := by
  constructor
  · intro isMessage
    simp only [extendedMessage?, Option.bind_eq_bind, Option.bind_eq_some_iff,
      Value.map?_eq_some_iff, Value.array?_eq_some_iff, Value.text?_eq_some_iff,
      List.head?_eq_some_iff] at isMessage
    obtain ⟨entries, rfl, _, isStack, _, rfl, _, ⟨later, rfl⟩, frame, rfl, _, isText, rfl⟩ :=
      isMessage
    exact .intro isStack isText
  · rintro ⟨isStack, isText⟩
    simp [extendedMessage?, Value.map?, Value.array?, Value.text?, isStack, isText]

theorem reports_messageAfter {body : Fields} (once : body.Once bodyKeys) :
    Reports body ((messageAfter body none).getD "") := by
  have isPlain (message : String) :
      (body.lookup Key.plainError).bind Value.text? = some message ↔
        (Key.plainError, .text message) ∈ body := by
    simp [Option.bind_eq_some_iff, Value.text?_eq_some_iff,
      Fields.lookup_eq_some_iff (once Key.plainError (by simp [bodyKeys]))]
  cases isExtended : (body.lookup Key.extendedError).bind extendedMessage? with
  | some message =>
      have isReported := isExtended
      rw [Option.bind_eq_some_iff] at isReported
      obtain ⟨value, isField, isMessage⟩ := isReported
      rw [messageAfter, isExtended]
      exact .extended ((Fields.lookup_eq_some_iff (once _ (by simp [bodyKeys]))).mp isField)
        (extendedMessage?_eq_some_iff.mp isMessage)
  | none =>
      have isUntold (value : Value) (told : String) (isField : (Key.extendedError, value) ∈ body) :
          ¬ TellsMessage value told := by
        rw [← Fields.lookup_eq_some_iff (once _ (by simp [bodyKeys]))] at isField
        rw [isField, Option.bind_some] at isExtended
        rw [← extendedMessage?_eq_some_iff, isExtended]
        exact nofun
      rw [messageAfter, isExtended, Option.none_or, Option.none_or]
      cases isText : (body.lookup Key.plainError).bind Value.text? with
      | some message => exact .plain isUntold ((isPlain message).mp isText)
      | none =>
          apply Reports.silent isUntold
          intro message isField
          rw [(isPlain message).mpr isField] at isText
          cases isText

/-- What becomes of a response with this body: the error that it reports, or itself. -/
inductive Settles (body : Fields) (response : Response) : Except Error Response → Prop where
  | refused {message : String} : response.code &&& errorBit ≠ 0 → Reports body message →
      Settles body response (.error (.server (response.code &&& ~~~errorBit) message))
  | granted : response.code &&& errorBit = 0 → Settles body response (.ok response)

theorem Describes.settles {header body : Fields} {response : Response}
    (describes : Describes header body response) (once : body.Once bodyKeys) :
    Settles body response response.toResult := by
  unfold toResult
  split
  case isTrue isRefused =>
    rw [describes.error]
    exact .refused (bne_iff_ne.mp isRefused) (reports_messageAfter once)
  case isFalse isGranted =>
    apply Settles.granted
    simpa [isError] using isGranted

end Messages

theorem Describes.rearranged {header header' body body' : Fields} {response : Response}
    (describes : Describes header body response) (onceHeader : header.Once headerKeys)
    (onceBody : body.Once bodyKeys) (sameHeader : header.Rearranges headerKeys header')
    (sameBody : body.Rearranges bodyKeys body') : Describes header' body' response := by
  constructor
  case code => exact sameHeader.said_of_said onceHeader (by simp [headerKeys]) describes.code
  case sync => exact sameHeader.said_of_said onceHeader (by simp [headerKeys]) describes.sync
  case error =>
    rw [describes.error, messageAfter, messageAfter,
      sameBody.lookup_eq onceBody (by simp [bodyKeys]),
      sameBody.lookup_eq onceBody (by simp [bodyKeys])]
  case data => exact sameBody.said_of_said onceBody (by simp [bodyKeys]) describes.data
  case columns => exact sameBody.said_of_said onceBody (by simp [bodyKeys]) describes.columns
  case sql => exact sameBody.said_of_said onceBody (by simp [bodyKeys]) describes.sql
  case statementId =>
    exact sameBody.said_of_said onceBody (by simp [bodyKeys]) describes.statementId
  case bindCount => exact sameBody.said_of_said onceBody (by simp [bodyKeys]) describes.bindCount

/-- The order of the entries does not matter, and neither do entries under unknown keys: the same
response is read, and it is what the entries describe, or the protocol is found violated in both
cases. An error that it reports becomes a failure with its message. -/
theorem decode_rearranged {header header' : Fields} {body body' : Option Fields}
    (onceHeader : header.Once headerKeys) (onceBody : (body.getD []).Once bodyKeys)
    (sameHeader : header.Rearranges headerKeys header')
    (sameBody : Option.Rel (Fields.Rearranges bodyKeys) body body') :
    (∃ response, decode header.toValue (body.map Fields.toValue) = .ok response ∧
      decode header'.toValue (body'.map Fields.toValue) = .ok response ∧
      Describes header (body.getD []) response ∧
      Settles (body.getD []) response response.toResult) ∨
    ∃ fault fault', decode header.toValue (body.map Fields.toValue) = .error (.protocol fault) ∧
      decode header'.toValue (body'.map Fields.toValue) = .error (.protocol fault') := by
  have sameBody : (body.getD []).Rearranges bodyKeys (body'.getD []) := by
    cases sameBody with
    | none => exact .reorder .rfl
    | some same => exact same
  have onceHeader' := sameHeader.once onceHeader
  have onceBody' := sameBody.once onceBody
  cases isRead : decode header.toValue (body.map Fields.toValue) with
  | ok response =>
      have describes := (decode_eq_ok_iff onceHeader onceBody).mp isRead
      have describes' := describes.rearranged onceHeader onceBody sameHeader sameBody
      exact .inl ⟨response, rfl, (decode_eq_ok_iff onceHeader' onceBody').mpr describes',
        describes, describes.settles onceBody⟩
  | error error =>
      cases isRead' : decode header'.toValue (body'.map Fields.toValue) with
      | ok response =>
          have describes := (decode_eq_ok_iff onceHeader' onceBody').mp isRead'
          have describes' :=
            describes.rearranged onceHeader' onceBody' sameHeader.symm sameBody.symm
          rw [(decode_eq_ok_iff onceHeader onceBody).mpr describes'] at isRead
          cases isRead
      | error error' =>
          obtain ⟨fault, rfl⟩ := decode_failsOnly _ _ error isRead
          obtain ⟨fault', rfl⟩ := decode_failsOnly _ _ error' isRead'
          exact .inr ⟨fault, fault', rfl, rfl⟩

/-- A refusal, with the two texts of its message in either order and an unknown entry in the
header. -/
theorem decode_rearranged_refusal :
    let header : Fields := [(Key.code, .ofUInt64 0x8024), (Key.sync, .ofUInt64 7)]
    let header' : Fields :=
      [(Key.code, .ofUInt64 0x8024), (0x05, .text "schema"), (Key.sync, .ofUInt64 7)]
    let plain : UInt64 × Value := (Key.plainError, .text "short")
    let extended : UInt64 × Value := (Key.extendedError,
      .map [(.ofUInt64 0x00, .array [.map [(.ofUInt64 0x03, .text "long")]])])
    ∃ response, decode header.toValue (Fields.toValue [plain, extended]) = .ok response ∧
      decode header'.toValue (Fields.toValue [extended, plain]) = .ok response ∧
      response.toResult = .error (.server 0x24 "long") := by
  intro header header' plain extended
  have sameHeader : header.Rearranges headerKeys header' :=
    .insert [(Key.code, .ofUInt64 0x8024)] _ (.text "schema") (by decide)
  have sameBody : Fields.Rearranges bodyKeys [plain, extended] [extended, plain] :=
    .reorder (.swap extended plain [])
  have isRead : decode header.toValue (Fields.toValue [plain, extended]) =
      .ok { empty with code := 0x8024, sync := 7, error := some "long" } := rfl
  have onceHeader : Fields.Once headerKeys header := by decide
  have onceBody : Fields.Once bodyKeys ((some [plain, extended]).getD []) := by decide
  obtain ⟨response, isSame, isRead', -⟩ | ⟨fault, -, isFault, -⟩ :=
    decode_rearranged onceHeader onceBody sameHeader (.some sameBody)
  case inl =>
    obtain rfl := Except.ok.inj (isRead.symm.trans isSame)
    exact ⟨_, isRead, isRead', rfl⟩
  case inr =>
    cases isRead.symm.trans isFault

end Response
end FailoverPool
