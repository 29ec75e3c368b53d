import FailoverPool.Proofs.Protocol.Contents
import FailoverPool.Proofs.Protocol.Splitting
import FailoverPool.Proofs.Value.RoundTrip

/-!
The frames of requests are read back as they were written.

A frame is a length and a payload, and the payload is the header map and the body map one after the
other. A reader takes the length, exactly that many bytes, and two values from them, so that the
frames that follow each other on a stream do not touch each other. Main statement:
`TaggedRequest.reads_of_isReadable`.
-/

namespace FailoverPool

namespace Value

theorem ofUInt64_injective : Function.Injective ofUInt64 := by
  intro first second same
  have sameNumber : (first.toNat : Int) = second.toNat :=
    congrArg Integer.val (Value.int.inj same)
  exact UInt64.toNat_inj.mp (Int.ofNat_inj.mp sameNumber)

end Value

namespace Fields

theorem toValue_injective : Function.Injective toValue := by
  intro first second same
  refine (List.map_inj_right ?_).mp (Value.map.inj same)
  intro field other sameField
  obtain ⟨sameKey, sameValue⟩ := Prod.mk.inj sameField
  exact Prod.ext (Value.ofUInt64_injective sameKey) sameValue

variable {fields : Fields} {budget : Nat}

/-- Beside the map itself, only the values of its fields draw on the budget. -/
theorem fits_toValue (fit : ∀ field ∈ fields, field.2.Fits (budget + 1)) :
    fields.toValue.Fits (budget + 3) := by
  refine .map ?_ ?_
  · intro entry isEntry
    obtain ⟨field, _, rfl⟩ := List.mem_map.mp isEntry
    exact .int
  · intro entry isEntry
    obtain ⟨field, isField, rfl⟩ := List.mem_map.mp isEntry
    exact fit field isField

theorem isSpelled_toValue (areSpelled : ∀ field ∈ fields, field.2.IsSpelled) :
    fields.toValue.IsSpelled := by
  refine .map ?_ ?_
  · intro entry isEntry
    obtain ⟨field, _, rfl⟩ := List.mem_map.mp isEntry
    exact .int
  · intro entry isEntry
    obtain ⟨field, isField, rfl⟩ := List.mem_map.mp isEntry
    exact areSpelled field isField

end Fields

namespace Frame

/-- The reader takes the payload and nothing else. -/
theorem read_append {payload : Bytes} (isShort : payload.length < 2 ^ (32 : Nat)) (rest : Bytes) :
    read (0xce :: (BigEndian.encode 4 payload.length ++ (payload ++ rest))) =
      (ofPayload payload, rest) := by
  have spells : Spells payload.length (0xce :: BigEndian.encode 4 payload.length) :=
    .wide (by decide) isShort
  have isSplit := split_append spells (Nat.le_of_lt_succ isShort) rest
  rw [List.cons_append] at isSplit
  rw [read, isSplit]

theorem ofPayload_append {header body : Value} (headerFits : header.Fits Value.depthLimit)
    (bodyFits : body.Fits Value.depthLimit)
    (isSized : (header.encode ++ body.encode).length < 2 ^ (32 : Nat)) :
    ofPayload (header.encode ++ body.encode) = .ok ⟨header.legible, some body.legible⟩ := by
  rw [List.length_append] at isSized
  have isHeader : Value.decode (header.encode ++ body.encode) =
      .ok (header.legible, body.encode) := Value.read_encode headerFits (by omega) _
  have isBody : Value.decode body.encode = .ok (body.legible, []) := by
    have reads := Value.read_encode bodyFits (by omega) []
    rwa [List.append_nil] at reads
  unfold ofPayload
  rw [isHeader]
  split
  · next failed => cases failed
  · next found =>
    have isEmpty : body.encode = [] := (Prod.mk.inj (Except.ok.inj found)).2
    exact absurd isEmpty body.encode_ne_nil
  · next found =>
    obtain ⟨rfl, rfl⟩ := Prod.mk.inj (Except.ok.inj found)
    rw [isBody]

section

variable {code : FrameCode} {sync stream : UInt64}

theorem mem_headerFields {field : UInt64 × Value}
    (isField : field ∈ headerFields code sync stream) : ∃ number, field.2 = .ofUInt64 number := by
  unfold headerFields at isField
  rcases List.mem_append.mp isField with isFirst | isLast
  · simp only [List.mem_cons, List.not_mem_nil, or_false] at isFirst
    rcases isFirst with rfl | rfl <;> exact ⟨_, rfl⟩
  · split at isLast
    · cases isLast
    · rw [List.mem_singleton.mp isLast]
      exact ⟨_, rfl⟩

theorem fits_header : (headerFields code sync stream).toValue.Fits Value.depthLimit := by
  apply Fields.fits_toValue
  intro field isField
  obtain ⟨number, isNumber⟩ := mem_headerFields isField
  rw [isNumber]
  exact .int

theorem isSpelled_header : (headerFields code sync stream).toValue.IsSpelled := by
  apply Fields.isSpelled_toValue
  intro field isField
  obtain ⟨number, isNumber⟩ := mem_headerFields isField
  rw [isNumber]
  exact .int

/-- The number of a stream stands in a header if there is one. -/
theorem streamId_mem_headerFields {value : Value} :
    (Key.streamId, value) ∈ headerFields code sync stream ↔
      stream ≠ 0 ∧ value = .ofUInt64 stream := by
  unfold headerFields
  by_cases isZero : stream = 0 <;> simp [isZero, Key.streamId]

theorem length_header_le : (headerFields code sync stream).toValue.encode.length ≤ 55 := by
  have isShort := Value.length_encode_ofUInt64
  have ofEntry (key number : UInt64) :
      (Value.encodeEntry (.ofUInt64 key, .ofUInt64 number)).length ≤ 18 := by
    rw [Value.encodeEntry, List.length_append]
    exact Nat.add_le_add (isShort key) (isShort number)
  have ofCode := ofEntry 0x00 code.number
  have ofSync := ofEntry 0x01 sync
  have ofStream := ofEntry 0x0a stream
  unfold headerFields Fields.toValue
  rw [Value.encode_map, List.length_append]
  split
  · have isMarker : (Header.map 2).length = 1 := rfl
    simp [isMarker]
    omega
  · have isMarker : (Header.map 3).length = 1 := rfl
    simp [isMarker]
    omega

/-- Whatever the body is, a reader finds the header in front of it, right after the length. -/
theorem decode_header (body : Bytes) :
    Value.decode ((encode code sync stream body).drop 5) =
      .ok ((headerFields code sync stream).toValue, body) := by
  have isPayload : (encode code sync stream body).drop 5 = payload code sync stream body := by
    rw [encode_eq]
    exact List.drop_left' (BigEndian.length_encode 4 _)
  rw [isPayload, payload, encodeHeader_eq]
  have isSized : (headerFields code sync stream).toValue.encode.length < 2 ^ (32 : Nat) :=
    Nat.lt_of_le_of_lt length_header_le (by decide)
  have reads := Value.read_encode fits_header isSized body
  rwa [Value.legible_of_isSpelled isSpelled_header] at reads

end

end Frame

namespace Request

variable {isolation : IsolationLevel} {timeout : Duration}

theorem mem_contents_begin {key : UInt64} {value : Value} :
    (key, value) ∈ contents (.begin isolation timeout) ↔
      key = 0x56 ∧ value = .float64 timeout.secondsFloat ∧ timeout ≠ .zero ∨
        key = 0x59 ∧ value = .ofUInt64 (UInt64.ofNat (IsolationLevel.listed.idxOf isolation)) ∧
          isolation ≠ .serverDefault := by
  by_cases noTimeout : timeout = .zero <;> by_cases isDefault : isolation = .serverDefault <;>
    simp [contents, noTimeout, isDefault]

/-- What the contents of a request are like, whatever it asks for. -/
structure IsWellFielded (request : Request) : Prop where
  /-- No key stands twice. -/
  distinct : (request.contents.map Prod.fst).Nodup
  /-- A transaction begins with its timeout and its level, but for the server's defaults. -/
  begins : ∀ isolation timeout, request = .begin isolation timeout →
    ∀ key value, (key, value) ∈ request.contents ↔
      key = 0x56 ∧ value = .float64 timeout.secondsFloat ∧ timeout ≠ .zero ∨
        key = 0x59 ∧ value = .ofUInt64 (UInt64.ofNat (IsolationLevel.listed.idxOf isolation)) ∧
          isolation ≠ .serverDefault
  isEmpty : request = .ping ∨ request = .commit ∨ request = .rollback → request.contents = []

theorem isWellFielded (request : Request) : request.IsWellFielded where
  distinct := by
    cases request with
    | begin isolation timeout =>
        rw [contents]
        split <;> split <;> simp
    | _ => simp [contents]
  begins := by
    rintro isolation timeout rfl key value
    exact mem_contents_begin
  isEmpty := by rintro (rfl | rfl | rfl) <;> rfl

/-- Only requests that belong to a connection name a prepared statement. -/
theorem isBound_eq (request : Request) :
    request.boundTo?.isSome = request.contents.any (·.1 == 0x43) := by
  cases request with
  | begin isolation timeout =>
      rw [contents]
      split <;> split <;> rfl
  | _ => rfl

end Request

/-- A request with its number, and with the number of its stream or zero. -/
structure TaggedRequest where
  request : Request
  sync : UInt64
  stream : UInt64

namespace TaggedRequest

def encode (tagged : TaggedRequest) : Bytes := tagged.request.encode tagged.sync tagged.stream

/-- What a reader makes of it: the number of its kind, its own number, and inside a stream the
number of the stream; then what it says. -/
def frame (tagged : TaggedRequest) : Frame where
  header := .map ([(.ofUInt64 0x00, .ofUInt64 tagged.request.kind),
    (.ofUInt64 0x01, .ofUInt64 tagged.sync)] ++
      if tagged.stream = 0 then [] else [(.ofUInt64 0x0a, .ofUInt64 tagged.stream)])
  body := some (.map (tagged.request.contents.map fun field => (.ofUInt64 field.1, field.2)))

def header (tagged : TaggedRequest) : Fields :=
  Frame.headerFields tagged.request.code tagged.sync tagged.stream

/-- The bytes after the length. -/
def payload (tagged : TaggedRequest) : Bytes :=
  Frame.payload tagged.request.code tagged.sync tagged.stream tagged.request.body

/-- The length can tell how long the payload is, and a reader can go as deep as its values. -/
structure IsReadable (tagged : TaggedRequest) : Prop where
  length : tagged.payload.length ≤ 2 ^ (32 : Nat) - 1
  fits : tagged.request.contents.toValue.Fits Value.depthLimit
  isSpelled : tagged.request.contents.toValue.IsSpelled

variable {tagged : TaggedRequest}

theorem encode_eq (tagged : TaggedRequest) :
    tagged.encode = 0xce :: (BigEndian.encode 4 tagged.payload.length ++ tagged.payload) :=
  Frame.encode_eq _ _ _ _

theorem payload_eq (tagged : TaggedRequest) :
    tagged.payload = tagged.header.toValue.encode ++ tagged.request.contents.toValue.encode := by
  rw [payload, Frame.payload, Frame.encodeHeader_eq, Request.body_eq, header]

theorem frame_eq (tagged : TaggedRequest) :
    tagged.frame = ⟨tagged.header.toValue, some tagged.request.contents.toValue⟩ := by
  unfold frame header Frame.headerFields Fields.toValue
  rw [Request.number_code]
  split <;> rfl

theorem IsReadable.isSized (isReadable : tagged.IsReadable) :
    tagged.payload.length < 2 ^ (32 : Nat) :=
  Nat.lt_of_le_pred (by decide) isReadable.length

theorem ofPayload_payload (isReadable : tagged.IsReadable) :
    Frame.ofPayload tagged.payload = .ok tagged.frame := by
  have isSized := isReadable.isSized
  rw [payload_eq] at isSized ⊢
  rw [frame_eq, header, Frame.ofPayload_append Frame.fits_header isReadable.fits isSized,
    Value.legible_of_isSpelled Frame.isSpelled_header,
    Value.legible_of_isSpelled isReadable.isSpelled]

theorem read_encode (isReadable : tagged.IsReadable) (rest : Bytes) :
    Frame.read (tagged.encode ++ rest) = (.ok tagged.frame, rest) := by
  rw [encode_eq, List.cons_append, List.append_assoc, Frame.read_append isReadable.isSized,
    ofPayload_payload isReadable]

/-- Frames that follow each other are read one after the other. -/
theorem readAll_flatMap {posted : List TaggedRequest}
    (areReadable : ∀ tagged ∈ posted, tagged.IsReadable) :
    Frame.readAll (posted.flatMap encode) = (posted.map frame, none) := by
  induction posted with
  | nil => exact Frame.readAll_nil
  | cons tagged later inductionHypothesis =>
      rw [List.forall_mem_cons] at areReadable
      rw [List.flatMap_cons, Frame.readAll_of_read (read_encode areReadable.1 _),
        inductionHypothesis areReadable.2]
      rfl

/-- What a frame tells, it tells without doubt. -/
theorem eq_of_frame_eq {first second : TaggedRequest} (same : first.frame = second.frame) :
    first.request.kind = second.request.kind ∧
      first.request.contents = second.request.contents ∧
      first.sync = second.sync ∧ first.stream = second.stream := by
  rw [frame_eq, frame_eq] at same
  obtain ⟨sameHeader, sameBody⟩ := Frame.mk.inj same
  have sameContents := Fields.toValue_injective (Option.some.inj sameBody)
  have sameHeaders := Fields.toValue_injective sameHeader
  unfold header Frame.headerFields at sameHeaders
  simp only [List.cons_append, List.nil_append, List.cons.injEq, Prod.mk.injEq, true_and]
    at sameHeaders
  obtain ⟨sameCode, sameSync, sameStream⟩ := sameHeaders
  rw [Request.number_code, Request.number_code] at sameCode
  refine ⟨Value.ofUInt64_injective sameCode, sameContents, Value.ofUInt64_injective sameSync, ?_⟩
  split at sameStream
  · next isFirstZero =>
    split at sameStream
    · next isSecondZero => rw [isFirstZero, isSecondZero]
    · cases sameStream
  · split at sameStream
    · cases sameStream
    · simp only [List.cons.injEq, Prod.mk.injEq, true_and, and_true] at sameStream
      exact Value.ofUInt64_injective sameStream

/-- The two requests are of one kind, and a server cannot tell them apart. -/
structure SaysAs (first second : TaggedRequest) : Prop where
  kind : first.request.kind = second.request.kind
  /-- Kinds that share a number differ in whether they belong to a connection. -/
  isBound : first.request.boundTo?.isSome = second.request.boundTo?.isSome
  contents : first.request.contents = second.request.contents
  sync : first.sync = second.sync
  stream : first.stream = second.stream

theorem saysAs_of_encode_eq {first second : TaggedRequest} (firstIsReadable : first.IsReadable)
    (secondIsReadable : second.IsReadable) (same : first.encode = second.encode) :
    first.SaysAs second := by
  have ofFirst := read_encode firstIsReadable []
  rw [same, read_encode secondIsReadable [], Prod.mk.injEq, Except.ok.injEq] at ofFirst
  obtain ⟨sameKind, sameContents, sameSync, sameStream⟩ := eq_of_frame_eq ofFirst.1.symm
  refine ⟨sameKind, ?_, sameContents, sameSync, sameStream⟩
  rw [Request.isBound_eq, Request.isBound_eq, sameContents]

/-- Requests are read back exactly. The frames of any requests, one after the other, are read as one
frame for each request, in order and with nothing left over. The header tells the kind, the number
and, inside a stream, the stream, and the body is one map of what the request says. So two requests
that look alike are alike in all that is sent. -/
theorem reads_of_isReadable {posted : List TaggedRequest}
    (areReadable : ∀ tagged ∈ posted, tagged.IsReadable) :
    Frame.readAll (posted.flatMap encode) = (posted.map frame, none) ∧
    (∀ tagged ∈ posted, tagged.request.IsWellFielded) ∧
    ∀ first ∈ posted, ∀ second ∈ posted, first.encode = second.encode → first.SaysAs second := by
  refine ⟨readAll_flatMap areReadable, fun tagged _ => tagged.request.isWellFielded, ?_⟩
  intro first isFirst second isSecond same
  exact saysAs_of_encode_eq (areReadable first isFirst) (areReadable second isSecond) same

/-- A transaction inside a stream, and a request outside of it. -/
theorem reads_of_transaction :
    let posted : List TaggedRequest :=
      [⟨.begin .readConfirmed (.ofSeconds 2), 7, 5⟩,
        ⟨.insert 512 (.array [.text "a", .nil]), 8, 5⟩, ⟨.ping, 9, 0⟩]
    (∀ tagged ∈ posted, tagged.IsReadable) ∧
      Frame.readAll (posted.flatMap encode) =
        ([⟨.map [(.ofUInt64 0x00, .ofUInt64 14), (.ofUInt64 0x01, .ofUInt64 7),
              (.ofUInt64 0x0a, .ofUInt64 5)],
            some (.map [(.ofUInt64 0x56, .float64 0x4000000000000000),
              (.ofUInt64 0x59, .ofUInt64 2)])⟩,
          ⟨.map [(.ofUInt64 0x00, .ofUInt64 2), (.ofUInt64 0x01, .ofUInt64 8),
              (.ofUInt64 0x0a, .ofUInt64 5)],
            some (.map [(.ofUInt64 0x10, .ofUInt64 512),
              (.ofUInt64 0x21, .array [.text "a", .nil])])⟩,
          ⟨.map [(.ofUInt64 0x00, .ofUInt64 64), (.ofUInt64 0x01, .ofUInt64 9)],
            some (.map [])⟩], none) := by
  intro posted
  have areReadable : ∀ tagged ∈ posted, tagged.IsReadable := by
    refine List.forall_mem_cons.mpr ⟨⟨by decide +kernel, ?_, ?_⟩,
      List.forall_mem_cons.mpr ⟨⟨by decide +kernel, ?_, ?_⟩,
        List.forall_mem_singleton.mpr ⟨by decide +kernel, .map nofun nofun, .map nofun nofun⟩⟩⟩
    · exact Fields.fits_toValue
        (List.forall_mem_cons.mpr ⟨.float64, List.forall_mem_singleton.mpr .int⟩)
    · exact Fields.isSpelled_toValue
        (List.forall_mem_cons.mpr ⟨.float64, List.forall_mem_singleton.mpr .int⟩)
    · exact Fields.fits_toValue (List.forall_mem_cons.mpr ⟨.int, List.forall_mem_singleton.mpr
        (.array (List.forall_mem_cons.mpr ⟨.text, List.forall_mem_singleton.mpr .nil⟩))⟩)
    · exact Fields.isSpelled_toValue (List.forall_mem_cons.mpr ⟨.int, List.forall_mem_singleton.mpr
        (.array (List.forall_mem_cons.mpr ⟨.text, List.forall_mem_singleton.mpr .nil⟩))⟩)
  have isSeconds : (Duration.ofSeconds 2).secondsFloat = 0x4000000000000000 := by decide +kernel
  refine ⟨areReadable, (reads_of_isReadable areReadable).1.trans ?_⟩
  simp only [posted, List.map_cons, List.map_nil, frame, Request.contents, isSeconds]
  rfl

end TaggedRequest

end FailoverPool
