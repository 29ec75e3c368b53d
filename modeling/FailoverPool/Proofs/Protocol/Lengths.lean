import FailoverPool.Proofs.Protocol.Contents
import FailoverPool.Proofs.Protocol.Splitting
import FailoverPool.Proofs.Value.Sizes

/-!
The length in front of a frame, and where it makes a reader cut.

A frame carries the length of its header and body in four bytes. Nothing stops a body that is too
long for them: the high bits of the length are lost, and a reader takes too short a payload and goes
on in the middle of it. Main statement: `Frame.cuts_of_encode`.
-/

namespace FailoverPool

theorem BigEndian.encode_mod (width value : Nat) :
    encode width (value % 256 ^ width) = encode width value := by
  have same := encode_toNat (encode width value)
  rwa [toNat_encode, length_encode] at same

namespace Frame

/-- The four bytes behind the marker tell how many bytes follow them. -/
inductive TellsLength : Bytes → Prop where
  | intro {sizing following : Bytes} :
      sizing.length = 4 → BigEndian.toNat sizing = following.length →
      TellsLength (0xce :: (sizing ++ following))

variable (code : FrameCode) (sync stream : UInt64) (body following : Bytes)

theorem tellsLength_encode_iff : TellsLength (encode code sync stream body) ↔
    (payload code sync stream body).length < 2 ^ (32 : Nat) := by
  rw [encode_eq]
  generalize payload code sync stream body = whole
  have isTold : BigEndian.toNat (BigEndian.encode 4 whole.length) = whole.length % 2 ^ (32 : Nat) :=
    BigEndian.toNat_encode 4 whole.length
  constructor
  · intro tells
    generalize isFrame : 0xce :: (BigEndian.encode 4 whole.length ++ whole) = frame at tells
    obtain ⟨isSized, tells⟩ := tells
    obtain ⟨rfl, rfl⟩ := List.append_inj (List.cons.inj isFrame).2 (by simp [isSized])
    omega
  · intro isShort
    apply TellsLength.intro (BigEndian.length_encode 4 whole.length)
    rw [isTold, Nat.mod_eq_of_lt isShort]

/-- A reader cuts where the low bits of the length tell it to. -/
theorem split_encode {whole : Bytes} (isWhole : payload code sync stream body = whole) :
    split (encode code sync stream body ++ following) =
      (.ok (whole.take (whole.length % 2 ^ (32 : Nat))),
        whole.drop (whole.length % 2 ^ (32 : Nat)) ++ following) := by
  have isLow : whole.length % 2 ^ (32 : Nat) < 2 ^ (32 : Nat) := Nat.mod_lt _ (by decide)
  have isThere : whole.length % 2 ^ (32 : Nat) ≤ whole.length := Nat.mod_le _ _
  have spells : Spells (whole.length % 2 ^ (32 : Nat))
      (0xce :: BigEndian.encode 4 whole.length) := by
    rw [← BigEndian.encode_mod]
    exact .wide (by decide) isLow
  have isCut := split_of_spells spells (whole ++ following)
  rw [if_neg (by omega), if_pos (by simp only [List.length_append]; omega),
    List.take_append_of_le_length isThere, List.drop_append_of_le_length isThere] at isCut
  rw [encode_eq, isWhole, ← isCut]
  simp

/-- What the length of a frame tells of the bytes behind it, and where it makes a reader cut. -/
structure Cuts (frame whole : Bytes) : Prop where
  tells : TellsLength frame ↔ whole.length < 2 ^ (32 : Nat)
  /-- A reader cuts where the frame ends only if the length is told. -/
  ends : ∀ following,
    split (frame ++ following) = (.ok whole, following) ↔ whole.length < 2 ^ (32 : Nat)
  /-- Otherwise it leaves the end of the frame as if it were the next one. -/
  splits : ∀ following, split (frame ++ following) =
    (.ok (whole.take (whole.length % 2 ^ (32 : Nat))),
      whole.drop (whole.length % 2 ^ (32 : Nat)) ++ following)

/-- As long as header and body together are shorter than 4 GiB, a frame tells their length and is
read as it was written. From there on neither holds: the length is taken modulo 4 GiB. -/
theorem cuts_of_encode :
    Cuts (encode code sync stream body) (payload code sync stream body) where
  tells := tellsLength_encode_iff code sync stream body
  ends following := by
    rw [split_encode code sync stream body following rfl]
    generalize payload code sync stream body = whole
    constructor
    · intro isWhole
      have isCut := Except.ok.inj (Prod.mk.inj isWhole).1
      have isLow : whole.length % 2 ^ (32 : Nat) < 2 ^ (32 : Nat) := Nat.mod_lt _ (by decide)
      have sameLength : whole.length = min (whole.length % 2 ^ (32 : Nat)) whole.length := by
        rw [← List.length_take, isCut]
      omega
    · intro isShort
      rw [Nat.mod_eq_of_lt isShort, List.take_length, List.drop_length, List.nil_append]
  splits following := split_encode code sync stream body following rfl

end Frame

theorem Utf8.length_encode_replicate (count : Nat) :
    (encode (String.ofList (List.replicate count 'a'))).length = count := by
  suffices isSize : (List.replicate count 'a').utf8Encode.size = count by simpa [encode]
  induction count with
  | zero => rfl
  | succ count inductionHypothesis =>
      rw [List.replicate_succ, List.utf8Encode_cons, ByteArray.size_append, inductionHypothesis]
      exact Nat.add_comm 1 count

/-- A call with a text of this length as its argument. -/
def Request.textCall (count : Nat) : Request :=
  .call17 "f" (.text (String.ofList (List.replicate count 'a')))

theorem Request.length_payload_textCall {count : Nat} (isLong : 0x10000 ≤ count)
    (isShort : count < 2 ^ (32 : Nat)) :
    (Frame.payload .call17 1 0 (Request.textCall count).body).length = count + 15 := by
  have isHeader : (Frame.encodeHeader .call17 1 0).length = 5 := by decide +kernel
  have isName : (Header.map 2 ++ Entry.text Key.functionName "f").length = 4 := by decide +kernel
  have isTupleKey : (Unsigned.encode Key.tuple).length = 1 := by decide +kernel
  have isText : (Value.text (String.ofList (List.replicate count 'a'))).encode.length =
      5 + count := by
    rw [Value.encode_text, List.length_append, Utf8.length_encode_replicate,
      Header.length_text isShort, if_neg (by omega), Header.sizing, if_neg (by omega),
      if_neg (by omega)]
  have isBody : (Request.textCall count).body.length = 10 + count := by
    rw [Request.textCall, Request.body, List.length_append, isName, Entry.packed,
      List.length_append, isTupleKey, isText]
    omega
  rw [Frame.payload, List.length_append, isHeader, isBody]
  omega

/-- With an argument of nearly 4 GiB, the frame behind its length has exactly 4 GiB and is told to
be empty: a reader takes an empty payload and leaves it all as what follows. -/
theorem Request.mistells_of_long_text :
    ¬ Frame.TellsLength ((Request.textCall 4294967281).encode 1 0) ∧
      ∃ left, left.length = 2 ^ (32 : Nat) ∧
        Frame.split ((Request.textCall 4294967281).encode 1 0) = (.ok [], left) := by
  have isWhole : (Frame.payload .call17 1 0 (Request.textCall 4294967281).body).length =
      2 ^ (32 : Nat) := Request.length_payload_textCall (by omega) (by omega)
  refine ⟨?_, _, isWhole, ?_⟩
  · intro tells
    have isShort := (Frame.tellsLength_encode_iff .call17 1 0 _).mp tells
    omega
  · have isSplit := Frame.split_encode .call17 1 0 (Request.textCall 4294967281).body [] rfl
    rw [isWhole, Nat.mod_self, List.take_zero, List.drop_zero, List.append_nil, List.append_nil]
      at isSplit
    exact isSplit

end FailoverPool
