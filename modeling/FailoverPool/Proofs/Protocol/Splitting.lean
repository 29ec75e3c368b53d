import FailoverPool.Proofs.Value.Locality
import FailoverPool.Proofs.Value.Reading
import FailoverPool.Protocol.Frame

/-!
A reader of frames takes a frame from a byte stream, and nothing else.

The length in front of a payload may be spelled in any form that is wide enough (`Spells`). Whatever
the form, the payload is what decides the result, and what follows is left alone. Main statement:
`Frame.splits_of_spells`.
-/

namespace FailoverPool

/-- The bytes are a form of this length: one byte if it is small, or else a marker and the digits
that the marker calls for, leading zeros included. -/
inductive Spells (length : Nat) : Bytes → Prop where
  | small : length < 0x80 → Spells length [UInt8.ofNat length]
  | wide {marker : UInt8} {width : Nat} :
      (marker, width) ∈ [(0xcc, 1), (0xcd, 2), (0xce, 4), (0xcf, 8)] → length < 256 ^ width →
      Spells length (marker :: BigEndian.encode width length)

theorem Marker.unsignedWidth?_eq_none_iff (marker : UInt8) :
    (Marker.ofByte marker).unsignedWidth? = none ↔
      0x80 ≤ marker ∧ marker ∉ [0xcc, 0xcd, 0xce, 0xcf] := by
  -- There are no more than 256 markers.
  cases marker with
  | ofBitVec bits =>
      cases bits with
      | ofFin number =>
          revert number
          decide +kernel

/-- The markers that begin a number are those of its forms. -/
theorem Marker.unsignedWidth?_cases (marker : UInt8) :
    (Marker.ofByte marker).unsignedWidth? = none ∨
      (marker < 0x80 ∧ (Marker.ofByte marker).unsignedWidth? = some 0) ∨
      ∃ form ∈ [(0xcc, 1), (0xcd, 2), (0xce, 4), (0xcf, 8)],
        marker = form.1 ∧ (Marker.ofByte marker).unsignedWidth? = some form.2 := by
  -- There are no more than 256 markers.
  cases marker with
  | ofBitVec bits =>
      cases bits with
      | ofFin number =>
          revert number
          decide +kernel

/-- What the marker of a length calls for, and what its digits come to. -/
theorem Spells.exists_digits {length : Nat} {sizing : Bytes} (spells : Spells length sizing) :
    ∃ marker digits, sizing = marker :: digits ∧
      (Marker.ofByte marker).unsignedWidth? = some digits.length ∧
      Unsigned.decode? marker digits = some (UInt64.ofNat length) := by
  cases spells with
  | small isSmall =>
      have isByte : (UInt8.ofNat length).toNat = length :=
        UInt8.toNat_ofNat_of_lt' (Nat.lt_trans isSmall (by decide))
      have isMarker : Marker.ofByte (UInt8.ofNat length) = .smallUnsigned (UInt8.ofNat length) := by
        apply Marker.ofByte_smallUnsigned
        rw [UInt8.lt_iff_toNat_lt, isByte]
        exact isSmall
      refine ⟨_, [], rfl, by rw [isMarker]; rfl, ?_⟩
      have isNumber : (UInt8.ofNat length).toUInt64 = UInt64.ofNat length := by
        have fits : length < UInt64.size := Nat.lt_trans isSmall (by decide)
        apply UInt64.toNat_inj.mp
        rw [UInt8.toNat_toUInt64, isByte, UInt64.toNat_ofNat_of_lt' fits]
      simp [Unsigned.decode?, isMarker, Marker.unsignedWidth?, isNumber]
  | @wide marker width isForm isWide =>
      have isMarker : (Marker.ofByte marker).unsignedWidth? = some width ∧ width ≠ 0 := by
        simp only [List.mem_cons, Prod.mk.injEq, List.not_mem_nil, or_false] at isForm
        rcases isForm with ⟨rfl, rfl⟩ | ⟨rfl, rfl⟩ | ⟨rfl, rfl⟩ | ⟨rfl, rfl⟩ <;> decide
      refine ⟨marker, _, rfl, ?_, ?_⟩
      · rw [isMarker.1, BigEndian.length_encode]
      · simp only [Unsigned.decode?, isMarker.1, BigEndian.length_encode, Unsigned.fold_eq,
          BigEndian.toNat_encode, Nat.mod_eq_of_lt isWide]
        simp [isMarker.2]

theorem Spells.lt_of_spells {length : Nat} {sizing : Bytes} (spells : Spells length sizing) :
    length < 2 ^ (64 : Nat) := by
  cases spells with
  | small isSmall => exact Nat.lt_trans isSmall (by decide)
  | @wide marker width isForm isWide =>
      apply Nat.lt_of_lt_of_le isWide
      simp only [List.mem_cons, Prod.mk.injEq, List.not_mem_nil, or_false] at isForm
      rcases isForm with ⟨_, rfl⟩ | ⟨_, rfl⟩ | ⟨_, rfl⟩ | ⟨_, rfl⟩ <;> decide

theorem Spells.of_decode? {marker : UInt8} {digits : Bytes} {length : UInt64}
    (isDecoded : Unsigned.decode? marker digits = some length) :
    Spells length.toNat (marker :: digits) := by
  unfold Unsigned.decode? at isDecoded
  obtain isNone | ⟨isSmall, isWidth⟩ | ⟨⟨marker, width⟩, isForm, rfl, isWidth⟩ :=
    Marker.unsignedWidth?_cases marker
  · rw [isNone] at isDecoded
    cases isDecoded
  · simp only [isWidth, ite_not, if_true, List.length_eq_zero_iff] at isDecoded
    split at isDecoded
    case isFalse => cases isDecoded
    case isTrue isBare =>
      subst isBare
      cases isDecoded
      have isByte : UInt8.ofNat marker.toUInt64.toNat = marker := by simp
      have isBelow : marker.toUInt64.toNat < 0x80 := by
        rw [UInt8.toNat_toUInt64]
        exact UInt8.lt_iff_toNat_lt.mp isSmall
      have spells := Spells.small isBelow
      rwa [isByte] at spells
  · have isWide : width ≠ 0 ∧ 256 ^ width ≤ 2 ^ (64 : Nat) := by
      simp only [List.mem_cons, Prod.mk.injEq, List.not_mem_nil, or_false] at isForm
      rcases isForm with ⟨_, rfl⟩ | ⟨_, rfl⟩ | ⟨_, rfl⟩ | ⟨_, rfl⟩ <;> decide
    simp only [isWidth, ite_not, if_neg isWide.1] at isDecoded
    split at isDecoded
    case isFalse => cases isDecoded
    case isTrue isSized =>
    cases isDecoded
    have isShort : BigEndian.toNat digits < 256 ^ width := isSized ▸ BigEndian.toNat_lt digits
    have isNumber : (Unsigned.fold digits).toNat = BigEndian.toNat digits := by
      rw [Unsigned.fold_eq]
      exact UInt64.toNat_ofNat_of_lt' (Nat.lt_of_lt_of_le isShort isWide.2)
    have isWritten := BigEndian.encode_toNat digits
    rw [isSized] at isWritten
    rw [isNumber, ← isWritten, BigEndian.toNat_encode, Nat.mod_eq_of_lt isShort]
    exact .wide isForm isShort

namespace Frame

/-- The length is read, and then it decides what becomes of the bytes behind it. -/
theorem split_of_spells {length : Nat} {sizing : Bytes} (spells : Spells length sizing)
    (rest : Bytes) :
    split (sizing ++ rest) =
      if 0xffffffff < length then (.error (.tooLong (UInt64.ofNat length)), rest)
      else if length ≤ rest.length then (.ok (rest.take length), rest.drop length)
      else (.error .endInPayload, []) := by
  have isNumber : (UInt64.ofNat length).toNat = length :=
    UInt64.toNat_ofNat_of_lt' spells.lt_of_spells
  obtain ⟨marker, digits, rfl, isWidth, isDecoded⟩ := spells.exists_digits
  have isTooLong : UInt64.ofNat length > maxFrameLength ↔ 0xffffffff < length := by
    rw [gt_iff_lt, UInt64.lt_iff_toNat_lt, isNumber]
    rfl
  have isThere : (rest.take length).length = length ↔ length ≤ rest.length := by
    rw [List.length_take]
    omega
  simp only [List.cons_append, split, isWidth, List.take_left, List.drop_left, isDecoded,
    isTooLong, isNumber, isThere]

/-- Where a payload is cut off, its length stands in front of it. -/
theorem exists_of_split {input payload rest : Bytes} (isSplit : split input = (.ok payload, rest)) :
    ∃ sizing, Spells payload.length sizing ∧ payload.length ≤ 0xffffffff ∧
      input = sizing ++ (payload ++ rest) := by
  cases input with
  | nil => cases isSplit
  | cons marker later =>
      simp only [split] at isSplit
      split at isSplit
      · cases isSplit
      · next width isWidth =>
        split at isSplit
        · cases isSplit
        · next length isDecoded =>
          split at isSplit
          · cases isSplit
          · next isAllowed =>
            split at isSplit
            · next isThere =>
              cases isSplit
              rw [isThere]
              refine ⟨marker :: later.take width, .of_decode? isDecoded, ?_, ?_⟩
              · exact UInt64.le_iff_toNat_le.mp (UInt64.not_lt.mp isAllowed)
              · rw [List.take_append_drop, List.cons_append, List.take_append_drop]
            · cases isSplit

theorem split_append {sizing payload : Bytes} (spells : Spells payload.length sizing)
    (isShort : payload.length ≤ 0xffffffff) (rest : Bytes) :
    split (sizing ++ (payload ++ rest)) = (.ok payload, rest) := by
  rw [split_of_spells spells, if_neg (Nat.not_lt.mpr isShort), if_pos (by simp), List.take_left,
    List.drop_left]

/-- A payload and the frame that it holds. -/
inductive Fills : Bytes → Frame → Prop where
  /-- The payload ends behind the header, so that there is no body. -/
  | bare {payload header} :
      Value.decode payload = .ok (header, []) → Fills payload ⟨header, none⟩
  /-- The header and the body are the first values of the payload. What is behind them is left
  unread. -/
  | full {first second unread header body} :
      Value.decode first = .ok (header, []) → Value.decode second = .ok (body, []) →
      Fills (first ++ (second ++ unread)) ⟨header, some body⟩

theorem ofPayload_eq_ok_iff {payload : Bytes} {frame : Frame} :
    ofPayload payload = .ok frame ↔ Fills payload frame := by
  constructor
  · intro isRead
    unfold ofPayload at isRead
    split at isRead
    · cases isRead
    · next header isHeader =>
      cases isRead
      exact .bare isHeader
    · next header rest isMore isHeader =>
      split at isRead
      · cases isRead
      · next body unread isBody =>
        cases isRead
        obtain ⟨first, rfl, isFirst⟩ := Value.decode_eq_ok_iff.mp isHeader
        obtain ⟨second, rfl, isSecond⟩ := Value.decode_eq_ok_iff.mp isBody
        exact .full isFirst isSecond
  · intro fills
    cases fills with
    | bare isHeader => rw [ofPayload, isHeader]
    | @full first second unread header body isFirst isSecond =>
        have isFilled : second ++ unread ≠ [] := by
          intro isEmpty
          rw [(List.append_eq_nil_iff.mp isEmpty).1] at isSecond
          cases isSecond
        unfold ofPayload
        rw [Value.decode_append isFirst]
        split
        · next failed => cases failed
        · next found => exact absurd (Prod.mk.inj (Except.ok.inj found)).2 isFilled
        · next found =>
          obtain ⟨rfl, rfl⟩ := Prod.mk.inj (Except.ok.inj found)
          rw [Value.decode_append isSecond]

/-- The first bytes of a length are no length. -/
theorem split_of_prefix {length : Nat} {sizing part : Bytes} (spells : Spells length sizing)
    (isPart : part <+: sizing) (isStrict : part ≠ sizing) :
    ∃ fault : FrameFault, fault.isIncomplete = true ∧ split part = (.error fault, []) := by
  obtain ⟨marker, digits, rfl, isWidth, _⟩ := spells.exists_digits
  cases part with
  | nil => exact ⟨.endBeforeMarker, rfl, rfl⟩
  | cons first found =>
      obtain ⟨rfl, areDigits⟩ := List.cons_prefix_cons.mp isPart
      have isShort : found.length ≠ digits.length := fun same =>
        isStrict (congrArg _ (areDigits.eq_of_length same))
      have isDecoded : Unsigned.decode? first (found.take digits.length) = none := by
        rw [Unsigned.decode?, isWidth, List.take_of_length_le areDigits.length_le]
        exact if_pos isShort
      refine ⟨.endInLength, rfl, ?_⟩
      simp only [split, isWidth, isDecoded]

/-- The first bytes of a length and a payload are no frame. -/
theorem split_of_cut {sizing payload part : Bytes} (spells : Spells payload.length sizing)
    (isShort : payload.length ≤ 0xffffffff) (isPart : part <+: sizing ++ payload)
    (isStrict : part ≠ sizing ++ payload) :
    ∃ fault : FrameFault, fault.isIncomplete = true ∧ split part = (.error fault, []) := by
  by_cases isSized : sizing <+: part
  · obtain ⟨found, rfl⟩ := isSized
    have isFound := (List.prefix_append_right_inj sizing).mp isPart
    have isMissing : found.length ≠ payload.length := fun same =>
      isStrict (congrArg _ (isFound.eq_of_length same))
    have isPartial := isFound.length_le
    refine ⟨.endInPayload, rfl, ?_⟩
    rw [split_of_spells spells, if_neg (by omega), if_neg (by omega)]
  · have isInLength : part <+: sizing :=
      (List.prefix_or_prefix_of_prefix isPart (List.prefix_append sizing payload)).resolve_right
        isSized
    apply split_of_prefix spells isInLength
    rintro rfl
    exact isSized (List.prefix_refl part)

/-- Bytes that could still become a frame: they end within a length, or within the payload behind
one. -/
inductive IsPartial : Bytes → Prop where
  | length {length : Nat} {sizing part : Bytes} : Spells length sizing → part <+: sizing →
      part ≠ sizing → IsPartial part
  | payload {sizing payload part : Bytes} : Spells payload.length sizing →
      payload.length ≤ 0xffffffff → part <+: sizing ++ payload → part ≠ sizing ++ payload →
      IsPartial part

/-- Bytes with which no frame begins. -/
inductive IsRefused : Bytes → Prop where
  | marker {marker : UInt8} (following : Bytes) : 0x80 ≤ marker →
      marker ∉ [0xcc, 0xcd, 0xce, 0xcf] → IsRefused (marker :: following)
  | length {length : Nat} {sizing : Bytes} (following : Bytes) : Spells length sizing →
      0xffffffff < length → IsRefused (sizing ++ following)

theorem IsPartial.split_eq {bytes : Bytes} (isPartial : IsPartial bytes) :
    ∃ fault : FrameFault, fault.isIncomplete = true ∧ split bytes = (.error fault, []) := by
  cases isPartial with
  | length spells isPart isStrict => exact split_of_prefix spells isPart isStrict
  | payload spells isShort isPart isStrict => exact split_of_cut spells isShort isPart isStrict

theorem IsRefused.split_eq {bytes : Bytes} (isRefused : IsRefused bytes) :
    ∃ (fault : FrameFault) (rest : Bytes),
      fault.isIncomplete = false ∧ split bytes = (.error fault, rest) := by
  cases isRefused with
  | @marker marker following isLarge isOther =>
      refine ⟨.invalidMarker marker, following, rfl, ?_⟩
      rw [split, (Marker.unsignedWidth?_eq_none_iff marker).mpr ⟨isLarge, isOther⟩]
  | @length length sizing following spells isLong =>
      refine ⟨.tooLong (UInt64.ofNat length), following, rfl, ?_⟩
      rw [split_of_spells spells, if_pos isLong]

/-- Some digits are missing; zeros would do. -/
theorem isPartial_of_digits {marker : UInt8} {width : Nat} {digits : Bytes}
    (isForm : (marker, width) ∈ [(0xcc, 1), (0xcd, 2), (0xce, 4), (0xcf, 8)])
    (isShort : digits.length < width) : IsPartial (marker :: digits) := by
  have isFilled : (digits ++ List.replicate (width - digits.length) 0).length = width := by
    rw [List.length_append, List.length_replicate]
    omega
  have isNumber := BigEndian.toNat_lt (digits ++ List.replicate (width - digits.length) 0)
  have isWritten := BigEndian.encode_toNat (digits ++ List.replicate (width - digits.length) 0)
  rw [isFilled] at isNumber isWritten
  have spells := Spells.wide isForm isNumber
  rw [isWritten] at spells
  refine .length spells ((List.prefix_cons_inj marker).mpr (List.prefix_append _ _)) ?_
  intro same
  have sameLength := congrArg List.length same
  rw [List.length_cons, List.length_cons, isFilled] at sameLength
  omega

theorem isPartial_of_undecoded {marker : UInt8} {later : Bytes} {width : Nat}
    (isWidth : (Marker.ofByte marker).unsignedWidth? = some width)
    (isUndecoded : Unsigned.decode? marker (later.take width) = none) :
    IsPartial (marker :: later) := by
  have isShort : later.length < width := by
    simp only [Unsigned.decode?, isWidth, List.length_take] at isUndecoded
    split at isUndecoded
    · omega
    · split at isUndecoded <;> cases isUndecoded
  obtain isNone | ⟨_, isZero⟩ | ⟨⟨marker, width⟩, isForm, rfl, isSome⟩ :=
    Marker.unsignedWidth?_cases marker
  · rw [isNone] at isWidth
    cases isWidth
  · rw [isZero] at isWidth
    cases isWidth
    exact absurd isShort (Nat.not_lt_zero _)
  · rw [isSome] at isWidth
    cases isWidth
    exact isPartial_of_digits isForm isShort

/-- Some of the payload is missing. -/
theorem isPartial_of_payload {length : Nat} {sizing found : Bytes} (spells : Spells length sizing)
    (isShort : length ≤ 0xffffffff) (isMissing : found.length < length) :
    IsPartial (sizing ++ found) := by
  have isFilled : (found ++ List.replicate (length - found.length) 0).length = length := by
    rw [List.length_append, List.length_replicate]
    omega
  rw [← isFilled] at spells isShort
  refine .payload spells isShort ?_ ?_
  · exact (List.prefix_append_right_inj sizing).mpr (List.prefix_append _ _)
  · intro same
    have sameLength := congrArg List.length (List.append_cancel_left same)
    omega

/-- Where nothing is cut off, more bytes are awaited or the stream is refused. -/
theorem isPartial_or_isRefused {bytes rest : Bytes} {fault : FrameFault}
    (isSplit : split bytes = (.error fault, rest)) :
    fault.isIncomplete = true ∧ IsPartial bytes ∨
      fault.isIncomplete = false ∧ IsRefused bytes := by
  cases bytes with
  | nil =>
      cases isSplit
      exact .inl ⟨rfl, .length (.small (by decide : 0 < 0x80)) List.nil_prefix nofun⟩
  | cons marker later =>
      simp only [split] at isSplit
      split at isSplit
      · next isOther =>
        obtain ⟨isLarge, isNone⟩ := (Marker.unsignedWidth?_eq_none_iff marker).mp isOther
        have isRefused : IsRefused (marker :: later) := .marker later isLarge isNone
        cases isSplit
        exact .inr ⟨rfl, isRefused⟩
      · next width isWidth =>
        split at isSplit
        · next isUndecoded =>
          cases isSplit
          exact .inl ⟨rfl, isPartial_of_undecoded isWidth isUndecoded⟩
        · next length isDecoded =>
          have spells := Spells.of_decode? isDecoded
          have isWhole : marker :: later =
              (marker :: later.take width) ++ later.drop width := by simp
          split at isSplit
          · next isLong =>
            cases isSplit
            rw [isWhole]
            exact .inr ⟨rfl, .length _ spells (UInt64.lt_iff_toNat_lt.mp isLong)⟩
          · next isAllowed =>
            split at isSplit
            · cases isSplit
            · next isMissing =>
              cases isSplit
              rw [isWhole]
              refine .inl ⟨rfl, isPartial_of_payload spells ?_ ?_⟩
              · exact UInt64.le_iff_toNat_le.mp (UInt64.not_lt.mp isAllowed)
              · rw [List.length_take] at isMissing
                omega

/-- A payload with a length in front of it is taken from a byte stream. -/
structure Splits (sizing payload : Bytes) : Prop where
  /-- What follows is left alone, and the payload decides the result. -/
  whole : ∀ following, read (sizing ++ (payload ++ following)) = (ofPayload payload, following)
  frame : ∀ frame, ofPayload payload = .ok frame ↔ Fills payload frame
  /-- No part of it will do. -/
  part : ∀ part, part <+: sizing ++ payload → part ≠ sizing ++ payload →
    ∃ fault, read part = (.error (.io fault), [])

/-- Frames are cut off a byte stream exactly, in whatever form the length is spelled. A byte that
begins no length is refused, and so is a length that is too long, with everything behind it left. -/
theorem splits_of_spells :
    (∀ sizing payload : Bytes, Spells payload.length sizing → payload.length ≤ 0xffffffff →
      Splits sizing payload) ∧
    (∀ (marker : UInt8) (following : Bytes), 0x80 ≤ marker →
      marker ∉ [0xcc, 0xcd, 0xce, 0xcf] →
        read (marker :: following) = (.error (.protocol (.lengthMarker marker)), following)) ∧
    ∀ (length : Nat) (sizing following : Bytes), Spells length sizing → 0xffffffff < length →
      read (sizing ++ following) =
        (.error (.protocol (.frameTooLong (UInt64.ofNat length))), following) := by
  refine ⟨fun sizing payload spells isShort => ⟨fun following => ?_, fun frame => ?_,
    fun part isPart isStrict => ?_⟩, ?_, ?_⟩
  · rw [read, split_append spells isShort]
  · exact ofPayload_eq_ok_iff
  · obtain ⟨fault, isIncomplete, isSplit⟩ := split_of_cut spells isShort isPart isStrict
    rw [read, isSplit]
    cases fault with
    | endBeforeMarker | endInLength | endInPayload => exact ⟨_, rfl⟩
    | invalidMarker | tooLong => cases isIncomplete
  · intro marker following isLarge isOther
    have isSplit : split (marker :: following) = (.error (.invalidMarker marker), following) := by
      rw [split, (Marker.unsignedWidth?_eq_none_iff marker).mpr ⟨isLarge, isOther⟩]
    rw [read, isSplit]
    rfl
  · intro length sizing following spells isLong
    rw [read, split_of_spells spells, if_pos isLong]
    rfl

/-- The length of an empty map is spelled in nine bytes. The map is read, and a byte behind it is
left; its length alone is no frame. The same nine bytes can spell a length that is too long. -/
theorem splits_of_widest_length :
    Splits (0xcf :: BigEndian.encode 8 1) [0x80] ∧
      read ((0xcf :: BigEndian.encode 8 1) ++ ([0x80] ++ [0xc1])) =
        (.ok ⟨.map [], none⟩, [0xc1]) ∧
      (∃ fault, read (0xcf :: BigEndian.encode 8 1) = (.error (.io fault), [])) ∧
      read [0xc1, 0x80] = (.error (.protocol (.lengthMarker 0xc1)), [0x80]) ∧
      read ((0xcf :: BigEndian.encode 8 0x100000000) ++ [0x80]) =
        (.error (.protocol (.frameTooLong 0x100000000)), [0x80]) := by
  obtain ⟨splits, isRefused, isTooLong⟩ := splits_of_spells
  have spells {length : Nat} (isWide : length < 256 ^ 8) :
      Spells length (0xcf :: BigEndian.encode 8 length) := .wide (by decide) isWide
  have atOnce : Splits (0xcf :: BigEndian.encode 8 1) [0x80] :=
    splits _ _ (spells (by decide)) (by decide)
  have isMap : ofPayload [0x80] = .ok ⟨.map [], none⟩ := (atOnce.frame _).mpr (.bare rfl)
  refine ⟨atOnce, ?_, atOnce.part _ (by decide) (by decide), ?_, ?_⟩
  · rw [atOnce.whole, isMap]
  · exact isRefused 0xc1 [0x80] (by decide) (by decide)
  · exact isTooLong 0x100000000 _ [0x80] (spells (by decide)) (by decide)

end Frame

end FailoverPool
