import FailoverPool.Proofs.Value.Texts
import FailoverPool.Proofs.Value.Sizes
import FailoverPool.Value.Sequence

/-!
What can come out of reading a value, and of how many bytes.

A property of results and of the bytes that they take passes from a reader to the readers that are
made of it (`Yields`). So a value that has been read is known to fit the budget, to have no larger
sizes than its headers could tell, and to be written in no more bytes than it was read from. Main
statement: `Value.yields_read`.
-/

namespace FailoverPool

namespace Marker

/-- The widths and sizes that markers carry. -/
def IsRegular : Marker → Prop
  | .smallUnsigned value => value < 0x80
  | .smallNegative value => 0xe0 ≤ value
  | .unsigned width | .signed width => width ∈ [1, 2, 4, 8]
  | .smallText size => size < 32
  | .smallArray size | .smallMap size => size < 16
  | .text width | .binary width | .ext width => width ∈ [1, 2, 4]
  | .array width | .map width => width ∈ [2, 4]
  | .fixedExt size => size ∈ [1, 2, 4, 8, 16]
  | .nil | .reserved | .bool _ | .float32 | .float64 => True

instance (marker : Marker) : Decidable marker.IsRegular := by
  cases marker <;> unfold IsRegular <;> infer_instance

theorem isRegular_ofByte (byte : UInt8) : (ofByte byte).IsRegular := by
  -- There are no more than 256 markers.
  cases byte with
  | ofBitVec bits =>
      cases bits with
      | ofFin number =>
          revert number
          decide +kernel

end Marker

namespace Value

/-- Whatever the reader reads, the property holds of it and of the number of bytes that it takes. -/
def Yields {Result : Type} (readOne : Bytes → Except ReadFault (Result × Bytes))
    (Holds : Result → Nat → Prop) : Prop :=
  ∀ input result rest, readOne input = .ok (result, rest) →
    ∃ count, input.length = count + rest.length ∧ Holds result count

/-- The property holds of each of the results and of its share of the bytes. -/
inductive Shares {Result : Type} (Holds : Result → Nat → Prop) : List Result → Nat → Prop where
  | nil : Shares Holds [] 0
  | cons {result rest first later} : Holds result first → Shares Holds rest later →
      Shares Holds (result :: rest) (first + later)

namespace Yields

variable {First Result : Type} {Begins : First → Nat → Prop} {Holds : Result → Nat → Prop}

theorem ok {result : Result} (holds : Holds result 0) :
    Yields (fun input => .ok (result, input)) Holds := by
  rintro input _ _ ⟨⟩
  exact ⟨0, (Nat.zero_add _).symm, holds⟩

theorem error (fault : ReadFault) :
    Yields (fun _ => (.error fault : Except _ (Result × Bytes))) Holds := by
  rintro _ _ _ ⟨⟩

/-- What the second reader takes comes on top of what the first has taken. -/
theorem bind {first : Bytes → Except ReadFault (First × Bytes)}
    (next : First → Bytes → Except ReadFault (Result × Bytes)) (begins : Yields first Begins)
    (goesOn : ∀ value before, Begins value before →
      Yields (next value) fun result after => Holds result (before + after)) :
    Yields (fun input => first input >>= fun (value, rest) => next value rest) Holds := by
  intro input result rest isRead
  obtain ⟨value, between, isFirst, isNext⟩ := ok_of_bind isRead
  obtain ⟨before, isBefore, isBegun⟩ := begins _ _ _ isFirst
  obtain ⟨after, isAfter, holds⟩ := goesOn value before isBegun _ _ _ isNext
  exact ⟨before + after, by omega, holds⟩

theorem map {first : Bytes → Except ReadFault (First × Bytes)} (make : First → Result)
    (begins : Yields first Begins)
    (makes : ∀ value count, Begins value count → Holds (make value) count) :
    Yields (fun input => first input >>= fun (value, rest) => pure (make value, rest)) Holds :=
  begins.bind (fun value rest => .ok (make value, rest)) fun value before isBegun =>
    ok (makes value before isBegun)

theorem mono {readOne : Bytes → Except ReadFault (Result × Bytes)} {Before : Result → Nat → Prop}
    (yields : Yields readOne Before) (holds : ∀ result count, Before result count →
      Holds result count) : Yields readOne Holds := by
  intro input result rest isRead
  obtain ⟨count, isCount, before⟩ := yields _ _ _ isRead
  exact ⟨count, isCount, holds result count before⟩

theorem readNumber (width : Nat) : Yields (Value.readNumber width) fun number count =>
    count = width ∧ number < 256 ^ width := by
  intro input number rest isRead
  unfold Value.readNumber at isRead
  dsimp only at isRead
  split at isRead
  · next isLong =>
    cases isRead
    refine ⟨width, ?_, rfl, ?_⟩
    · rw [List.length_take] at isLong
      rw [List.length_drop]
      omega
    · simpa only [isLong] using BigEndian.toNat_lt (input.take width)
  · cases isRead

theorem readData (budget size : Nat) : Yields (Value.readData budget size) fun data count =>
    0 < budget ∧ data.length = size ∧ count = size := by
  cases budget with
  | zero => exact error .tooDeep
  | succ budget =>
      intro input data rest isRead
      simp only [Value.readData] at isRead
      split at isRead
      · next isLong =>
        cases isRead
        refine ⟨size, ?_, Nat.succ_pos _, isLong, rfl⟩
        rw [List.length_take] at isLong
        rw [List.length_drop]
        omega
      · cases isRead

theorem readText (budget size : Nat) : Yields (Value.readText budget size) fun value count =>
    ∃ bytes, value = ofTextBytes bytes ∧ 2 ≤ budget ∧ bytes.length = size ∧ count = size := by
  cases budget with
  | zero => exact error .tooDeep
  | succ budget =>
      exact (readData budget size).map ofTextBytes fun bytes _ ⟨isDeep, isSize, isCount⟩ =>
        ⟨bytes, rfl, Nat.succ_le_succ isDeep, isSize, isCount⟩

theorem readExt (budget size : Nat) : Yields (Value.readExt budget size) fun value count =>
    ∃ kind bytes, value = .ext kind bytes ∧ 2 ≤ budget ∧ bytes.length = size ∧
      count = 1 + size := by
  cases budget with
  | zero => exact error .tooDeep
  | succ budget =>
      exact (readNumber 1).bind _ fun kind before ⟨isBefore, _⟩ =>
        (readData budget size).map (Value.ext (UInt8.ofNat kind).toInt8)
          fun bytes _ ⟨isDeep, isSize, isCount⟩ =>
            ⟨_, bytes, rfl, Nat.succ_le_succ isDeep, isSize, by rw [isBefore, isCount]⟩

variable {readOne : Bytes → Except ReadFault (Result × Bytes)}

theorem readMany (yields : Yields readOne Holds) (size : Nat) (reversed : List Result) :
    Yields (Value.readMany readOne size reversed) fun results count =>
      ∃ found, results = reversed.reverse ++ found ∧ found.length = size ∧
        Shares Holds found count := by
  induction size generalizing reversed with
  | zero => exact ok ⟨[], (List.append_nil _).symm, rfl, .nil⟩
  | succ size inductionHypothesis =>
      have inTurn : Value.readMany readOne (size + 1) reversed = fun input =>
          readOne input >>= fun (result, rest) =>
            Value.readMany readOne size (result :: reversed) rest := by
        funext input
        rw [Value.readMany]
        cases readOne input <;> rfl
      rw [inTurn]
      refine yields.bind (fun result => Value.readMany readOne size (result :: reversed))
        fun result before holds => ?_
      refine (inductionHypothesis (result :: reversed)).mono ?_
      rintro _ after ⟨found, rfl, isSize, shares⟩
      exact ⟨result :: found, by simp, congrArg Nat.succ isSize, .cons holds shares⟩

theorem readEntry {readOne : Bytes → Except ReadFault (Value × Bytes)} {Holds : Value → Nat → Prop}
    (yields : Yields readOne Holds) : Yields (Value.readEntry readOne) fun entry count =>
      ∃ before after, Holds entry.1 before ∧ Holds entry.2 after ∧ count = before + after :=
  yields.bind _ fun key before ofKey =>
    yields.map (fun value => (key, value)) fun _ after ofValue =>
      ⟨before, after, ofKey, ofValue, rfl⟩

end Yields

/-- The value can be written, in no more bytes than this unless it holds a text that is not UTF-8,
and read again with this budget. -/
structure Admits (budget : Nat) (value : Value) (count : Nat) : Prop where
  fits : value.Fits budget
  isSized : value.IsSized
  isShort : value.IsSpelled → value.encode.length ≤ count

variable {budget count : Nat}

theorem admits_int {integer : Integer} (isShort : integer.encode.length ≤ count) :
    Admits (budget + 1) (.int integer) count where
  fits := .int
  isSized := .int
  isShort _ := by
    rw [encode_int]
    exact isShort

theorem admits_text {bytes : Bytes} (isDeep : 2 ≤ budget) (isSized : bytes.length < 2 ^ (32 : Nat))
    (isShort : (Header.text (UInt32.ofNat bytes.length)).length + bytes.length ≤ count) :
    Admits (budget + 1) (ofTextBytes bytes) count := by
  obtain ⟨budget, rfl⟩ := Nat.exists_eq_add_of_le' isDeep
  unfold ofTextBytes
  split
  · next spelled isSpelled =>
    rw [Utf8.decode?_eq_some_iff.mp isSpelled] at isSized isShort
    refine ⟨.text, .text isSized, fun _ => ?_⟩
    rw [encode_text, List.length_append]
    exact isShort
  · exact ⟨.malformedText, .malformedText isSized, nofun⟩

theorem admits_binary {bytes : Bytes} (isDeep : 0 < budget)
    (isSized : bytes.length < 2 ^ (32 : Nat))
    (isShort : (Header.binary (UInt32.ofNat bytes.length)).length + bytes.length ≤ count) :
    Admits (budget + 1) (.binary bytes) count := by
  obtain ⟨budget, rfl⟩ := Nat.exists_eq_add_of_le' isDeep
  refine ⟨.binary, .binary isSized, fun _ => ?_⟩
  rw [encode_binary, List.length_append]
  exact isShort

theorem admits_ext {kind : Int8} {bytes : Bytes} (isDeep : 2 ≤ budget)
    (isSized : bytes.length < 2 ^ (32 : Nat))
    (isShort : (Header.ext (UInt32.ofNat bytes.length) kind).length + bytes.length ≤ count) :
    Admits (budget + 1) (.ext kind bytes) count := by
  obtain ⟨budget, rfl⟩ := Nat.exists_eq_add_of_le' isDeep
  refine ⟨.ext, .ext isSized, fun _ => ?_⟩
  rw [encode_ext, List.length_append]
  exact isShort

theorem Shares.exists_share {Result : Type} {Holds : Result → Nat → Prop} {results : List Result}
    {result : Result} (shares : Shares Holds results count) (isResult : result ∈ results) :
    ∃ share, Holds result share := by
  induction shares with
  | nil => cases isResult
  | cons holds _ inductionHypothesis =>
      cases isResult with
      | head => exact ⟨_, holds⟩
      | tail _ isLater => exact inductionHypothesis isLater

/-- What is written in place of each is no longer than its share, and so no longer in all. -/
theorem Shares.length_flatMap_le {Result : Type} {Holds : Result → Nat → Prop}
    {results : List Result} {write : Result → Bytes} (shares : Shares Holds results count)
    (areShort : ∀ result ∈ results, ∀ share, Holds result share → (write result).length ≤ share) :
    (results.flatMap write).length ≤ count := by
  induction shares with
  | nil => exact Nat.le_refl 0
  | cons holds _ inductionHypothesis =>
      rw [List.forall_mem_cons] at areShort
      rw [List.flatMap_cons, List.length_append]
      exact Nat.add_le_add (areShort.1 _ holds) (inductionHypothesis areShort.2)

/-- An entry takes what its key and its value take. -/
def AdmitsEntry (budget : Nat) (entry : Value × Value) (count : Nat) : Prop :=
  ∃ before after, Admits budget entry.1 before ∧ Admits budget entry.2 after ∧
    count = before + after

theorem admits_array {items : List Value} {taken : Nat}
    (shares : Shares (Admits budget) items taken) (isSized : items.length < 2 ^ (32 : Nat))
    (isShort : (Header.array (UInt32.ofNat items.length)).length + taken ≤ count) :
    Admits (budget + 2) (.array items) count where
  fits := .array fun item isItem => by
    obtain ⟨_, admits⟩ := shares.exists_share isItem
    exact admits.fits
  isSized := .array isSized fun item isItem => by
    obtain ⟨_, admits⟩ := shares.exists_share isItem
    exact admits.isSized
  isShort isSpelled := by
    cases isSpelled with
    | array areSpelled =>
        have areShort := shares.length_flatMap_le fun item isItem _ admits =>
          admits.isShort (areSpelled item isItem)
        rw [encode_array, List.length_append]
        omega

theorem admits_map {entries : List (Value × Value)} {taken : Nat}
    (shares : Shares (AdmitsEntry budget) entries taken)
    (isSized : entries.length < 2 ^ (32 : Nat))
    (isShort : (Header.map (UInt32.ofNat entries.length)).length + taken ≤ count) :
    Admits (budget + 2) (.map entries) count where
  fits := by
    refine .map (fun entry isEntry => ?_) fun entry isEntry => ?_
    all_goals obtain ⟨_, _, _, ofKey, ofValue, _⟩ := shares.exists_share isEntry
    · exact ofKey.fits
    · exact ofValue.fits
  isSized := by
    refine .map isSized (fun entry isEntry => ?_) fun entry isEntry => ?_
    all_goals obtain ⟨_, _, _, ofKey, ofValue, _⟩ := shares.exists_share isEntry
    · exact ofKey.isSized
    · exact ofValue.isSized
  isShort isSpelled := by
    cases isSpelled with
    | map areKeysSpelled areValuesSpelled =>
        have areShort : (entries.flatMap encodeEntry).length ≤ taken := by
          apply shares.length_flatMap_le
          rintro entry isEntry _ ⟨before, after, ofKey, ofValue, rfl⟩
          rw [encodeEntry, List.length_append]
          exact Nat.add_le_add (ofKey.isShort (areKeysSpelled entry isEntry))
            (ofValue.isShort (areValuesSpelled entry isEntry))
        rw [encode_map, List.length_append]
        omega

/-- What a container holds is read with the budget that the container leaves. -/
theorem Yields.container {Item : Type} {readItem : Nat → Bytes → Except ReadFault (Item × Bytes)}
    {Holds : Nat → Item → Nat → Prop} (make : List Item → Value) (budget size : Nat) :
    -- This stands behind the colon: the match below would depend on a hypothesis before it.
    (∀ smaller < budget, Yields (readItem smaller) (Holds smaller)) →
    Yields (fun input => (match budget with
      | 0 => .error .tooDeep
      | budget + 1 => do
          let (items, rest) ← Value.readMany (readItem budget) size [] input
          return (make items, rest) : Except ReadFault (Value × Bytes)))
      fun value count => ∃ items left, value = make items ∧ budget = left + 1 ∧
        items.length = size ∧ Shares (Holds left) items count := by
  intro yields
  cases budget with
  | zero => exact .error .tooDeep
  | succ budget =>
      refine ((yields budget (Nat.lt_succ_self _)).readMany size []).map make ?_
      rintro items count ⟨_, rfl, isSize, shares⟩
      exact ⟨items, budget, rfl, rfl, isSize, shares⟩

theorem exists_signedOf {width : Nat} (number : Nat) (isWidth : width ∈ [1, 2, 4, 8]) :
    ∃ integer, signedOf width number = .int integer ∧
      integer.val = Int.bmod number (256 ^ width) := by
  have isPositive : 0 < 256 ^ width := Nat.pow_pos (by decide)
  have lower := Int.le_bmod (x := number) isPositive
  have upper := Int.bmod_lt (x := number) isPositive
  have isSmall : 256 ^ width ≤ 2 ^ (64 : Nat) := by
    simp only [List.mem_cons, List.not_mem_nil, or_false] at isWidth
    rcases isWidth with rfl | rfl | rfl | rfl <;> decide
  exact ⟨_, rfl, Int64.toInt_ofInt_of_le (by omega) (by omega)⟩

/-- Two's complement of some bytes gives a number that has room in as many. -/
theorem admits_signedOf {width number : Nat} (isWidth : width ∈ [1, 2, 4, 8]) :
    Admits (budget + 1) (signedOf width number) (width + 1) := by
  obtain ⟨integer, isSigned, isVal⟩ := exists_signedOf number isWidth
  have isPositive : 0 < 256 ^ width := Nat.pow_pos (by decide)
  have lower := Int.le_bmod (x := number) isPositive
  have upper := Int.bmod_lt (x := number) isPositive
  rw [isSigned]
  exact admits_int (Integer.length_encode_le isWidth (by omega) (by omega))

theorem admits_smallNegative {byte : UInt8} (isLarge : 0xe0 ≤ byte) :
    Admits (budget + 1) (signedOf 1 byte.toNat) 1 := by
  have isWidth : 1 ∈ [1, 2, 4, 8] := .head _
  obtain ⟨integer, isSigned, isVal⟩ := exists_signedOf byte.toNat isWidth
  have isByte := byte.toNat_lt
  have isLargeNumber : 0xe0 ≤ byte.toNat := UInt8.le_iff_toNat_le.mp isLarge
  rw [Int.bmod_def] at isVal
  rw [isSigned]
  apply admits_int
  rw [Integer.length_encode_small]
  all_goals split at isVal
  all_goals omega

/-- What the first byte announces is read from the bytes behind it. -/
theorem yields_announced {budget : Nat}
    (areAdmitted : ∀ smaller < budget, Yields (read smaller) (Admits smaller)) (first : UInt8) :
    Yields (fun input => read (budget + 1) (first :: input)) fun value count =>
      Admits (budget + 1) value (count + 1) := by
  have areEntries : ∀ smaller < budget,
      Yields (readEntry (read smaller)) (AdmitsEntry smaller) :=
    fun smaller isSmaller => (areAdmitted smaller isSmaller).readEntry
  have regular := Marker.isRegular_ofByte first
  simp only [read]
  generalize Marker.ofByte first = marker at regular
  cases marker with
  | nil | reserved => exact .ok ⟨.nil, .nil, fun _ => Nat.le_refl 1⟩
  | bool value => exact .ok ⟨.bool, .bool, fun _ => by cases value <;> exact Nat.le_refl 1⟩
  | smallUnsigned value =>
      have isSmall : value.toNat < 0x80 := UInt8.lt_iff_toNat_lt.mp regular
      have isVal : (Integer.ofUInt64 value.toUInt64).val = value.toNat := by
        simp [Integer.ofUInt64]
      apply Yields.ok
      apply admits_int
      rw [Integer.length_encode_small]
      all_goals omega
  | smallNegative value => exact .ok (admits_smallNegative regular)
  | unsigned width =>
      refine (Yields.readNumber width).map (fun number => ofUInt64 (.ofNat number)) ?_
      rintro number _ ⟨rfl, hasRoom⟩
      have isVal : (Integer.ofUInt64 (.ofNat number)).val ≤ number := by
        simp [Integer.ofUInt64]
        omega
      have isUnsigned : 0 ≤ (Integer.ofUInt64 (.ofNat number)).val := Int.natCast_nonneg _
      exact admits_int (Integer.length_encode_le regular (by omega) (by omega))
  | signed width =>
      refine (Yields.readNumber width).map (signedOf width) ?_
      rintro number _ ⟨rfl, _⟩
      exact admits_signedOf regular
  | float32 =>
      refine (Yields.readNumber 4).map (fun number => Value.float32 (.ofNat number)) ?_
      rintro number _ ⟨rfl, _⟩
      refine ⟨.float32, .float32, fun _ => ?_⟩
      rw [encode_float32]
      exact Nat.le_of_eq (congrArg Nat.succ (BigEndian.length_encode ..))
  | float64 =>
      refine (Yields.readNumber 8).map (fun number => Value.float64 (.ofNat number)) ?_
      rintro number _ ⟨rfl, _⟩
      refine ⟨.float64, .float64, fun _ => ?_⟩
      rw [encode_float64]
      exact Nat.le_of_eq (congrArg Nat.succ (BigEndian.length_encode ..))
  | smallText size =>
      refine (Yields.readText budget size.toNat).mono ?_
      rintro _ _ ⟨bytes, rfl, isDeep, isSize, rfl⟩
      have isSmall : size.toNat < 32 := UInt8.lt_iff_toNat_lt.mp regular
      refine admits_text isDeep (by omega) ?_
      rw [Header.length_text (by omega), if_pos (by omega)]
      omega
  | text width =>
      refine (Yields.readNumber width).bind (Value.readText budget) ?_
      rintro size _ ⟨rfl, hasRoom⟩
      refine (Yields.readText budget size).mono ?_
      rintro _ _ ⟨bytes, rfl, isDeep, rfl, rfl⟩
      have isShort := Header.length_text_le regular hasRoom
      exact admits_text isDeep (lt_of_hasRoom regular hasRoom) (by omega)
  | binary width =>
      exact (Yields.readNumber width).bind _ fun size _ isSize =>
        (Yields.readData budget size).map Value.binary fun bytes _ isData => by
          obtain ⟨rfl, hasRoom⟩ := isSize
          obtain ⟨isDeep, rfl, rfl⟩ := isData
          have isShort := Header.length_binary_le regular hasRoom
          exact admits_binary isDeep (lt_of_hasRoom regular hasRoom) (by omega)
  | smallArray size =>
      refine (Yields.container Value.array budget size.toNat areAdmitted).mono ?_
      rintro _ taken ⟨items, left, rfl, rfl, isSize, shares⟩
      have isSmall : size.toNat < 16 := UInt8.lt_iff_toNat_lt.mp regular
      refine admits_array shares (by omega) ?_
      rw [Header.length_array (by omega), if_pos (by omega)]
      omega
  | array width =>
      exact (Yields.readNumber width).bind _ fun size _ isSize =>
        (Yields.container Value.array budget size areAdmitted).mono fun _ taken areRead => by
          obtain ⟨rfl, hasRoom⟩ := isSize
          obtain ⟨items, left, rfl, rfl, rfl, shares⟩ := areRead
          have isShort := Header.length_array_le regular hasRoom
          exact admits_array shares (lt_of_hasRoom (.tail 1 regular) hasRoom) (by omega)
  | smallMap size =>
      refine (Yields.container Value.map budget size.toNat areEntries).mono ?_
      rintro _ taken ⟨entries, left, rfl, rfl, isSize, shares⟩
      have isSmall : size.toNat < 16 := UInt8.lt_iff_toNat_lt.mp regular
      refine admits_map shares (by omega) ?_
      rw [Header.length_map, Header.length_array (by omega), if_pos (by omega)]
      omega
  | map width =>
      exact (Yields.readNumber width).bind _ fun size _ isSize =>
        (Yields.container Value.map budget size areEntries).mono fun _ taken areRead => by
          obtain ⟨rfl, hasRoom⟩ := isSize
          obtain ⟨entries, left, rfl, rfl, rfl, shares⟩ := areRead
          have isShort := Header.length_array_le regular hasRoom
          rw [← Header.length_map] at isShort
          exact admits_map shares (lt_of_hasRoom (.tail 1 regular) hasRoom) (by omega)
  | fixedExt size =>
      refine (Yields.readExt budget size).mono ?_
      rintro _ _ ⟨kind, bytes, rfl, isDeep, rfl, rfl⟩
      have isFixed : bytes.length ∈ [1, 2, 4, 8, 16] := regular
      have isSized : bytes.length < 2 ^ (32 : Nat) := by
        simp only [List.mem_cons, List.not_mem_nil, or_false] at isFixed
        omega
      refine admits_ext isDeep isSized ?_
      rw [Header.length_ext isSized, if_pos isFixed]
      omega
  | ext width =>
      refine (Yields.readNumber width).bind (Value.readExt budget) ?_
      rintro size _ ⟨rfl, hasRoom⟩
      refine (Yields.readExt budget size).mono ?_
      rintro _ _ ⟨kind, bytes, rfl, isDeep, rfl, rfl⟩
      have isShort := Header.length_ext_le regular hasRoom kind
      exact admits_ext isDeep (lt_of_hasRoom regular hasRoom) (by omega)

theorem yields_read (budget : Nat) : Yields (read budget) (Admits budget) := by
  induction budget using Nat.strongRecOn with
  | ind budget inductionHypothesis =>
      cases budget with
      | zero => exact .error .tooDeep
      | succ budget =>
          have areAdmitted : ∀ smaller < budget, Yields (read smaller) (Admits smaller) :=
            fun smaller isSmaller => inductionHypothesis smaller (Nat.lt_succ_of_lt isSmaller)
          intro input value rest isRead
          cases input with
          | nil => cases isRead
          | cons first input =>
              obtain ⟨count, isCount, admits⟩ := yields_announced areAdmitted first _ _ _ isRead
              refine ⟨count + 1, ?_, admits⟩
              rw [List.length_cons]
              omega

end Value
end FailoverPool
