import FailoverPool.Value.Reader
import FailoverPool.Value.Writer

/-!
What the reader makes of numbers and of headers, whatever follows them.

There is one statement for each kind of header. It does not depend on the form that the writer chose
for the length.
-/

namespace FailoverPool

namespace Unsigned

theorem shift_eq (value : UInt64) (byte : UInt8) :
    (value <<< 8) ||| byte.toUInt64 = value * 256 + byte.toUInt64 := by
  have isByte : byte.toNat < 2 ^ (8 : Nat) := byte.toNat_lt
  have shifted : (value.toNat <<< 8) % 2 ^ (64 : Nat) = (value.toNat % 2 ^ 56) <<< 8 := by
    rw [Nat.shiftLeft_eq, Nat.shiftLeft_eq]
    omega
  apply UInt64.toNat_inj.mp
  rw [UInt64.toNat_or, UInt64.toNat_shiftLeft, UInt64.toNat_add, UInt64.toNat_mul,
    UInt8.toNat_toUInt64]
  show (value.toNat <<< 8) % 2 ^ (64 : Nat) ||| byte.toNat = _
  rw [shifted, ← Nat.shiftLeft_add_eq_or_of_lt isByte, Nat.shiftLeft_eq]
  show _ = ((value.toNat * 256) % 2 ^ (64 : Nat) + byte.toNat) % 2 ^ (64 : Nat)
  omega

/-- Shifting bytes in spells the number that they spell, modulo `2 ^ (64 : Nat)`. -/
theorem fold_eq (payload : Bytes) : fold payload = UInt64.ofNat (BigEndian.toNat payload) := by
  suffices general : ∀ start : Nat,
      (payload.foldl (fun value byte => (value <<< 8) ||| byte.toUInt64) (UInt64.ofNat start) :
          UInt64) =
        UInt64.ofNat (payload.foldl (fun value byte => value * 256 + byte.toNat) start) from
    general 0
  induction payload with
  | nil => exact fun _ => rfl
  | cons byte later inductionHypothesis =>
      intro start
      have step : (UInt64.ofNat start <<< 8) ||| byte.toUInt64 =
          UInt64.ofNat (start * 256 + byte.toNat) := by
        rw [shift_eq, UInt64.ofNat_add, UInt64.ofNat_mul, UInt64.ofNat_uInt8ToNat]
        rfl
      rw [List.foldl_cons, List.foldl_cons, step]
      exact inductionHypothesis _

end Unsigned

namespace Marker

variable {size : UInt8}

/-- A byte that carries a size above a base. -/
theorem add_sub_base (base size : UInt8) : base + size - base = size := by
  rw [UInt8.add_comm, UInt8.add_sub_cancel]

theorem toNat_base {base : UInt8} (isByte : base.toNat + size.toNat < 256) :
    (base + size).toNat = base.toNat + size.toNat := by
  rw [UInt8.toNat_add, Nat.mod_eq_of_lt isByte]

theorem ofByte_smallUnsigned {byte : UInt8} (isSmall : byte < 0x80) :
    ofByte byte = .smallUnsigned byte :=
  if_pos isSmall

theorem ofByte_smallMap (isSmall : size.toNat < 16) : ofByte (0x80 + size) = .smallMap size := by
  have isSum : (0x80 + size).toNat = 0x80 + size.toNat := toNat_base (by simp; omega)
  unfold ofByte
  simp only [UInt8.lt_iff_toNat_lt, isSum]
  rw [if_neg (by simp), if_pos (by simp; omega), add_sub_base]

theorem ofByte_smallArray (isSmall : size.toNat < 16) :
    ofByte (0x90 + size) = .smallArray size := by
  have isSum : (0x90 + size).toNat = 0x90 + size.toNat := toNat_base (by simp; omega)
  unfold ofByte
  simp only [UInt8.lt_iff_toNat_lt, isSum]
  rw [if_neg (by simp; omega), if_neg (by simp), if_pos (by simp; omega), add_sub_base]

theorem ofByte_smallText (isSmall : size.toNat < 32) : ofByte (0xa0 + size) = .smallText size := by
  have isSum : (0xa0 + size).toNat = 0xa0 + size.toNat := toNat_base (by simp; omega)
  unfold ofByte
  simp only [UInt8.lt_iff_toNat_lt, isSum]
  rw [if_neg (by simp; omega), if_neg (by simp; omega), if_neg (by simp), if_pos (by simp; omega),
    add_sub_base]

theorem ofByte_smallNegative {byte : UInt8} (isLarge : 0xe0 ≤ byte.toNat) :
    ofByte byte = .smallNegative byte := by
  unfold ofByte
  simp only [UInt8.lt_iff_toNat_lt, ge_iff_le, UInt8.le_iff_toNat_le]
  rw [if_neg (by simp; omega), if_neg (by simp; omega), if_neg (by simp; omega),
    if_neg (by simp; omega), if_pos (by simp; omega)]

end Marker

namespace Value

variable {budget : Nat}

theorem readNumber_encode (width number : Nat) (rest : Bytes) :
    readNumber width (BigEndian.encode width number ++ rest) =
      .ok (number % 256 ^ width, rest) := by
  have isLength := BigEndian.length_encode width number
  unfold readNumber
  rw [List.take_left' isLength, List.drop_left' isLength, if_pos isLength, BigEndian.toNat_encode]

theorem readNumber_of_lt {width number : Nat} (isShort : number < 256 ^ width) (rest : Bytes) :
    readNumber width (BigEndian.encode width number ++ rest) = .ok (number, rest) := by
  rw [readNumber_encode, Nat.mod_eq_of_lt isShort]

theorem readData_append (bytes rest : Bytes) :
    readData (budget + 1) bytes.length (bytes ++ rest) = .ok (bytes, rest) := by
  simp [readData]

theorem readText_append (bytes rest : Bytes) :
    readText (budget + 2) bytes.length (bytes ++ rest) = .ok (ofTextBytes bytes, rest) := by
  rw [readText, readData_append]
  rfl

theorem readExt_append (kind : Int8) (bytes rest : Bytes) :
    readExt (budget + 2) bytes.length (kind.toUInt8 :: (bytes ++ rest)) =
      .ok (.ext kind bytes, rest) := by
  have isKind : readNumber 1 (kind.toUInt8 :: (bytes ++ rest)) =
      .ok (kind.toUInt8.toNat, bytes ++ rest) := by
    simp [readNumber, BigEndian.toNat]
  rw [readExt, isKind]
  simp only [bind, Except.bind, readData_append]
  simp [pure, Except.pure]

theorem read_unsigned (value : UInt64) (rest : Bytes) :
    read (budget + 1) (Unsigned.encode value ++ rest) = .ok (ofUInt64 value, rest) := by
  have wide {first : UInt8} {width : Nat} (isUnsigned : Marker.ofByte first = .unsigned width)
      (isShort : value.toNat < 256 ^ width) :
      read (budget + 1) (first :: BigEndian.encode width value.toNat ++ rest) =
        .ok (ofUInt64 value, rest) := by
    simp only [List.cons_append, read, isUnsigned, readNumber_of_lt isShort, bind, Except.bind,
      pure, Except.pure, UInt64.ofNat_toNat]
  unfold Unsigned.encode
  simp only [UInt64.lt_iff_toNat_lt]
  split
  · next isSmall =>
    have isByte : value.toUInt8.toUInt64 = value := by
      apply UInt64.toNat_inj.mp
      simp at *
      omega
    have isMarker : Marker.ofByte value.toUInt8 = .smallUnsigned value.toUInt8 := by
      apply Marker.ofByte_smallUnsigned
      rw [UInt8.lt_iff_toNat_lt]
      simp at *
      omega
    simp only [List.singleton_append, read, isMarker, isByte]
  · split
    · exact wide rfl (by assumption)
    · split
      · exact wide rfl (by assumption)
      · split
        · exact wide rfl (by assumption)
        · exact wide rfl value.toNat_lt

/-- Two's complement gives a negative number back if it has room for it. -/
theorem signedOf_wrapped {integer : Integer} {width : Nat} (isNegative : integer.val < 0)
    (divides : 256 ^ width ∣ 2 ^ (64 : Nat))
    (lower : -((256 ^ width : Nat) : Int) ≤ 2 * integer.val) :
    signedOf width ((integer.val % 2 ^ (64 : Nat)).toNat % 256 ^ width) = .int integer := by
  have isMod : (((integer.val % 2 ^ (64 : Nat)).toNat % 256 ^ width : Nat) : Int) =
      integer.val % ((256 ^ width : Nat) : Int) := by
    rw [Int.natCast_emod, Int.toNat_of_nonneg (Int.emod_nonneg _ (by decide))]
    exact Int.emod_emod_of_dvd _ (by exact_mod_cast divides)
  have isInt : (Int64.ofInt integer.val).toInt = integer.val :=
    Int64.toInt_ofInt_of_le integer.lower (by omega)
  unfold signedOf
  rw [isMod, Int.emod_bmod, Int.bmod_eq_of_le (by omega) (by omega)]
  congr 1
  unfold Integer.ofInt64
  simp only [isInt]

theorem read_integer (integer : Integer) (rest : Bytes) :
    read (budget + 1) (integer.encode ++ rest) = .ok (.int integer, rest) := by
  unfold Integer.encode
  split
  · next isUnsigned =>
    have isSame : ofUInt64 (UInt64.ofNat integer.val.toNat) = .int integer := by
      have upper := integer.upper
      unfold ofUInt64 Integer.ofUInt64
      congr 1
      obtain ⟨val, _, _⟩ := integer
      simp at *
      omega
    rw [read_unsigned, isSame]
  · next isNegative =>
    have wide {first : UInt8} {width : Nat} (isSigned : Marker.ofByte first = .signed width)
        (divides : 256 ^ width ∣ 2 ^ (64 : Nat))
        (lower : -((256 ^ width : Nat) : Int) ≤ 2 * integer.val) :
        read (budget + 1)
          (first :: BigEndian.encode width (integer.val % 2 ^ (64 : Nat)).toNat ++ rest) =
            .ok (.int integer, rest) := by
      simp only [List.cons_append, read, isSigned, readNumber_encode, bind, Except.bind, pure,
        Except.pure, signedOf_wrapped (Int.not_le.mp isNegative) divides lower]
    have wrapped (lower : -((256 ^ 1 : Nat) : Int) ≤ 2 * integer.val) :=
      signedOf_wrapped (Int.not_le.mp isNegative) (by decide) lower
    dsimp only
    split
    · next isSmall =>
      have isByte : (UInt8.ofNat (integer.val % 2 ^ (64 : Nat)).toNat).toNat =
          (integer.val % 2 ^ (64 : Nat)).toNat % 256 ^ 1 := UInt8.toNat_ofNat'
      have isMarker := @Marker.ofByte_smallNegative
        (UInt8.ofNat (integer.val % 2 ^ (64 : Nat)).toNat) (by rw [isByte]; omega)
      simp only [BigEndian.encode, Nat.pow_zero, Nat.div_one, List.singleton_append, read,
        isMarker, isByte]
      rw [wrapped (by omega)]
    · split
      · exact wide rfl (by decide) (by omega)
      · split
        · exact wide rfl (by decide) (by omega)
        · split
          · exact wide rfl (by decide) (by omega)
          · exact wide rfl (by decide) (by have := integer.lower; omega)

theorem read_float32 (bits : UInt32) (rest : Bytes) :
    read (budget + 1) (0xca :: BigEndian.encode 4 bits.toNat ++ rest) =
      .ok (.float32 bits, rest) := by
  have isShort : bits.toNat < 256 ^ 4 := bits.toNat_lt
  have isMarker : Marker.ofByte 0xca = .float32 := rfl
  simp only [List.cons_append, read, isMarker, readNumber_of_lt isShort, bind, Except.bind, pure,
    Except.pure, UInt32.ofNat_toNat]

theorem read_float64 (bits : UInt64) (rest : Bytes) :
    read (budget + 1) (0xcb :: BigEndian.encode 8 bits.toNat ++ rest) =
      .ok (.float64 bits, rest) := by
  have isShort : bits.toNat < 256 ^ 8 := bits.toNat_lt
  have isMarker : Marker.ofByte 0xcb = .float64 := rfl
  simp only [List.cons_append, read, isMarker, readNumber_of_lt isShort, bind, Except.bind, pure,
    Except.pure, UInt64.ofNat_toNat]

/-- A short length stands in a marker as it is. -/
theorem toNat_shortLength {size : Nat} (isShort : size < 2 ^ (8 : Nat)) :
    (UInt32.ofNat size).toUInt8.toNat = size := by
  simp
  omega

theorem read_text {bytes : Bytes} (isSized : bytes.length < 2 ^ (32 : Nat)) (rest : Bytes) :
    read (budget + 3) (Header.text (UInt32.ofNat bytes.length) ++ (bytes ++ rest)) =
      .ok (ofTextBytes bytes, rest) := by
  have isSize : (UInt32.ofNat bytes.length).toNat = bytes.length :=
    UInt32.toNat_ofNat_of_lt' isSized
  have wide {first : UInt8} {width : Nat} (isText : Marker.ofByte first = .text width)
      (isShort : bytes.length < 256 ^ width) :
      read (budget + 3) (first :: BigEndian.encode width bytes.length ++ (bytes ++ rest)) =
        .ok (ofTextBytes bytes, rest) := by
    simp only [List.cons_append, read, isText, readNumber_of_lt isShort, bind, Except.bind,
      readText_append]
  unfold Header.text
  simp only [UInt32.lt_iff_toNat_lt, isSize]
  split
  · next isSmall =>
    have isByte := toNat_shortLength (Nat.lt_trans isSmall (by decide))
    have isMarker := @Marker.ofByte_smallText (UInt32.ofNat bytes.length).toUInt8
      (by rw [isByte]; exact isSmall)
    simp only [List.singleton_append, read, isMarker, isByte, readText_append]
  · split
    · exact wide rfl (by assumption)
    · split
      · exact wide rfl (by assumption)
      · exact wide rfl isSized

theorem read_binary {bytes : Bytes} (isSized : bytes.length < 2 ^ (32 : Nat)) (rest : Bytes) :
    read (budget + 2) (Header.binary (UInt32.ofNat bytes.length) ++ (bytes ++ rest)) =
      .ok (.binary bytes, rest) := by
  have isSize : (UInt32.ofNat bytes.length).toNat = bytes.length :=
    UInt32.toNat_ofNat_of_lt' isSized
  have wide {first : UInt8} {width : Nat} (isBinary : Marker.ofByte first = .binary width)
      (isShort : bytes.length < 256 ^ width) :
      read (budget + 2) (first :: BigEndian.encode width bytes.length ++ (bytes ++ rest)) =
        .ok (.binary bytes, rest) := by
    simp only [List.cons_append, read, isBinary, readNumber_of_lt isShort, bind, Except.bind,
      readData_append, pure, Except.pure]
  unfold Header.binary
  simp only [UInt32.lt_iff_toNat_lt, isSize]
  split
  · exact wide rfl (by assumption)
  · split
    · exact wide rfl (by assumption)
    · exact wide rfl isSized

theorem read_ext {kind : Int8} {bytes : Bytes} (isSized : bytes.length < 2 ^ (32 : Nat))
    (rest : Bytes) :
    read (budget + 3) (Header.ext (UInt32.ofNat bytes.length) kind ++ (bytes ++ rest)) =
      .ok (.ext kind bytes, rest) := by
  have isSize : (UInt32.ofNat bytes.length).toNat = bytes.length :=
    UInt32.toNat_ofNat_of_lt' isSized
  have fixed {first : UInt8} {size : Nat} (isExt : Marker.ofByte first = .fixedExt size)
      (isLength : bytes.length = size) :
      read (budget + 3) (first :: kind.toUInt8 :: (bytes ++ rest)) =
        .ok (.ext kind bytes, rest) := by
    subst isLength
    simp only [read, isExt, readExt_append]
  have wide {first : UInt8} {width : Nat} (isExt : Marker.ofByte first = .ext width)
      (isShort : bytes.length < 256 ^ width) :
      read (budget + 3) (first :: BigEndian.encode width bytes.length ++
        (kind.toUInt8 :: (bytes ++ rest))) = .ok (.ext kind bytes, rest) := by
    simp only [List.cons_append, read, isExt, readNumber_of_lt isShort, bind, Except.bind,
      readExt_append]
  have isFixed {size : UInt32} (isLength : UInt32.ofNat bytes.length = size) :
      bytes.length = size.toNat := by rw [← isLength, isSize]
  unfold Header.ext
  simp only [UInt32.lt_iff_toNat_lt, isSize, List.append_assoc, List.singleton_append]
  split
  · next isLength => exact fixed rfl (isFixed isLength)
  · split
    · next isLength => exact fixed rfl (isFixed isLength)
    · split
      · next isLength => exact fixed rfl (isFixed isLength)
      · split
        · next isLength => exact fixed rfl (isFixed isLength)
        · split
          · next isLength => exact fixed rfl (isFixed isLength)
          · split
            · exact wide rfl (by assumption)
            · split
              · exact wide rfl (by assumption)
              · exact wide rfl isSized

/-- An array is read item by item, with the budget that its header has left. -/
theorem read_array {size : Nat} {input rest : Bytes} {items : List Value}
    (isSized : size < 2 ^ (32 : Nat))
    (areItems : readMany (read budget) size [] input = .ok (items, rest)) :
    read (budget + 2) (Header.array (UInt32.ofNat size) ++ input) = .ok (.array items, rest) := by
  have isSize : (UInt32.ofNat size).toNat = size := UInt32.toNat_ofNat_of_lt' isSized
  have wide {first : UInt8} {width : Nat} (isArray : Marker.ofByte first = .array width)
      (isShort : size < 256 ^ width) :
      read (budget + 2) (first :: BigEndian.encode width size ++ input) =
        .ok (.array items, rest) := by
    simp only [List.cons_append, read, isArray, readNumber_of_lt isShort, bind, Except.bind,
      areItems, pure, Except.pure]
  unfold Header.array
  simp only [UInt32.lt_iff_toNat_lt, isSize]
  split
  · next isSmall =>
    have isByte := toNat_shortLength (Nat.lt_trans isSmall (by decide))
    have isMarker := @Marker.ofByte_smallArray (UInt32.ofNat size).toUInt8
      (by rw [isByte]; exact isSmall)
    simp only [List.singleton_append, read, isMarker, isByte, areItems, bind, Except.bind, pure,
      Except.pure]
  · split
    · exact wide rfl (by assumption)
    · exact wide rfl isSized

/-- A map is read entry by entry, in the same way. -/
theorem read_map {size : Nat} {input rest : Bytes} {entries : List (Value × Value)}
    (isSized : size < 2 ^ (32 : Nat))
    (areEntries : readMany (readEntry (read budget)) size [] input = .ok (entries, rest)) :
    read (budget + 2) (Header.map (UInt32.ofNat size) ++ input) = .ok (.map entries, rest) := by
  have isSize : (UInt32.ofNat size).toNat = size := UInt32.toNat_ofNat_of_lt' isSized
  have wide {first : UInt8} {width : Nat} (isMap : Marker.ofByte first = .map width)
      (isShort : size < 256 ^ width) :
      read (budget + 2) (first :: BigEndian.encode width size ++ input) =
        .ok (.map entries, rest) := by
    simp only [List.cons_append, read, isMap, readNumber_of_lt isShort, bind, Except.bind,
      areEntries, pure, Except.pure]
  unfold Header.map
  simp only [UInt32.lt_iff_toNat_lt, isSize]
  split
  · next isSmall =>
    have isByte := toNat_shortLength (Nat.lt_trans isSmall (by decide))
    have isMarker := @Marker.ofByte_smallMap (UInt32.ofNat size).toUInt8
      (by rw [isByte]; exact isSmall)
    simp only [List.singleton_append, read, isMarker, isByte, areEntries, bind, Except.bind, pure,
      Except.pure]
  · split
    · exact wide rfl (by assumption)
    · exact wide rfl isSized

end Value
end FailoverPool
