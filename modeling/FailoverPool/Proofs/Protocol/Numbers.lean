import FailoverPool.Proofs.Protocol.Splitting
import FailoverPool.Proofs.Value.Sizes

/-!
Unsigned integers and their forms.

A number has up to five forms (`Spells`). All of them are read as the number, nothing else is, and
the writer takes a form that none of the others is shorter than. Main statement:
`Unsigned.decode?_encode_shortest`.
-/

namespace FailoverPool

theorem Spells.length_encode_le {value : UInt64} {form : Bytes}
    (spells : Spells value.toNat form) : (Unsigned.encode value).length ≤ form.length := by
  cases spells with
  | small isSmall =>
      rw [Unsigned.length_encode, if_pos isSmall]
      exact Nat.le_refl 1
  | @wide marker width isForm hasRoom =>
      have isWidth : width ∈ [1, 2, 4, 8] := List.mem_map_of_mem (f := Prod.snd) isForm
      rw [List.length_cons, BigEndian.length_encode]
      exact Unsigned.length_encode_le isWidth hasRoom

namespace Unsigned

theorem spells_encode (value : UInt64) : Spells value.toNat (encode value) := by
  simp only [encode, UInt64.lt_iff_toNat_lt]
  split
  · next isSmall => exact .small isSmall
  · split
    · exact .wide (by decide) (by assumption)
    · split
      · exact .wide (by decide) (by assumption)
      · split
        · exact .wide (by decide) (by assumption)
        · exact .wide (by decide) value.toNat_lt

/-- What is read of a marker and its payload is the number that they are a form of. -/
theorem decode?_eq_some_iff {marker : UInt8} {payload : Bytes} {value : UInt64} :
    decode? marker payload = some value ↔ Spells value.toNat (marker :: payload) := by
  constructor
  · exact Spells.of_decode?
  · intro spells
    obtain ⟨first, digits, isForm, _, isDecoded⟩ := spells.exists_digits
    obtain ⟨rfl, rfl⟩ := List.cons.inj isForm
    rw [isDecoded, UInt64.ofNat_toNat]

theorem unsignedWidth?_of_decode? {marker : UInt8} {payload : Bytes} {value : UInt64}
    (isDecoded : decode? marker payload = some value) :
    (Marker.ofByte marker).unsignedWidth? = some payload.length := by
  obtain ⟨first, digits, isForm, isWidth, _⟩ :=
    (decode?_eq_some_iff.mp isDecoded).exists_digits
  obtain ⟨rfl, rfl⟩ := List.cons.inj isForm
  exact isWidth

/-- Up to eight bytes are shifted in without a loss. -/
theorem toNat_fold {payload : Bytes} (fits : payload.length ≤ 8) :
    (fold payload).toNat = BigEndian.toNat payload := by
  have isBelow : BigEndian.toNat payload < 2 ^ (64 : Nat) :=
    calc BigEndian.toNat payload
        < 256 ^ payload.length := BigEndian.toNat_lt payload
      _ ≤ 256 ^ 8 := Nat.pow_le_pow_right (by decide) fits
      _ = 2 ^ (64 : Nat) := by decide
  rw [fold_eq]
  exact UInt64.toNat_ofNat_of_lt' isBelow

/-- Reading undoes writing, for all numbers. What else is read as a number is another form of it, as
wide as its marker says and no shorter than what is written; and no bit of a payload is lost. -/
theorem decode?_encode_shortest :
    (∀ value : UInt64, ∃ marker payload, encode value = marker :: payload ∧
      (Marker.ofByte marker).unsignedWidth? = some payload.length ∧
      decode? marker payload = some value) ∧
    (∀ (marker : UInt8) (payload : Bytes) (value : UInt64),
      decode? marker payload = some value ↔ Spells value.toNat (marker :: payload)) ∧
    (∀ (marker : UInt8) (payload : Bytes) (value : UInt64), decode? marker payload = some value →
      (Marker.ofByte marker).unsignedWidth? = some payload.length ∧
      (encode value).length ≤ (marker :: payload).length) ∧
    ∀ payload : Bytes, payload.length ≤ 8 → (fold payload).toNat = BigEndian.toNat payload := by
  refine ⟨fun value => ?_, fun _ _ _ => decode?_eq_some_iff,
    fun marker payload value isDecoded => ?_, fun _ => toNat_fold⟩
  · have spells := spells_encode value
    obtain ⟨marker, payload, isForm, isWidth, isDecoded⟩ := spells.exists_digits
    rw [UInt64.ofNat_toNat] at isDecoded
    exact ⟨marker, payload, isForm, isWidth, isDecoded⟩
  · exact ⟨unsignedWidth?_of_decode? isDecoded,
      (decode?_eq_some_iff.mp isDecoded).length_encode_le⟩

/-- A number in nine bytes, where three are enough, and eight bytes that fill a number. -/
theorem shortest_of_nine_bytes :
    decode? 0xcf (BigEndian.encode 8 300) = some 300 ∧
      Spells (300 : UInt64).toNat (0xcf :: BigEndian.encode 8 300) ∧
      (encode 300).length = 3 ∧
      (encode 300).length ≤ (0xcf :: BigEndian.encode 8 300).length ∧
      (fold (List.replicate 8 0xff)).toNat = BigEndian.toNat (List.replicate 8 0xff) := by
  obtain ⟨_, reads, isShortest, isLossless⟩ := decode?_encode_shortest
  have isDecoded : decode? 0xcf (BigEndian.encode 8 300) = some 300 := by decide
  exact ⟨isDecoded, (reads _ _ _).mp isDecoded, by decide, (isShortest _ _ _ isDecoded).2,
    isLossless _ (by decide)⟩

end Unsigned
end FailoverPool
