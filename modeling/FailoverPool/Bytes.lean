/-!
Byte strings, and natural numbers written big-endian in a fixed number of bytes.

`toNat_encode` says that reading back what was written gives the value modulo `256 ^ width`,
and `encode_toNat` that every byte string is the writing of its own value.
-/

namespace FailoverPool

/-- Powers are those of the core library, with the same meaning whatever else is imported. -/
instance (priority := 2000) corePow {Number : Type} [NatPow Number] : Pow Number Nat := instPowNat

abbrev Bytes := List UInt8

namespace BigEndian

/-- The `width` low bytes of a number, most significant first. -/
def encode : (width value : Nat) → Bytes
  | 0, _ => []
  | width + 1, value => UInt8.ofNat (value / 256 ^ width) :: encode width value

/-- The number that a byte string spells, most significant byte first. -/
def toNat (bytes : Bytes) : Nat :=
  bytes.foldl (fun value byte => value * 256 + byte.toNat) 0

@[simp]
theorem length_encode (width value : Nat) : (encode width value).length = width := by
  induction width with
  | zero => rfl
  | succ width inductionHypothesis => simp [encode, inductionHypothesis]

private theorem foldl_shift (bytes : Bytes) (start : Nat) :
    bytes.foldl (fun value byte => value * 256 + byte.toNat) start =
      start * 256 ^ bytes.length + toNat bytes := by
  induction bytes generalizing start with
  | nil => simp [toNat]
  | cons byte rest inductionHypothesis =>
      simp only [toNat, List.foldl_cons, List.length_cons]
      rw [inductionHypothesis, inductionHypothesis (0 * 256 + byte.toNat)]
      simp only [Nat.pow_succ, Nat.add_mul, Nat.zero_mul, Nat.zero_add, Nat.add_assoc]
      rw [Nat.mul_assoc, Nat.mul_comm 256]

@[simp]
theorem toNat_nil : toNat [] = 0 := rfl

theorem toNat_cons (byte : UInt8) (rest : Bytes) :
    toNat (byte :: rest) = byte.toNat * 256 ^ rest.length + toNat rest := by
  have shifted := foldl_shift rest (0 * 256 + byte.toNat)
  simpa [toNat] using shifted

theorem toNat_lt (bytes : Bytes) : toNat bytes < 256 ^ bytes.length := by
  induction bytes with
  | nil => simp
  | cons byte rest inductionHypothesis =>
      have small : byte.toNat < 256 := byte.toNat_lt
      rw [toNat_cons, List.length_cons, Nat.pow_succ]
      calc byte.toNat * 256 ^ rest.length + toNat rest
          < byte.toNat * 256 ^ rest.length + 256 ^ rest.length := by omega
        _ = (byte.toNat + 1) * 256 ^ rest.length := by rw [Nat.add_mul, Nat.one_mul]
        _ ≤ 256 * 256 ^ rest.length := Nat.mul_le_mul_right _ (by omega)
        _ = 256 ^ rest.length * 256 := Nat.mul_comm ..

theorem toNat_encode (width value : Nat) : toNat (encode width value) = value % 256 ^ width := by
  induction width with
  | zero => simp [encode, Nat.mod_one]
  | succ width inductionHypothesis =>
      have lowByte : (UInt8.ofNat (value / 256 ^ width)).toNat = value / 256 ^ width % 256 := by
        simp
      rw [encode, toNat_cons, length_encode, inductionHypothesis, lowByte,
        Nat.pow_succ, Nat.mod_mul (x := value), Nat.add_comm, Nat.mul_comm]

theorem encode_toNat (bytes : Bytes) : encode bytes.length (toNat bytes) = bytes := by
  suffices general : ∀ (carry : Nat), encode bytes.length (carry * 256 ^ bytes.length + toNat bytes)
      = bytes by simpa using general 0
  induction bytes with
  | nil => intro carry; rfl
  | cons byte rest inductionHypothesis =>
      intro carry
      have small : byte.toNat < 256 := byte.toNat_lt
      have restSmall := toNat_lt rest
      have positive : 0 < 256 ^ rest.length := Nat.pow_pos (by omega)
      have regrouped : carry * 256 ^ (rest.length + 1) + toNat (byte :: rest) =
          (carry * 256 + byte.toNat) * 256 ^ rest.length + toNat rest := by
        rw [toNat_cons, Nat.pow_succ, Nat.add_mul, Nat.mul_assoc, Nat.mul_comm 256, Nat.add_assoc]
      rw [List.length_cons, regrouped, encode, inductionHypothesis]
      congr 1
      rw [Nat.add_comm, Nat.add_mul_div_right _ _ positive, Nat.div_eq_of_lt restSmall,
        Nat.zero_add]
      apply UInt8.toNat_inj.mp
      rw [UInt8.toNat_ofNat']
      omega

end BigEndian

end FailoverPool
