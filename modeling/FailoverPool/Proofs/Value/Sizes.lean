import FailoverPool.Proofs.Value.Reading

/-!
How many bytes numbers and headers take.

The format has forms of several widths for the same number or size, and the writer takes the
shortest. So what it writes is no longer than any form that has room for the number.
-/

namespace FailoverPool

/-- The widths of a size, each with room for it, give it no more than 32 bits. -/
theorem lt_of_hasRoom {size width : Nat} (isWidth : width ∈ [1, 2, 4])
    (hasRoom : size < 256 ^ width) : size < 2 ^ (32 : Nat) := by
  simp only [List.mem_cons, List.not_mem_nil, or_false] at isWidth
  rcases isWidth with rfl | rfl | rfl <;> omega

namespace Unsigned

theorem length_encode (value : UInt64) : (encode value).length =
    if value.toNat < 0x80 then 1
    else if value.toNat < 0x100 then 2
    else if value.toNat < 0x10000 then 3
    else if value.toNat < 0x100000000 then 5
    else 9 := by
  simp only [encode, UInt64.lt_iff_toNat_lt]
  repeat' split
  all_goals first | rfl | contradiction

theorem length_encode_le {value : UInt64} {width : Nat} (isWidth : width ∈ [1, 2, 4, 8])
    (hasRoom : value.toNat < 256 ^ width) : (encode value).length ≤ width + 1 := by
  rw [length_encode]
  simp only [List.mem_cons, List.not_mem_nil, or_false] at isWidth
  rcases isWidth with rfl | rfl | rfl | rfl
  all_goals
    repeat' split
    all_goals omega

end Unsigned

namespace Integer

variable {integer : Integer}

/-- An integer that fits a marker is written as a marker. -/
theorem length_encode_small (lower : -32 ≤ integer.val) (upper : integer.val < 0x80) :
    integer.encode.length = 1 := by
  have isNumber : (UInt64.ofNat integer.val.toNat).toNat = integer.val.toNat :=
    UInt64.toNat_ofNat_of_lt' (by simp [UInt64.size]; omega)
  rw [encode]
  split
  · rw [Unsigned.length_encode, isNumber, if_pos (by omega)]
  · dsimp only
    exact BigEndian.length_encode 1 _

/-- A signed form needs room for one bit more than the number, an unsigned one does not. -/
theorem length_encode_le {width : Nat} (isWidth : width ∈ [1, 2, 4, 8])
    (lower : -((256 ^ width : Nat) : Int) ≤ 2 * integer.val)
    (upper : integer.val < ((256 ^ width : Nat) : Int)) :
    integer.encode.length ≤ width + 1 := by
  have isNumber : (UInt64.ofNat integer.val.toNat).toNat = integer.val.toNat :=
    UInt64.toNat_ofNat_of_lt' (by have := integer.upper; simp [UInt64.size]; omega)
  rw [encode]
  split
  · exact Unsigned.length_encode_le isWidth (by omega)
  · simp only [List.mem_cons, List.not_mem_nil, or_false] at isWidth
    rcases isWidth with rfl | rfl | rfl | rfl
    all_goals
      dsimp only
      repeat' split
      all_goals
        simp only [List.length_cons, BigEndian.length_encode]
        omega

end Integer

namespace Header

/-- What a marker and the shortest size behind it take. -/
def sizing (size : Nat) : Nat := if size < 0x100 then 2 else if size < 0x10000 then 3 else 5

variable {size width : Nat}

theorem sizing_le (isWidth : width ∈ [1, 2, 4]) (hasRoom : size < 256 ^ width) :
    sizing size ≤ width + 1 := by
  rw [sizing]
  simp only [List.mem_cons, List.not_mem_nil, or_false] at isWidth
  rcases isWidth with rfl | rfl | rfl
  all_goals
    repeat' split
    all_goals omega

theorem length_text (isSized : size < 2 ^ (32 : Nat)) :
    (text (UInt32.ofNat size)).length = if size < 32 then 1 else sizing size := by
  have isSize : (UInt32.ofNat size).toNat = size := UInt32.toNat_ofNat_of_lt' isSized
  simp only [text, sizing, UInt32.lt_iff_toNat_lt, isSize, UInt32.reduceToNat]
  repeat' split
  all_goals rfl

theorem length_binary (isSized : size < 2 ^ (32 : Nat)) :
    (binary (UInt32.ofNat size)).length = sizing size := by
  have isSize : (UInt32.ofNat size).toNat = size := UInt32.toNat_ofNat_of_lt' isSized
  simp only [binary, sizing, UInt32.lt_iff_toNat_lt, isSize, UInt32.reduceToNat]
  repeat' split
  all_goals rfl

theorem length_array (isSized : size < 2 ^ (32 : Nat)) :
    (array (UInt32.ofNat size)).length = if size < 16 then 1 else max 3 (sizing size) := by
  have isSize : (UInt32.ofNat size).toNat = size := UInt32.toNat_ofNat_of_lt' isSized
  simp only [array, sizing, UInt32.lt_iff_toNat_lt, isSize, UInt32.reduceToNat]
  repeat' split
  all_goals first | rfl | omega

/-- Arrays and maps have headers of one kind. -/
theorem length_map (size : UInt32) : (map size).length = (array size).length := by
  rw [map, array]
  repeat' split
  all_goals rfl

theorem length_ext (isSized : size < 2 ^ (32 : Nat)) (kind : Int8) :
    (ext (UInt32.ofNat size) kind).length =
      if size ∈ [1, 2, 4, 8, 16] then 2 else sizing size + 1 := by
  have isSize : (UInt32.ofNat size).toNat = size := UInt32.toNat_ofNat_of_lt' isSized
  simp only [ext, sizing, UInt32.lt_iff_toNat_lt, ← UInt32.toNat_inj, isSize, List.length_append]
  repeat' split
  all_goals simp_all

theorem length_text_le (isWidth : width ∈ [1, 2, 4]) (hasRoom : size < 256 ^ width) :
    (text (UInt32.ofNat size)).length ≤ width + 1 := by
  have isShortest := sizing_le isWidth hasRoom
  rw [length_text (lt_of_hasRoom isWidth hasRoom)]
  split <;> omega

theorem length_binary_le (isWidth : width ∈ [1, 2, 4]) (hasRoom : size < 256 ^ width) :
    (binary (UInt32.ofNat size)).length ≤ width + 1 := by
  rw [length_binary (lt_of_hasRoom isWidth hasRoom)]
  exact sizing_le isWidth hasRoom

theorem length_array_le (isWidth : width ∈ [2, 4]) (hasRoom : size < 256 ^ width) :
    (array (UInt32.ofNat size)).length ≤ width + 1 := by
  have isShortest := sizing_le (.tail 1 isWidth) hasRoom
  have isWide : 2 ≤ width := by
    simp only [List.mem_cons, List.not_mem_nil, or_false] at isWidth
    omega
  rw [length_array (lt_of_hasRoom (.tail 1 isWidth) hasRoom)]
  split <;> omega

theorem length_ext_le (isWidth : width ∈ [1, 2, 4]) (hasRoom : size < 256 ^ width) (kind : Int8) :
    (ext (UInt32.ofNat size) kind).length ≤ width + 2 := by
  have isShortest := sizing_le isWidth hasRoom
  rw [length_ext (lt_of_hasRoom isWidth hasRoom)]
  split <;> omega

end Header

end FailoverPool
