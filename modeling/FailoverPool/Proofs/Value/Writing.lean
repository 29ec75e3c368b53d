import FailoverPool.Value.Writer

/-!
The packed form of a value, piece by piece.

Writing goes on from what was written before. What it adds is the packed form of the value, and that
of a container is a header and then the packed forms of what it holds (`Value.encode_array`,
`Value.encode_map`).
-/

namespace FailoverPool
namespace Value

/-- The packed form of an entry: its key, then its value. -/
def encodeEntry (entry : Value × Value) : Bytes := entry.1.encode ++ entry.2.encode

mutual

theorem toList_write (out : Array UInt8) : ∀ value : Value,
    (value.write out).toList = out.toList ++ value.encode
  | .nil | .bool false | .bool true | .int _ | .float32 _ | .float64 _ | .text _
    | .malformedText _ | .binary _ | .ext _ _ => by simp [write, encode]
  | .array items => by
      simp only [encode, write]
      rw [toList_writeItems _ items, toList_writeItems (#[] ++ _) items]
      simp
  | .map entries => by
      simp only [encode, write]
      rw [toList_writeEntries _ entries, toList_writeEntries (#[] ++ _) entries]
      simp

theorem toList_writeItems (out : Array UInt8) : ∀ items : List Value,
    (writeItems out items).toList = out.toList ++ items.flatMap encode
  | [] => by simp [writeItems]
  | item :: rest => by
      rw [writeItems, toList_writeItems _ rest, toList_write out item]
      simp

theorem toList_writeEntries (out : Array UInt8) : ∀ entries : List (Value × Value),
    (writeEntries out entries).toList =
      out.toList ++ entries.flatMap encodeEntry
  | [] => by simp [writeEntries]
  | (key, value) :: rest => by
      rw [writeEntries, toList_writeEntries _ rest, toList_write _ value, toList_write out key]
      simp [encodeEntry]

end

theorem encode_array (items : List Value) :
    (Value.array items).encode =
      Header.array (UInt32.ofNat items.length) ++ items.flatMap encode := by
  rw [encode, write, toList_writeItems]
  simp

theorem encode_map (entries : List (Value × Value)) :
    (Value.map entries).encode =
      Header.map (UInt32.ofNat entries.length) ++ entries.flatMap encodeEntry := by
  rw [encode, write, toList_writeEntries]
  simp

theorem encode_int (integer : Integer) : (Value.int integer).encode = integer.encode := by
  simp [encode, write]

theorem encode_float32 (bits : UInt32) :
    (Value.float32 bits).encode = 0xca :: BigEndian.encode 4 bits.toNat := by
  simp [encode, write]

theorem encode_float64 (bits : UInt64) :
    (Value.float64 bits).encode = 0xcb :: BigEndian.encode 8 bits.toNat := by
  simp [encode, write, packFloat64]

theorem encode_text (text : String) : (Value.text text).encode =
    Header.text (UInt32.ofNat (Utf8.encode text).length) ++ Utf8.encode text := by
  simp [encode, write, Utf8.pack]

theorem encode_binary (bytes : Bytes) : (Value.binary bytes).encode =
    Header.binary (UInt32.ofNat bytes.length) ++ bytes := by
  simp [encode, write, Bytes.pack]

theorem encode_malformedText (bytes : Bytes) :
    (Value.malformedText bytes).encode = (Value.binary bytes).encode := by
  simp [encode, write]

theorem encode_ext (kind : Int8) (bytes : Bytes) : (Value.ext kind bytes).encode =
    Header.ext (UInt32.ofNat bytes.length) kind ++ bytes := by
  simp [encode, write]

/-- A number takes a marker and at most eight bytes. -/
theorem length_encode_ofUInt64 (number : UInt64) : (ofUInt64 number).encode.length ≤ 9 := by
  have isUnsigned : 0 ≤ (Integer.ofUInt64 number).val := Int.natCast_nonneg _
  rw [ofUInt64, encode_int, Integer.encode, if_pos isUnsigned, Unsigned.encode]
  repeat' split
  all_goals simp [BigEndian.length_encode]

/-- Every value takes at least a marker. -/
theorem encode_ne_nil (value : Value) : value.encode ≠ [] := by
  have binary_ne_nil (size : UInt32) : Header.binary size ≠ [] := by
    rw [Header.binary]
    repeat' split
    all_goals exact List.cons_ne_nil _ _
  cases value with
  | nil => exact List.cons_ne_nil _ _
  | bool value => cases value <;> exact List.cons_ne_nil _ _
  | int integer =>
      rw [encode_int, Integer.encode, Unsigned.encode]
      repeat' split
      all_goals exact List.cons_ne_nil _ _
  | float32 bits =>
      rw [encode_float32]
      exact List.cons_ne_nil _ _
  | float64 bits =>
      rw [encode_float64]
      exact List.cons_ne_nil _ _
  | text text =>
      rw [encode_text, Header.text]
      repeat' split
      all_goals exact List.cons_ne_nil _ _
  | malformedText bytes =>
      rw [encode_malformedText, encode_binary]
      exact List.append_ne_nil_of_left_ne_nil (binary_ne_nil _) _
  | binary bytes =>
      rw [encode_binary]
      exact List.append_ne_nil_of_left_ne_nil (binary_ne_nil _) _
  | array items =>
      rw [encode_array, Header.array]
      repeat' split
      all_goals exact List.cons_ne_nil _ _
  | map entries =>
      rw [encode_map, Header.map]
      repeat' split
      all_goals exact List.cons_ne_nil _ _
  | ext kind bytes =>
      rw [encode_ext, Header.ext]
      simp

end Value
end FailoverPool
