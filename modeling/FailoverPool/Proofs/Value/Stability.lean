import FailoverPool.Proofs.Value.Locality
import FailoverPool.Proofs.Value.Yielding

/-!
What has been read can be written, and is then the same for good.

Writing a value that was read loses nothing but the difference between a text that is not UTF-8 and
binary data, and it never takes more bytes without such a text. Reading what was written and writing
it again changes nothing any more. Main statement: `Value.stable_of_decode`.
-/

namespace FailoverPool
namespace Value

mutual

/-- A text that is not UTF-8 is written as the binary data that stands for it. -/
theorem encode_legible : ∀ value : Value, value.legible.encode = value.encode
  | .nil | .bool _ | .int _ | .float32 _ | .float64 _ | .text _ | .binary _ | .ext _ _ => rfl
  | .malformedText bytes => (encode_malformedText bytes).symm
  | .array items => by
      rw [legible_array, encode_array, encode_array, List.length_map, ← legibleItems_eq,
        flatMap_legibleItems items]
  | .map entries => by
      rw [legible_map, encode_map, encode_map, List.length_map, ← legibleEntries_eq,
        flatMap_legibleEntries entries]

theorem flatMap_legibleItems : ∀ items : List Value,
    (legibleItems items).flatMap encode = items.flatMap encode
  | [] => rfl
  | item :: rest => by
      rw [legibleItems, List.flatMap_cons, List.flatMap_cons, encode_legible item,
        flatMap_legibleItems rest]

theorem flatMap_legibleEntries : ∀ entries : List (Value × Value),
    (legibleEntries entries).flatMap encodeEntry = entries.flatMap encodeEntry
  | [] => rfl
  | (key, value) :: rest => by
      rw [legibleEntries, List.flatMap_cons, List.flatMap_cons, encodeEntry, encodeEntry,
        encode_legible key, encode_legible value, flatMap_legibleEntries rest]

end

/-- A part of the bytes of a value is no value. -/
theorem exists_fault_of_prefix {used part : Bytes} {value : Value}
    (isRead : decode used = .ok (value, [])) (isPart : part <+: used) (isStrict : part ≠ used) :
    ∃ fault, decode part = .error fault := by
  obtain ⟨missing, rfl⟩ := isPart
  cases isFound : decode part with
  | error fault => exact ⟨fault, rfl⟩
  | ok found =>
      obtain ⟨other, rest⟩ := found
      obtain ⟨taken, rfl, isTaken⟩ := decode_eq_ok_iff.mp isFound
      -- With the missing bytes behind them, the same bytes are taken and those are left.
      have again := decode_append isTaken (rest ++ missing)
      rw [← List.append_assoc, isRead] at again
      have isNothing := (Prod.mk.inj (Except.ok.inj again)).2
      have isNotMissing := (List.append_eq_nil_iff.mp isNothing.symm).2
      rw [isNotMissing, List.append_nil] at isStrict
      exact absurd rfl isStrict

/-- A value that was read from these bytes can be written, and that is the end of its changes. -/
structure IsStable (value : Value) (used : Bytes) : Prop where
  /-- What is written is read as the value, with binary data in place of every text that is not
  UTF-8, and what follows is left over. -/
  reads : ∀ following, decode (value.encode ++ following) = .ok (value.legible, following)
  settles : value.legible.encode = value.encode
  isShort : value.IsSpelled → value.encode.length ≤ used.length
  part : ∀ part, part <+: used → part ≠ used → ∃ fault, decode part = .error fault

theorem stable_of_decode {input rest : Bytes} {value : Value}
    (isRead : decode input = .ok (value, rest)) :
    ∃ used, input = used ++ rest ∧ value.IsStable used := by
  obtain ⟨used, rfl, isUsed⟩ := decode_eq_ok_iff.mp isRead
  obtain ⟨count, isCount, admits⟩ := yields_read depthLimit _ _ _ isUsed
  refine ⟨used, rfl, ?_, encode_legible value, ?_, ?_⟩
  · exact read_encode_of_isSized admits.fits admits.isSized
  · intro isSpelled
    rw [isCount]
    exact admits.isShort isSpelled
  · exact fun part => exists_fault_of_prefix isUsed

/-- An array whose header fits, with a number in more bytes than it needs and a text that is not
UTF-8, which takes one byte more as binary data; and a byte that is left over. -/
theorem stable_of_wide_number :
    decode [0x92, 0xce, 0, 0, 0, 5, 0xa1, 0xff, 0xc1] =
        .ok (.array [ofUInt64 5, .malformedText [0xff]], [0xc1]) ∧
      (Value.array [ofUInt64 5, .malformedText [0xff]]).encode = [0x92, 5, 0xc4, 1, 0xff] ∧
      ∃ used, [0x92, 0xce, 0, 0, 0, 5, 0xa1, 0xff, 0xc1] = used ++ [0xc1] ∧
        (Value.array [ofUInt64 5, .malformedText [0xff]]).IsStable used := by
  have isRead : decode [0x92, 0xce, 0, 0, 0, 5, 0xa1, 0xff, 0xc1] =
      .ok (.array [ofUInt64 5, .malformedText [0xff]], [0xc1]) := by
    rfl
  exact ⟨isRead, by decide +kernel, stable_of_decode isRead⟩

end Value
end FailoverPool
