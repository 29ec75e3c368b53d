import FailoverPool.Value.Sequence

/-!
Reading a value looks at the bytes of the value, and at nothing behind them.

A reader that succeeds has used up some bytes and given back the rest; with anything else behind
those bytes it reads the same (`IsLocal`). Readers one after the other keep this, so that it passes
from numbers and data to items, entries and values. Main statement: `decode_eq_ok_iff`.
-/

namespace FailoverPool
namespace Value

/-- The reader reads the same from the bytes that it uses up, whatever is behind them. -/
def IsLocal {Result : Type} (readOne : Bytes → Except ReadFault (Result × Bytes)) : Prop :=
  ∀ input result rest, readOne input = .ok (result, rest) →
    ∃ used, input = used ++ rest ∧ ∀ other, readOne (used ++ other) = .ok (result, other)

namespace IsLocal

variable {First Result : Type}

theorem ok (result : Result) : IsLocal fun input => .ok (result, input) := by
  rintro input _ _ ⟨⟩
  exact ⟨[], rfl, fun _ => rfl⟩

theorem error (fault : ReadFault) :
    IsLocal fun _ => (.error fault : Except _ (Result × Bytes)) := by
  rintro _ _ _ ⟨⟩

/-- One reader goes on with what the other gives back. -/
theorem bind {first : Bytes → Except ReadFault (First × Bytes)}
    (next : First → Bytes → Except ReadFault (Result × Bytes)) (isLocal : IsLocal first)
    (areLocal : ∀ value, IsLocal (next value)) :
    IsLocal fun input => first input >>= fun (value, rest) => next value rest := by
  intro input result rest isRead
  obtain ⟨value, between, isFirst, isNext⟩ := ok_of_bind isRead
  obtain ⟨used, rfl, firstAgain⟩ := isLocal _ _ _ isFirst
  obtain ⟨later, rfl, nextAgain⟩ := areLocal value _ _ _ isNext
  refine ⟨used ++ later, (List.append_assoc ..).symm, fun other => ?_⟩
  dsimp only
  rw [List.append_assoc, firstAgain]
  exact nextAgain other

theorem map {first : Bytes → Except ReadFault (First × Bytes)} (make : First → Result)
    (isLocal : IsLocal first) :
    IsLocal fun input => first input >>= fun (value, rest) => pure (make value, rest) :=
  isLocal.bind (fun value rest => .ok (make value, rest)) fun value => .ok (make value)

theorem readNumber (width : Nat) : IsLocal (Value.readNumber width) := by
  intro input number rest isRead
  unfold Value.readNumber at isRead
  dsimp only at isRead
  split at isRead
  · next isLong =>
    cases isRead
    refine ⟨input.take width, (List.take_append_drop ..).symm, fun other => ?_⟩
    rw [Value.readNumber, List.take_left' isLong, List.drop_left' isLong, if_pos isLong]
  · cases isRead

theorem readData (budget size : Nat) : IsLocal (Value.readData budget size) := by
  cases budget with
  | zero => exact error .tooDeep
  | succ budget =>
      intro input data rest isRead
      simp only [Value.readData] at isRead
      split at isRead
      · next isLong =>
        cases isRead
        refine ⟨input.take size, (List.take_append_drop ..).symm, fun other => ?_⟩
        simp only [Value.readData]
        rw [List.take_left' isLong, List.drop_left' isLong, if_pos isLong]
      · cases isRead

theorem readText (budget size : Nat) : IsLocal (Value.readText budget size) := by
  cases budget with
  | zero => exact error .tooDeep
  | succ budget => exact (readData budget size).map ofTextBytes

theorem readExt (budget size : Nat) : IsLocal (Value.readExt budget size) := by
  cases budget with
  | zero => exact error .tooDeep
  | succ budget =>
      exact (readNumber 1).bind _ fun kind =>
        (readData budget size).map fun data => Value.ext (UInt8.ofNat kind).toInt8 data

variable {readOne : Bytes → Except ReadFault (Result × Bytes)}

theorem readMany (isLocal : IsLocal readOne) (count : Nat) (reversed : List Result) :
    IsLocal (Value.readMany readOne count reversed) := by
  induction count generalizing reversed with
  | zero => exact ok reversed.reverse
  | succ count inductionHypothesis =>
      have inTurn : Value.readMany readOne (count + 1) reversed = fun input =>
          readOne input >>= fun (result, rest) =>
            Value.readMany readOne count (result :: reversed) rest := by
        funext input
        rw [Value.readMany]
        cases readOne input <;> rfl
      rw [inTurn]
      exact isLocal.bind _ fun result => inductionHypothesis (result :: reversed)

theorem readEntry {readOne : Bytes → Except ReadFault (Value × Bytes)} (isLocal : IsLocal readOne) :
    IsLocal (Value.readEntry readOne) :=
  isLocal.bind _ fun key => isLocal.map fun value => (key, value)

/-- What a container holds is read with the budget that the container leaves. -/
theorem container {Item : Type} {readItem : Nat → Bytes → Except ReadFault (Item × Bytes)}
    (make : List Item → Value) (budget size : Nat) :
    (∀ smaller < budget, IsLocal (readItem smaller)) → IsLocal fun input => (match budget with
      | 0 => .error .tooDeep
      | budget + 1 => do
          let (items, rest) ← Value.readMany (readItem budget) size [] input
          return (make items, rest) : Except ReadFault (Value × Bytes)) := by
  intro areLocal
  cases budget with
  | zero => exact .error .tooDeep
  | succ budget => exact ((areLocal budget (Nat.lt_succ_self _)).readMany size []).map make

end IsLocal

/-- What the first byte announces is read from the bytes behind it. -/
theorem isLocal_announced {budget : Nat} (areLocal : ∀ smaller < budget, IsLocal (read smaller))
    (first : UInt8) : IsLocal fun input => read (budget + 1) (first :: input) := by
  have areEntriesLocal : ∀ smaller < budget, IsLocal (readEntry (read smaller)) :=
    fun smaller isSmaller => (areLocal smaller isSmaller).readEntry
  simp only [read]
  cases Marker.ofByte first with
  | nil | reserved => exact .ok Value.nil
  | bool value => exact .ok (Value.bool value)
  | smallUnsigned value => exact .ok (ofUInt64 value.toUInt64)
  | smallNegative value => exact .ok (signedOf 1 value.toNat)
  | unsigned width => exact (IsLocal.readNumber width).map fun number => ofUInt64 (.ofNat number)
  | signed width => exact (IsLocal.readNumber width).map (signedOf width)
  | float32 => exact (IsLocal.readNumber 4).map fun number => Value.float32 (.ofNat number)
  | float64 => exact (IsLocal.readNumber 8).map fun number => Value.float64 (.ofNat number)
  | smallText size => exact .readText budget size.toNat
  | text width => exact (IsLocal.readNumber width).bind _ (.readText budget)
  | binary width =>
      exact (IsLocal.readNumber width).bind _ fun size =>
        (IsLocal.readData budget size).map Value.binary
  | smallArray size => exact .container Value.array budget size.toNat areLocal
  | array width =>
      exact (IsLocal.readNumber width).bind _ fun size =>
        .container Value.array budget size areLocal
  | smallMap size => exact .container Value.map budget size.toNat areEntriesLocal
  | map width =>
      exact (IsLocal.readNumber width).bind _ fun size =>
        .container Value.map budget size areEntriesLocal
  | fixedExt size => exact .readExt budget size
  | ext width => exact (IsLocal.readNumber width).bind _ (.readExt budget)

theorem isLocal_read (budget : Nat) : IsLocal (read budget) := by
  induction budget using Nat.strongRecOn with
  | ind budget inductionHypothesis =>
      cases budget with
      | zero => exact .error .tooDeep
      | succ budget =>
          have areLocal : ∀ smaller < budget, IsLocal (read smaller) :=
            fun smaller isSmaller => inductionHypothesis smaller (Nat.lt_succ_of_lt isSmaller)
          intro input value rest isRead
          cases input with
          | nil => cases isRead
          | cons first input =>
              obtain ⟨used, rfl, again⟩ := isLocal_announced areLocal first _ _ _ isRead
              exact ⟨first :: used, rfl, again⟩

/-- A value is read from its own bytes. -/
theorem decode_eq_ok_iff {input rest : Bytes} {value : Value} :
    decode input = .ok (value, rest) ↔
      ∃ used, input = used ++ rest ∧ decode used = .ok (value, []) := by
  have isLocal : IsLocal decode := isLocal_read depthLimit
  constructor
  · intro isRead
    obtain ⟨used, rfl, again⟩ := isLocal _ _ _ isRead
    have alone := again []
    rw [List.append_nil] at alone
    exact ⟨used, rfl, alone⟩
  · rintro ⟨_, rfl, alone⟩
    obtain ⟨used, isUsed, again⟩ := isLocal _ _ _ alone
    rw [List.append_nil] at isUsed
    exact isUsed ▸ again rest

theorem decode_append {bytes : Bytes} {value : Value} (isRead : decode bytes = .ok (value, []))
    (rest : Bytes) : decode (bytes ++ rest) = .ok (value, rest) :=
  decode_eq_ok_iff.mpr ⟨bytes, rfl, isRead⟩

end Value
end FailoverPool
