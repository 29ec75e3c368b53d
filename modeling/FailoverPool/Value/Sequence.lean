import FailoverPool.Value.Reader

/-!
Values one behind the other.

Reading a value takes at least its first byte, `length_lt_of_decode`, so a sequence of values ends.
-/

namespace FailoverPool
namespace Value

theorem ok_of_bind {First Result : Type} {first : Except ReadFault (First × Bytes)}
    {next : First × Bytes → Except ReadFault Result} {result : Result}
    (succeeds : first >>= next = .ok result) :
    ∃ value rest, first = .ok (value, rest) ∧ next (value, rest) = .ok result := by
  cases first with
  | error fault => simp [bind, Except.bind] at succeeds
  | ok found => exact ⟨found.1, found.2, rfl, succeeds⟩

theorem length_le_of_readNumber {width number : Nat} {input rest : Bytes}
    (isRead : readNumber width input = .ok (number, rest)) : rest.length ≤ input.length := by
  simp only [readNumber] at isRead
  split at isRead
  · cases isRead
    simp
  · cases isRead

theorem length_le_of_readData {budget size : Nat} {input data rest : Bytes}
    (isRead : readData budget size input = .ok (data, rest)) : rest.length ≤ input.length := by
  cases budget with
  | zero => cases isRead
  | succ budget =>
      simp only [readData] at isRead
      split at isRead
      · cases isRead
        simp
      · cases isRead

theorem length_le_of_readText {budget size : Nat} {input rest : Bytes} {value : Value}
    (isRead : readText budget size input = .ok (value, rest)) : rest.length ≤ input.length := by
  cases budget with
  | zero => cases isRead
  | succ budget =>
      obtain ⟨data, later, dataRead, done⟩ := ok_of_bind isRead
      cases done
      exact length_le_of_readData dataRead

theorem length_le_of_readExt {budget size : Nat} {input rest : Bytes} {value : Value}
    (isRead : readExt budget size input = .ok (value, rest)) : rest.length ≤ input.length := by
  cases budget with
  | zero => cases isRead
  | succ budget =>
      obtain ⟨kind, later, kindRead, isRead⟩ := ok_of_bind isRead
      obtain ⟨data, last, dataRead, done⟩ := ok_of_bind isRead
      cases done
      exact Nat.le_trans (length_le_of_readData dataRead) (length_le_of_readNumber kindRead)

/-- A reader gives back no more than it was given. -/
def Shrinking {Result : Type} (readOne : Bytes → Except ReadFault (Result × Bytes)) : Prop :=
  ∀ input result rest, readOne input = .ok (result, rest) → rest.length ≤ input.length

theorem Shrinking.readMany {Result : Type} {readOne : Bytes → Except ReadFault (Result × Bytes)}
    (shrinking : Shrinking readOne) (count : Nat) (reversed : List Result) :
    Shrinking (Value.readMany readOne count reversed) := by
  intro input results rest isRead
  induction count generalizing reversed input with
  | zero =>
      cases isRead
      exact Nat.le_refl _
  | succ count inductionHypothesis =>
      simp only [Value.readMany] at isRead
      split at isRead
      · cases isRead
      · rename_i result later firstRead
        exact Nat.le_trans (inductionHypothesis _ _ isRead) (shrinking _ _ _ firstRead)

theorem Shrinking.readEntry {readOne : Bytes → Except ReadFault (Value × Bytes)}
    (shrinking : Shrinking readOne) : Shrinking (Value.readEntry readOne) := by
  intro input entry rest isRead
  obtain ⟨key, later, keyRead, isRead⟩ := ok_of_bind isRead
  obtain ⟨value, last, valueRead, done⟩ := ok_of_bind isRead
  cases done
  exact Nat.le_trans (shrinking _ _ _ valueRead) (shrinking _ _ _ keyRead)

/-- Items are read by a reader of values with the budget that is left for each of them. -/
theorem length_le_of_readItems {budget size : Nat} {input rest : Bytes} {value : Value}
    (isRead : (match budget with
      | 0 => .error .tooDeep
      | budget + 1 => do
          let (items, rest) ← readMany (read budget) size [] input
          return (.array items, rest) : Except ReadFault (Value × Bytes)) = .ok (value, rest))
    (shrinking : ∀ smaller < budget, Shrinking (read smaller)) : rest.length ≤ input.length := by
  cases budget with
  | zero => cases isRead
  | succ budget =>
      obtain ⟨items, later, itemsRead, done⟩ := ok_of_bind isRead
      cases done
      exact (shrinking budget (Nat.lt_succ_self _)).readMany size [] _ _ _ itemsRead

/-- Entries are read like items, two values each. -/
theorem length_le_of_readEntries {budget size : Nat} {input rest : Bytes} {value : Value}
    (isRead : (match budget with
      | 0 => .error .tooDeep
      | budget + 1 => do
          let (entries, rest) ← readMany (readEntry (read budget)) size [] input
          return (.map entries, rest) : Except ReadFault (Value × Bytes)) = .ok (value, rest))
    (shrinking : ∀ smaller < budget, Shrinking (read smaller)) : rest.length ≤ input.length := by
  cases budget with
  | zero => cases isRead
  | succ budget =>
      obtain ⟨entries, later, entriesRead, done⟩ := ok_of_bind isRead
      cases done
      exact (shrinking budget (Nat.lt_succ_self _)).readEntry.readMany size [] _ _ _ entriesRead

/-- Reading a value takes its first byte at least. -/
theorem length_lt_of_read {budget : Nat} {input rest : Bytes} {value : Value}
    (isRead : read budget input = .ok (value, rest)) : rest.length < input.length := by
  induction budget using Nat.strongRecOn generalizing input value rest with
  | ind budget inductionHypothesis =>
      match budget, input with
      | 0, _ => cases isRead
      | _ + 1, [] => cases isRead
      | budget + 1, first :: input =>
          have shrinking : ∀ smaller < budget, Shrinking (read smaller) :=
            fun smaller isSmaller _ _ _ itemRead =>
              Nat.le_of_lt (inductionHypothesis smaller (Nat.lt_succ_of_lt isSmaller) itemRead)
          apply Nat.lt_succ_of_le
          rw [read] at isRead
          split at isRead
          case h_1 | h_2 | h_3 | h_4 | h_5 =>
            cases isRead
            exact Nat.le_refl _
          case h_6 | h_7 | h_8 | h_9 =>
            obtain ⟨number, later, numberRead, done⟩ := ok_of_bind isRead
            cases done
            exact length_le_of_readNumber numberRead
          case h_10 => exact length_le_of_readText isRead
          case h_11 =>
            obtain ⟨size, later, sizeRead, isRead⟩ := ok_of_bind isRead
            exact Nat.le_trans (length_le_of_readText isRead) (length_le_of_readNumber sizeRead)
          case h_12 =>
            obtain ⟨size, later, sizeRead, isRead⟩ := ok_of_bind isRead
            obtain ⟨data, last, dataRead, done⟩ := ok_of_bind isRead
            cases done
            exact Nat.le_trans (length_le_of_readData dataRead) (length_le_of_readNumber sizeRead)
          case h_13 => exact length_le_of_readItems isRead shrinking
          case h_14 =>
            obtain ⟨size, later, sizeRead, isRead⟩ := ok_of_bind isRead
            exact Nat.le_trans (length_le_of_readItems isRead shrinking)
              (length_le_of_readNumber sizeRead)
          case h_15 => exact length_le_of_readEntries isRead shrinking
          case h_16 =>
            obtain ⟨size, later, sizeRead, isRead⟩ := ok_of_bind isRead
            exact Nat.le_trans (length_le_of_readEntries isRead shrinking)
              (length_le_of_readNumber sizeRead)
          case h_17 => exact length_le_of_readExt isRead
          case h_18 =>
            obtain ⟨size, later, sizeRead, isRead⟩ := ok_of_bind isRead
            exact Nat.le_trans (length_le_of_readExt isRead) (length_le_of_readNumber sizeRead)

theorem length_lt_of_decode {input rest : Bytes} {value : Value}
    (isRead : decode input = .ok (value, rest)) : rest.length < input.length :=
  length_lt_of_read isRead

/-- All values of a byte string, each with the number of bytes after it, and the fault at which
reading stopped before the bytes ran out. -/
def decodeAll (input : Bytes) : List (Value × Nat) × Option ReadFault :=
  if input.isEmpty then ([], none)
  else
    match isRead : decode input with
    | .error fault => ([], some fault)
    | .ok (value, rest) =>
        have : rest.length < input.length := length_lt_of_decode isRead
        let (later, fault) := decodeAll rest
        ((value, rest.length) :: later, fault)
termination_by input.length

end Value
end FailoverPool
