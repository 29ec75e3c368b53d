import FailoverPool.Proofs.Value.Reading
import FailoverPool.Proofs.Value.Writing

/-!
A value that is written is read back, whatever follows it.

Three things limit this. Reading has a budget of nesting, on which values of different kinds draw at
different rates (`Value.Fits`); a header has no more than four bytes for a size (`Value.IsSized`);
and a text that is not UTF-8 comes back as binary data (`Value.legible`). Main statement:
`Value.read_encode_of_isSized`.
-/

namespace FailoverPool

theorem Utf8.decode?_encode (text : String) : decode? (encode text) = some text := by
  unfold decode? encode String.fromUTF8?
  simp only [String.toUTF8_eq_toByteArray, Array.toArray_toList]
  exact dif_pos text.isValidUTF8

namespace Value

/-- A budget of nesting that is enough to read the value. -/
inductive Fits : Nat → Value → Prop where
  | nil {budget} : Fits (budget + 1) .nil
  | bool {budget value} : Fits (budget + 1) (.bool value)
  | int {budget integer} : Fits (budget + 1) (.int integer)
  | float32 {budget bits} : Fits (budget + 1) (.float32 bits)
  | float64 {budget bits} : Fits (budget + 1) (.float64 bits)
  | text {budget text} : Fits (budget + 3) (.text text)
  | malformedText {budget bytes} : Fits (budget + 2) (.malformedText bytes)
  | binary {budget bytes} : Fits (budget + 2) (.binary bytes)
  | ext {budget kind bytes} : Fits (budget + 3) (.ext kind bytes)
  | array {budget items} : (∀ item ∈ items, Fits budget item) → Fits (budget + 2) (.array items)
  | map {budget entries} :
      (∀ entry ∈ entries, Fits budget entry.1) → (∀ entry ∈ entries, Fits budget entry.2) →
      Fits (budget + 2) (.map entries)

/-- All data and all containers in the value have sizes of no more than four bytes. -/
inductive IsSized : Value → Prop where
  | nil : IsSized .nil
  | bool {value} : IsSized (.bool value)
  | int {integer} : IsSized (.int integer)
  | float32 {bits} : IsSized (.float32 bits)
  | float64 {bits} : IsSized (.float64 bits)
  | text {text} : (Utf8.encode text).length < 2 ^ (32 : Nat) → IsSized (.text text)
  | malformedText {bytes} : bytes.length < 2 ^ (32 : Nat) → IsSized (.malformedText bytes)
  | binary {bytes} : bytes.length < 2 ^ (32 : Nat) → IsSized (.binary bytes)
  | ext {kind bytes} : bytes.length < 2 ^ (32 : Nat) → IsSized (.ext kind bytes)
  | array {items} : items.length < 2 ^ (32 : Nat) → (∀ item ∈ items, IsSized item) →
      IsSized (.array items)
  | map {entries} : entries.length < 2 ^ (32 : Nat) → (∀ entry ∈ entries, IsSized entry.1) →
      (∀ entry ∈ entries, IsSized entry.2) → IsSized (.map entries)

/-- Every text in the value is UTF-8. -/
inductive IsSpelled : Value → Prop where
  | nil : IsSpelled .nil
  | bool {value} : IsSpelled (.bool value)
  | int {integer} : IsSpelled (.int integer)
  | float32 {bits} : IsSpelled (.float32 bits)
  | float64 {bits} : IsSpelled (.float64 bits)
  | text {text} : IsSpelled (.text text)
  | binary {bytes} : IsSpelled (.binary bytes)
  | ext {kind bytes} : IsSpelled (.ext kind bytes)
  | array {items} : (∀ item ∈ items, IsSpelled item) → IsSpelled (.array items)
  | map {entries} :
      (∀ entry ∈ entries, IsSpelled entry.1) → (∀ entry ∈ entries, IsSpelled entry.2) →
      IsSpelled (.map entries)

mutual

/-- The value with binary data in place of every text that is not UTF-8. -/
def legible : Value → Value
  | .malformedText bytes => .binary bytes
  | .array items => .array (legibleItems items)
  | .map entries => .map (legibleEntries entries)
  | value => value

def legibleItems : List Value → List Value
  | [] => []
  | item :: rest => item.legible :: legibleItems rest

def legibleEntries : List (Value × Value) → List (Value × Value)
  | [] => []
  | (key, value) :: rest => (key.legible, value.legible) :: legibleEntries rest

end

theorem legibleItems_eq (items : List Value) : legibleItems items = items.map legible := by
  induction items with
  | nil => rfl
  | cons item rest inductionHypothesis => rw [legibleItems, inductionHypothesis, List.map_cons]

theorem legibleEntries_eq (entries : List (Value × Value)) :
    legibleEntries entries = entries.map fun entry => (entry.1.legible, entry.2.legible) := by
  induction entries with
  | nil => rfl
  | cons entry rest inductionHypothesis =>
      rw [legibleEntries, inductionHypothesis, List.map_cons]

theorem legible_array (items : List Value) :
    (Value.array items).legible = .array (items.map legible) := by
  rw [legible, legibleItems_eq]

theorem legible_map (entries : List (Value × Value)) : (Value.map entries).legible =
    .map (entries.map fun entry => (entry.1.legible, entry.2.legible)) := by
  rw [legible, legibleEntries_eq]

/-- A value that holds no such text is left as it is. -/
theorem legible_of_isSpelled {value : Value} (isSpelled : value.IsSpelled) :
    value.legible = value := by
  induction isSpelled with
  | nil | bool | int | float32 | float64 | text | binary | ext => rfl
  | array _ inductionHypothesis =>
      rw [legible_array, List.map_congr_left inductionHypothesis, List.map_id']
  | map _ _ ofKeys ofValues =>
      rw [legible_map, List.map_congr_left (g := id), List.map_id]
      exact fun entry isEntry => Prod.ext (ofKeys entry isEntry) (ofValues entry isEntry)

/-- A reader that undoes a writer reads a sequence of what was written. -/
theorem readMany_flatMap {Item Result : Type}
    {readOne : Bytes → Except ReadFault (Result × Bytes)} {write : Item → Bytes}
    {result : Item → Result} {items : List Item}
    (reads : ∀ item ∈ items, ∀ rest, readOne (write item ++ rest) = .ok (result item, rest))
    (reversed : List Result) (rest : Bytes) :
    readMany readOne items.length reversed (items.flatMap write ++ rest) =
      .ok (reversed.reverse ++ items.map result, rest) := by
  induction items generalizing reversed with
  | nil => simp [readMany]
  | cons item later inductionHypothesis =>
      rw [List.forall_mem_cons] at reads
      simp only [List.length_cons, List.flatMap_cons, List.append_assoc, readMany, reads.1]
      rw [inductionHypothesis reads.2]
      simp

theorem readEntry_append {readOne : Bytes → Except ReadFault (Value × Bytes)}
    {keyBytes valueBytes rest : Bytes} {key value : Value}
    (ofKey : readOne (keyBytes ++ (valueBytes ++ rest)) = .ok (key, valueBytes ++ rest))
    (ofValue : readOne (valueBytes ++ rest) = .ok (value, rest)) :
    readEntry readOne (keyBytes ++ valueBytes ++ rest) = .ok ((key, value), rest) := by
  simp only [readEntry, List.append_assoc, ofKey, ofValue, bind, Except.bind, pure, Except.pure]

/-- If all pieces are written, each takes no more than the whole, and there are no more of them
than bytes. -/
theorem length_le_flatMap {Item : Type} {write : Item → Bytes} {items : List Item} {item : Item}
    (isItem : item ∈ items) : (write item).length ≤ (items.flatMap write).length := by
  obtain ⟨earlier, later, rfl⟩ := List.append_of_mem isItem
  simp
  omega

theorem count_le_flatMap {Item : Type} {write : Item → Bytes}
    (isFilled : ∀ item, write item ≠ []) (items : List Item) :
    items.length ≤ (items.flatMap write).length := by
  induction items with
  | nil => exact Nat.zero_le _
  | cons item later inductionHypothesis =>
      have isPositive := List.length_pos_iff.mpr (isFilled item)
      rw [List.flatMap_cons, List.length_append, List.length_cons]
      omega

/-- What is written is read back, and what follows it is left over. -/
theorem read_encode_of_isSized {budget : Nat} {value : Value} (fits : value.Fits budget)
    (isSized : value.IsSized) (rest : Bytes) :
    read budget (value.encode ++ rest) = .ok (value.legible, rest) := by
  induction fits generalizing rest with
  | nil =>
      have isMarker : Marker.ofByte 0xc0 = .nil := rfl
      simp [encode, write, read, isMarker, legible]
  | @bool _ value =>
      have isFalse : Marker.ofByte 0xc2 = .bool false := rfl
      have isTrue : Marker.ofByte 0xc3 = .bool true := rfl
      cases value <;> simp [encode, write, read, isFalse, isTrue, legible]
  | @int _ integer =>
      rw [encode_int]
      exact read_integer integer rest
  | @float32 _ bits =>
      rw [encode_float32]
      exact read_float32 bits rest
  | @float64 _ bits =>
      rw [encode_float64]
      exact read_float64 bits rest
  | @text _ text =>
      cases isSized with
      | text isShort =>
          rw [encode_text, List.append_assoc, read_text isShort, ofTextBytes, Utf8.decode?_encode]
          rfl
  | @malformedText _ bytes =>
      cases isSized with
      | malformedText isShort =>
          rw [encode_malformedText, encode_binary, List.append_assoc, read_binary isShort]
          rfl
  | @binary _ bytes =>
      cases isSized with
      | binary isShort =>
          rw [encode_binary, List.append_assoc, read_binary isShort]
          rfl
  | @ext _ kind bytes =>
      cases isSized with
      | ext isShort =>
          rw [encode_ext, List.append_assoc, read_ext isShort]
          rfl
  | @array budget items _ inductionHypothesis =>
      cases isSized with
      | array isCount areSized =>
          have reads (item) (isItem : item ∈ items) (rest : Bytes) :
              read budget (item.encode ++ rest) = .ok (item.legible, rest) :=
            inductionHypothesis item isItem (areSized item isItem) rest
          have areItems := readMany_flatMap reads [] rest
          rw [encode_array, List.append_assoc, read_array isCount areItems, legible_array]
          rfl
  | @map budget entries _ _ ofKeys ofValues =>
      cases isSized with
      | map isCount areKeysSized areValuesSized =>
          have reads (entry) (isEntry : entry ∈ entries) (rest : Bytes) :
              readEntry (read budget) (encodeEntry entry ++ rest) =
                .ok ((entry.1.legible, entry.2.legible), rest) :=
            readEntry_append (ofKeys entry isEntry (areKeysSized entry isEntry) _)
              (ofValues entry isEntry (areValuesSized entry isEntry) rest)
          have areEntries := readMany_flatMap reads [] rest
          rw [encode_map, List.append_assoc, read_map isCount areEntries, legible_map]
          rfl

/-- What is written in less than 4 GiB holds nothing larger. -/
theorem Fits.isSized {budget : Nat} {value : Value} (fits : value.Fits budget)
    (isShort : value.encode.length < 2 ^ (32 : Nat)) : value.IsSized := by
  induction fits with
  | nil => exact .nil
  | bool => exact .bool
  | int => exact .int
  | float32 => exact .float32
  | float64 => exact .float64
  | text =>
      rw [encode_text, List.length_append] at isShort
      exact .text (by omega)
  | malformedText =>
      rw [encode_malformedText, encode_binary, List.length_append] at isShort
      exact .malformedText (by omega)
  | binary =>
      rw [encode_binary, List.length_append] at isShort
      exact .binary (by omega)
  | ext =>
      rw [encode_ext, List.length_append] at isShort
      exact .ext (by omega)
  | @array _ items _ inductionHypothesis =>
      rw [encode_array, List.length_append] at isShort
      have isCount := count_le_flatMap encode_ne_nil items
      refine .array (by omega) fun item isItem => inductionHypothesis item isItem ?_
      have isPart : item.encode.length ≤ (items.flatMap encode).length := length_le_flatMap isItem
      omega
  | @map _ entries _ _ ofKeys ofValues =>
      rw [encode_map, List.length_append] at isShort
      have isFilled (entry : Value × Value) : encodeEntry entry ≠ [] :=
        List.append_ne_nil_of_left_ne_nil (encode_ne_nil entry.1) _
      have isCount := count_le_flatMap isFilled entries
      have arePartsShort (entry) (isEntry : entry ∈ entries) :
          entry.1.encode.length + entry.2.encode.length < 2 ^ (32 : Nat) := by
        have isPart : (encodeEntry entry).length ≤ (entries.flatMap encodeEntry).length :=
          length_le_flatMap isEntry
        rw [encodeEntry, List.length_append] at isPart
        omega
      refine .map (by omega) (fun entry isEntry => ofKeys entry isEntry ?_)
        fun entry isEntry => ofValues entry isEntry ?_
      all_goals
        have isPart := arePartsShort entry isEntry
        omega

theorem read_encode {budget : Nat} {value : Value} (fits : value.Fits budget)
    (isShort : value.encode.length < 2 ^ (32 : Nat)) (rest : Bytes) :
    read budget (value.encode ++ rest) = .ok (value.legible, rest) :=
  read_encode_of_isSized fits (fits.isSized isShort) rest

end Value
end FailoverPool
