import FailoverPool.Proofs.Chaining
import FailoverPool.Text.Base64
import Mathlib.Tactic.Ring
import Mathlib.Tactic.Positivity

/-!
The texts that are Base64 are the writings of byte strings, and nothing else.

Bytes are written in groups of three, each as four signs of the alphabet. A last group of one or two
bytes has zero bits behind its last byte, and padding in the place of the signs that it lacks. A
reader accepts the writing of each byte string, and refuses every other text: other padding, stray
bits, a sign outside the alphabet. Main statement: `Base64.decode_eq_ok_iff`.
-/

namespace FailoverPool

namespace Base64

def alphabet : Bytes :=
  "ABCDEFGHIJKLMNOPQRSTUVWXYZabcdefghijklmnopqrstuvwxyz0123456789+/".toUTF8.data.toList

/-- The sign that stands for six bits. -/
def sign (sextet : Nat) : UInt8 := alphabet.getD sextet pad

/-- The low sextets of a number, most significant first. -/
def sextets : (count value : Nat) → List Nat
  | 0, _ => []
  | count + 1, value => value / 64 ^ count % 64 :: sextets count value

/-- The number that sextets spell, most significant sextet first. -/
def pack (sextets : List Nat) : Nat := sextets.foldl (fun value sextet => value * 64 + sextet) 0

/-- One to three bytes, written as four signs. -/
def group (bytes : Bytes) : Bytes :=
  let count := bytes.length + 1
  (sextets count (BigEndian.toNat bytes * 2 ^ (count * 6 % 8))).map sign ++
    List.replicate (4 - count) pad

/-- The text that bytes are written as. -/
def encode : Bytes → Bytes
  | first :: second :: third :: rest => group [first, second, third] ++ encode rest
  | [] => []
  | last => group last

example : encode (List.replicate 4 0x66) = "ZmZmZg==".toUTF8.data.toList := by decide +kernel

theorem sextet?_sign {value : Nat} (isSextet : value < 64) : sextet? (sign value) = some value := by
  revert value
  decide +kernel

theorem sign_ne_pad {value : Nat} (isSextet : value < 64) : sign value ≠ pad := by
  revert value
  decide +kernel

theorem eq_sign_of_sextet? {byte : UInt8} {value : Nat} (isSextet : sextet? byte = some value) :
    value < 64 ∧ byte = sign value := by
  have isKnown : (sextet? byte).all (fun found => found < 64 && byte == sign found) = true := by
    -- There are no more than 256 bytes.
    cases byte with
    | ofBitVec bits =>
        cases bits with
        | ofFin number =>
            clear isSextet
            revert number
            decide +kernel
  simpa [isSextet] using isKnown

theorem sextet_eq_ok_iff {byte : UInt8} {offset value : Nat} :
    sextet byte offset = .ok value ↔ value < 64 ∧ byte = sign value := by
  constructor
  · intro isRead
    unfold sextet at isRead
    split at isRead
    · next isSextet =>
      cases isRead
      exact eq_sign_of_sextet? isSextet
    · cases isRead
  · rintro ⟨isSextet, rfl⟩
    simp [sextet, sextet?_sign isSextet]

theorem length_sextets (count value : Nat) : (sextets count value).length = count := by
  induction count with
  | zero => rfl
  | succ count inductionHypothesis => simp [sextets, inductionHypothesis]

theorem lt_of_mem_sextets {count value sextet : Nat} (isSextet : sextet ∈ sextets count value) :
    sextet < 64 := by
  induction count with
  | zero => simp [sextets] at isSextet
  | succ count inductionHypothesis =>
      rcases List.mem_cons.mp isSextet with rfl | isLater
      · exact Nat.mod_lt _ (by decide)
      · exact inductionHypothesis isLater

theorem pack_cons (first : Nat) (rest : List Nat) :
    pack (first :: rest) = first * 64 ^ rest.length + pack rest := by
  have shifted (start : Nat) : rest.foldl (fun value sextet => value * 64 + sextet) start =
      start * 64 ^ rest.length + pack rest := by
    induction rest generalizing start with
    | nil => simp [pack]
    | cons next later inductionHypothesis =>
        simp only [pack, List.foldl_cons, List.length_cons]
        rw [inductionHypothesis, inductionHypothesis (0 * 64 + next), Nat.pow_succ]
        ring
  simpa [pack] using shifted first

theorem pack_lt {found : List Nat} (areSextets : ∀ sextet ∈ found, sextet < 64) :
    pack found < 64 ^ found.length := by
  induction found with
  | nil => simp [pack]
  | cons first rest inductionHypothesis =>
      obtain ⟨isSextet, areLater⟩ := List.forall_mem_cons.mp areSextets
      rw [pack_cons, List.length_cons, Nat.pow_succ]
      calc first * 64 ^ rest.length + pack rest
          < first * 64 ^ rest.length + 64 ^ rest.length := by
            simpa using inductionHypothesis areLater
        _ = (first + 1) * 64 ^ rest.length := by ring
        _ ≤ 64 * 64 ^ rest.length := Nat.mul_le_mul_right _ isSextet
        _ = 64 ^ rest.length * 64 := Nat.mul_comm ..

theorem pack_sextets (count value : Nat) : pack (sextets count value) = value % 64 ^ count := by
  induction count with
  | zero => simp [sextets, pack, Nat.mod_one]
  | succ count inductionHypothesis =>
      rw [sextets, pack_cons, length_sextets, inductionHypothesis, Nat.pow_succ,
        Nat.mod_mul (x := value)]
      ring

theorem sextets_pack {found : List Nat} (areSextets : ∀ sextet ∈ found, sextet < 64) :
    sextets found.length (pack found) = found := by
  suffices general : ∀ carry,
      sextets found.length (carry * 64 ^ found.length + pack found) = found by
    simpa using general 0
  induction found with
  | nil => intro carry; rfl
  | cons first rest inductionHypothesis =>
      intro carry
      obtain ⟨isSextet, areLater⟩ := List.forall_mem_cons.mp areSextets
      have regrouped : carry * 64 ^ (rest.length + 1) + pack (first :: rest) =
          (carry * 64 + first) * 64 ^ rest.length + pack rest := by
        rw [pack_cons, Nat.pow_succ]
        ring
      have highest : ((carry * 64 + first) * 64 ^ rest.length + pack rest) / 64 ^ rest.length % 64 =
          first := by
        rw [Nat.add_comm, Nat.add_mul_div_right _ _ (by positivity),
          Nat.div_eq_of_lt (pack_lt areLater)]
        omega
      rw [List.length_cons, regrouped, sextets, highest, inductionHypothesis areLater]

/-- The sextets of a group hold the bits of its bytes and the zero bits behind them. -/
theorem pow_sextets {size : Nat} (isGroup : 1 ≤ size ∧ size ≤ 3) :
    64 ^ (size + 1) = 256 ^ size * 2 ^ ((size + 1) * 6 % 8) := by
  obtain rfl | rfl | rfl : size = 1 ∨ size = 2 ∨ size = 3 := by omega
  all_goals rfl

/-- All whole bytes among these bits are bytes of the group. -/
theorem width_group {size : Nat} (isGroup : 1 ≤ size ∧ size ≤ 3) : (size + 1) * 6 / 8 = size := by
  omega

theorem length_group {bytes : Bytes} (isGroup : 1 ≤ bytes.length ∧ bytes.length ≤ 3) :
    (group bytes).length = 4 := by
  simp only [group, List.length_append, List.length_map, length_sextets, List.length_replicate]
  omega

theorem pack_group {bytes : Bytes} (isGroup : 1 ≤ bytes.length ∧ bytes.length ≤ 3) :
    pack (sextets (bytes.length + 1)
      (BigEndian.toNat bytes * 2 ^ ((bytes.length + 1) * 6 % 8))) =
        BigEndian.toNat bytes * 2 ^ ((bytes.length + 1) * 6 % 8) := by
  rw [pack_sextets, pow_sextets isGroup]
  apply Nat.mod_eq_of_lt
  exact Nat.mul_lt_mul_of_pos_right (BigEndian.toNat_lt bytes) (by positivity)

/-- Reading a group gives its bytes. -/
theorem bytesOf_pack_group {bytes : Bytes} (isGroup : 1 ≤ bytes.length ∧ bytes.length ≤ 3) :
    bytesOf (bytes.length + 1) (BigEndian.toNat bytes * 2 ^ ((bytes.length + 1) * 6 % 8)) =
      bytes := by
  rw [bytesOf, width_group isGroup, Nat.mul_div_cancel _ (by positivity), BigEndian.encode_toNat]

/-- Sextets without stray bits are those of the bytes that they are read as. -/
theorem group_bytesOf {found : List Nat} (areSextets : ∀ sextet ∈ found, sextet < 64)
    {size : Nat} (isGroup : 1 ≤ size ∧ size ≤ 3) (isSize : found.length = size + 1)
    (isClean : pack found % 2 ^ (found.length * 6 % 8) = 0) :
    (bytesOf found.length (pack found)).length = size ∧
      group (bytesOf found.length (pack found)) =
        found.map sign ++ List.replicate (4 - found.length) pad := by
  have isWidth := width_group isGroup
  have isLength : (bytesOf found.length (pack found)).length = size := by
    rw [bytesOf, BigEndian.length_encode, isSize, isWidth]
  refine ⟨isLength, ?_⟩
  have isBounded := pack_lt areSextets
  rw [isSize] at isBounded isClean
  have isValue : BigEndian.toNat (bytesOf found.length (pack found)) * 2 ^ ((size + 1) * 6 % 8) =
      pack found := by
    rw [pow_sextets isGroup, Nat.mul_comm] at isBounded
    rw [bytesOf, isSize, BigEndian.toNat_encode, isWidth,
      Nat.mod_eq_of_lt (Nat.div_lt_of_lt_mul isBounded)]
    exact Nat.div_mul_cancel (Nat.dvd_of_mod_eq_zero isClean)
  simp only [group, isLength, isValue]
  rw [← isSize, sextets_pack areSextets]

variable {tail found : Tail} {start offset : Nat} {signs : Bytes}

/-- Signs are taken up one by one as long as there was no padding. -/
theorem readTail_signs (tail : Tail) (start offset : Nat) (isOpen : tail.padding = [])
    {values : List Nat} (areSextets : ∀ value ∈ values, value < 64) (rest : Bytes) :
    ∃ last, readTail tail start offset (values.map sign ++ rest) =
      readTail { tail with sextets := tail.sextets ++ values, lastSymbol := last } start
        (offset + values.length) rest := by
  induction values generalizing tail offset with
  | nil => exact ⟨tail.lastSymbol, by simp⟩
  | cons value later inductionHypothesis =>
      obtain ⟨isSextet, areLater⟩ := List.forall_mem_cons.mp areSextets
      have isRead : sextet (sign value) offset = .ok value :=
        sextet_eq_ok_iff.mpr ⟨isSextet, rfl⟩
      obtain ⟨last, isLast⟩ := inductionHypothesis
        { tail with sextets := tail.sextets ++ [value], lastSymbol := sign value } (offset + 1)
        isOpen areLater
      refine ⟨last, ?_⟩
      rw [List.map_cons, List.cons_append, readTail, if_neg (sign_ne_pad isSextet)]
      simp only [isOpen, isRead] at isLast ⊢
      rw [isLast]
      simp [Nat.add_assoc, Nat.add_comm 1]

theorem readTail_padding (tail : Tail) (isPast : start + 2 ≤ offset) (count : Nat) :
    ∃ padding, padding.length = tail.padding.length + count ∧
      readTail tail start offset (List.replicate count pad) = .ok { tail with padding } := by
  induction count generalizing tail offset with
  | zero => exact ⟨tail.padding, rfl, rfl⟩
  | succ count inductionHypothesis =>
      obtain ⟨padding, isLength, isRead⟩ := inductionHypothesis
        { tail with padding := tail.padding ++ [offset] } (Nat.le_succ_of_le isPast)
      refine ⟨padding, by simpa [Nat.add_assoc, Nat.add_comm 1] using isLength, ?_⟩
      rw [List.replicate_succ, readTail, if_pos rfl, if_neg (by omega), isRead]

/-- What is read as the last signs is signs and then padding. -/
theorem exists_of_readTail (isRead : readTail tail start offset signs = .ok found) :
    ∃ values count, signs = values.map sign ++ List.replicate count pad ∧
      (∀ value ∈ values, value < 64) ∧ (tail.padding = [] ∨ values = []) ∧
      found.sextets = tail.sextets ++ values ∧
      found.padding.length = tail.padding.length + count := by
  induction signs generalizing tail offset with
  | nil =>
      cases isRead
      exact ⟨[], 0, rfl, nofun, .inr rfl, by simp, rfl⟩
  | cons byte rest inductionHypothesis =>
      rw [readTail] at isRead
      split at isRead
      · next isPad =>
        split at isRead
        · cases isRead
        · obtain ⟨values, count, rfl, areSextets, isPadded, isFound, isLength⟩ :=
            inductionHypothesis isRead
          obtain rfl : values = [] := by simpa using isPadded
          refine ⟨[], count + 1, by simp [isPad, List.replicate_succ], nofun, .inr rfl, isFound, ?_⟩
          simpa [Nat.add_assoc, Nat.add_comm 1] using isLength
      · split at isRead
        · cases isRead
        · next isOpen =>
          split at isRead
          · cases isRead
          · next value isValue =>
            obtain ⟨values, count, rfl, areSextets, _, isFound, isLength⟩ :=
              inductionHypothesis isRead
            obtain ⟨isSextet, rfl⟩ := sextet_eq_ok_iff.mp isValue
            refine ⟨value :: values, count, rfl, ?_, .inl isOpen, by simpa using isFound, isLength⟩
            exact List.forall_mem_cons.mpr ⟨isSextet, areSextets⟩

theorem decodeTail_group {bytes : Bytes} (isGroup : 1 ≤ bytes.length ∧ bytes.length ≤ 3) :
    decodeTail start (group bytes) = .ok bytes := by
  let values := sextets (bytes.length + 1)
    (BigEndian.toNat bytes * 2 ^ ((bytes.length + 1) * 6 % 8))
  have isCount : values.length = bytes.length + 1 := length_sextets _ _
  have isPacked : values.foldl (fun value sextet => value * 64 + sextet) 0 =
      BigEndian.toNat bytes * 2 ^ ((bytes.length + 1) * 6 % 8) := pack_group isGroup
  have areSextets : ∀ value ∈ values, value < 64 := fun _ => lt_of_mem_sextets
  have isPast : start + 2 ≤ start + values.length := by omega
  obtain ⟨last, signsRead⟩ := readTail_signs ⟨[], 0, []⟩ start start rfl areSextets
    (List.replicate (4 - (bytes.length + 1)) pad)
  obtain ⟨padding, isLength, paddingRead⟩ := readTail_padding ⟨[] ++ values, last, []⟩ isPast
    (4 - (bytes.length + 1))
  have isRead : readTail ⟨[], 0, []⟩ start start (group bytes) = .ok ⟨values, last, padding⟩ :=
    signsRead.trans paddingRead
  have isFull : (values.length + padding.length) % 4 = 0 := by
    rw [isLength, isCount, List.length_nil]
    omega
  simp only [decodeTail, isRead, isPacked, isFull, length_group isGroup]
  simp [isCount, bytesOf_pack_group isGroup, show ¬ bytes.length + 1 < 2 by omega]

/-- The last signs of a text are read as no bytes, or they are a group. -/
theorem eq_group_of_decodeTail {bytes : Bytes} (isRead : decodeTail start signs = .ok bytes)
    (isShort : signs.length ≤ 4) :
    signs = [] ∧ bytes = [] ∨
      (1 ≤ bytes.length ∧ bytes.length ≤ 3) ∧ signs = group bytes := by
  unfold decodeTail at isRead
  split at isRead
  · cases isRead
  · next tail tailRead =>
    obtain ⟨values, count, rfl, areSextets, _, isFound, isLength⟩ := exists_of_readTail tailRead
    simp only [List.nil_append, List.length_nil, Nat.zero_add] at isFound isLength
    simp only [isFound, isLength, List.length_append, List.length_map, List.length_replicate]
      at isRead isShort
    split at isRead
    · cases isRead
    · next isEnough =>
      split at isRead
      · cases isRead
      · next isFull =>
        split at isRead
        · cases isRead
        · next isClean =>
          cases isRead
          simp only [Bool.and_eq_true, decide_eq_true_eq, not_and, Nat.not_lt] at isEnough
          rcases Nat.eq_zero_or_pos (values.length + count) with isEmpty | isFilled
          · obtain ⟨noValues, noPadding⟩ := Nat.add_eq_zero_iff.mp isEmpty
            obtain rfl := List.length_eq_zero_iff.mp noValues
            subst noPadding
            exact .inl ⟨rfl, rfl⟩
          · have isCount : count = 4 - values.length := by omega
            have isSize : values.length = values.length - 1 + 1 := by omega
            obtain ⟨isGroupSize, isGroup⟩ := group_bytesOf areSextets
              (by omega) isSize (Decidable.of_not_not isClean)
            refine .inr ⟨?_, ?_⟩
            · show 1 ≤ (bytesOf values.length (pack values)).length ∧
                (bytesOf values.length (pack values)).length ≤ 3
              rw [isGroupSize]
              omega
            · exact isCount ▸ isGroup.symm

theorem encode_eq_group {bytes : Bytes} (isGroup : 1 ≤ bytes.length ∧ bytes.length ≤ 3) :
    encode bytes = group bytes := by
  match bytes with
  | [] | _ :: _ :: _ :: _ :: _ =>
      simp only [List.length_cons, List.length_nil] at isGroup
      omega
  | [_] | [_, _] => rfl
  | [_, _, _] => simp [encode]

theorem decodeGroups_of_length_le (isShort : signs.length ≤ 4) :
    decodeGroups offset signs = decodeTail offset signs := by
  match signs with
  | [] | [_] | [_, _] | [_, _, _] | [_, _, _, _] => rfl
  | _ :: _ :: _ :: _ :: _ :: _ =>
      simp only [List.length_cons] at isShort
      omega

/-- Four signs that others follow are read as three bytes. -/
theorem decodeGroups_signs {values : List Nat} (areSextets : ∀ value ∈ values, value < 64)
    (isFull : values.length = 4) {rest : Bytes} (isFollowed : rest ≠ []) :
    decodeGroups offset (values.map sign ++ rest) =
      (decodeGroups (offset + 4) rest).map (bytesOf 4 (pack values) ++ ·) := by
  obtain ⟨next, later, rfl⟩ := List.exists_cons_of_ne_nil isFollowed
  match values with
  | [first, second, third, fourth] =>
      have isRead {value place : Nat} (isValue : value ∈ [first, second, third, fourth]) :
          sextet (sign value) place = .ok value := sextet_eq_ok_iff.mpr ⟨areSextets _ isValue, rfl⟩
      simp only [List.map_cons, List.map_nil, List.cons_append, List.nil_append, decodeGroups]
      rw [isRead (by simp), isRead (by simp), isRead (by simp), isRead (by simp)]
      cases decodeGroups (offset + 4) (next :: later) <;> simp [pack] <;> rfl

theorem exists_of_decodeGroups {first second third fourth : UInt8} {rest bytes : Bytes}
    (isFollowed : rest ≠ [])
    (isRead : decodeGroups offset (first :: second :: third :: fourth :: rest) = .ok bytes) :
    ∃ values later, (∀ value ∈ values, value < 64) ∧ values.length = 4 ∧
      [first, second, third, fourth] = values.map sign ∧
      decodeGroups (offset + 4) rest = .ok later ∧ bytes = bytesOf 4 (pack values) ++ later := by
  obtain ⟨next, more, rfl⟩ := List.exists_cons_of_ne_nil isFollowed
  simp only [decodeGroups, bind_eq_ok_iff, sextet_eq_ok_iff] at isRead
  obtain ⟨high, ⟨isHigh, rfl⟩, upper, ⟨isUpper, rfl⟩, lower, ⟨isLower, rfl⟩, low, ⟨isLow, rfl⟩,
    later, isLater, isDone⟩ := isRead
  cases isDone
  refine ⟨[high, upper, lower, low], later, ?_, rfl, rfl, isLater, by simp [pack]⟩
  simp [isHigh, isUpper, isLower, isLow]

theorem encode_ne_nil {bytes : Bytes} (isFilled : bytes ≠ []) : encode bytes ≠ [] := by
  match bytes with
  | [_] | [_, _] | _ :: _ :: _ :: _ => simp [encode, group, sextets]

theorem decodeGroups_group {bytes : Bytes} (isGroup : 1 ≤ bytes.length ∧ bytes.length ≤ 3) :
    decodeGroups offset (group bytes) = .ok bytes := by
  rw [decodeGroups_of_length_le (length_group isGroup).le, decodeTail_group isGroup]

theorem decodeGroups_encode (offset : Nat) (bytes : Bytes) :
    decodeGroups offset (encode bytes) = .ok bytes := by
  fun_induction encode bytes generalizing offset with
  | case1 first second third rest inductionHypothesis =>
      have isGroup : 1 ≤ [first, second, third].length ∧ [first, second, third].length ≤ 3 := by
        simp
      by_cases isFollowed : rest = []
      · subst isFollowed
        rw [encode, List.append_nil, decodeGroups_group isGroup]
      · have isFull : group [first, second, third] =
            (sextets 4 (BigEndian.toNat [first, second, third])).map sign := by
          simp [group]
        have isPacked := pack_group isGroup
        have areBytes := bytesOf_pack_group isGroup
        simp only [List.length_cons, List.length_nil, Nat.zero_add, Nat.reduceAdd, Nat.reduceMul,
          Nat.reduceMod, Nat.pow_zero, Nat.mul_one] at isPacked areBytes
        rw [isFull, decodeGroups_signs (fun _ => lt_of_mem_sextets) (length_sextets _ _)
          (encode_ne_nil isFollowed), inductionHypothesis, isPacked, areBytes]
        rfl
  | case2 => rfl
  | case3 last isNoFull isFilled =>
      match last with
      | [] => exact absurd rfl isFilled
      | [_] | [_, _] => exact decodeGroups_group (by simp)
      | first :: second :: third :: rest => exact absurd rfl (isNoFull first second third rest)

theorem encode_append {full : Bytes} (isFull : full.length = 3) (rest : Bytes) :
    encode (full ++ rest) = group full ++ encode rest := by
  match full with
  | [_, _, _] => simp [encode]

theorem eq_encode_of_decodeGroups {bytes : Bytes} (isRead : decodeGroups offset signs = .ok bytes) :
    signs = encode bytes := by
  induction offset, signs using decodeGroups.induct generalizing bytes with
  | case1 offset first second third fourth next rest inductionHypothesis =>
      obtain ⟨values, later, areSextets, isFull, areSigns, isLater, rfl⟩ :=
        exists_of_decodeGroups (List.cons_ne_nil next rest) isRead
      obtain ⟨isSize, isGroup⟩ := group_bytesOf areSextets (show 1 ≤ 3 ∧ 3 ≤ 3 by simp)
        isFull (by simp [isFull, Nat.mod_one])
      rw [isFull, Nat.sub_self, List.replicate_zero, List.append_nil, ← areSigns] at isGroup
      rw [isFull] at isSize
      rw [encode_append isSize, isGroup, ← inductionHypothesis isLater]
      rfl
  | case2 offset signs isNoMore =>
      have isShort : signs.length ≤ 4 := by
        match signs with
        | [] | [_] | [_, _] | [_, _, _] | [_, _, _, _] => simp
        | first :: second :: third :: fourth :: next :: rest =>
            exact absurd rfl (isNoMore first second third fourth next rest)
      rw [decodeGroups_of_length_le isShort] at isRead
      rcases eq_group_of_decodeTail isRead isShort with ⟨rfl, rfl⟩ | ⟨isGroup, rfl⟩
      · rfl
      · exact (encode_eq_group isGroup).symm

theorem length_encode_mod (bytes : Bytes) : (encode bytes).length % 4 = 0 := by
  fun_induction encode bytes with
  | case1 first second third rest inductionHypothesis =>
      simp [length_group, inductionHypothesis]
  | case2 => rfl
  | case3 last isNoFull isFilled =>
      match last with
      | [] => exact absurd rfl isFilled
      | [_] | [_, _] => rw [length_group (by simp)]
      | first :: second :: third :: rest => exact absurd rfl (isNoFull first second third rest)

/-- The bytes that a text spells are those that are written as this text. -/
theorem decode_eq_ok_iff {signs bytes : Bytes} :
    decode signs = .ok bytes ↔ signs = encode bytes := by
  unfold decode
  constructor
  · intro isRead
    split at isRead
    · split at isRead
      · cases isRead
      · exact eq_encode_of_decodeGroups isRead
    · next isEmpty =>
      cases isRead
      exact List.getLast?_eq_none_iff.mp isEmpty
  · rintro rfl
    have isWhole := length_encode_mod bytes
    split
    · rw [if_neg (by simp [isWhole])]
      exact decodeGroups_encode 0 bytes
    · next isEmpty =>
      have noSigns := List.getLast?_eq_none_iff.mp isEmpty
      by_cases isFilled : bytes = []
      · rw [isFilled]
      · exact absurd noSigns (encode_ne_nil isFilled)

theorem encode_injective : Function.Injective encode := by
  intro first second same
  have ofSecond := decode_eq_ok_iff.mpr same
  rw [decode_eq_ok_iff.mpr rfl] at ofSecond
  exact Except.ok.inj ofSecond

end Base64
end FailoverPool
