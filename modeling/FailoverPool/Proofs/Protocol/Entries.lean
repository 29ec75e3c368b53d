import FailoverPool.Proofs.Chaining
import FailoverPool.Protocol.Frame
import Mathlib.Data.List.Perm.Basic

/-!
Maps with numbers as keys, of which only some keys are known.

As long as no known key stands twice (`Once`), a map says the same in whatever order its entries
stand and whatever stands under other keys: `Rearranges` is what may be done to it, and
`Rearranges.said_of_said` says that nothing comes of it. A reader that goes through the entries and
takes one field of its result from one key finds there what the map says: `said_of_foldlM`.
-/

namespace FailoverPool
namespace Fields

/-- None of these keys stands twice. -/
def Once (known : List UInt64) (fields : Fields) : Prop :=
  ∀ key ∈ known, (fields.map Prod.fst).count key ≤ 1

instance (known : List UInt64) (fields : Fields) : Decidable (fields.Once known) :=
  List.decidableBAll (fun key => (fields.map Prod.fst).count key ≤ 1) known

/-- Entries change their places, or entries under other than the known keys come and go. -/
inductive Rearranges (known : List UInt64) : Fields → Fields → Prop where
  | reorder {fields other : Fields} : fields.Perm other → Rearranges known fields other
  | insert (earlier later : Fields) {key : UInt64} (value : Value) :
      key ∉ known → Rearranges known (earlier ++ later) (earlier ++ (key, value) :: later)
  | delete (earlier later : Fields) {key : UInt64} (value : Value) :
      key ∉ known → Rearranges known (earlier ++ (key, value) :: later) (earlier ++ later)
  | trans {first second third : Fields} :
      Rearranges known first second → Rearranges known second third → Rearranges known first third

/-- What the entry under a key says, or what holds if there is none. -/
def said {Data : Type} (fields : Fields) (key : UInt64) (read : Value → Except Error Data)
    (absent : Data) : Except Error Data :=
  match fields.lookup key with
  | none => .ok absent
  | some value => read value

variable {known : List UInt64} {fields other : Fields} {key next : UInt64} {value : Value}

theorem lookup_cons_of_ne (isOther : key ≠ next) (held : Value) (rest : Fields) :
    ((next, held) :: rest).lookup key = rest.lookup key := by
  rw [List.lookup_cons, beq_eq_false_iff_ne.mpr isOther]

/-- A key that stands at the front stands nowhere else. -/
theorem notMem_of_count_le {rest : Fields}
    (isSingle : (((key, value) :: rest).map Prod.fst).count key ≤ 1) :
    key ∉ rest.map Prod.fst := by
  rw [List.map_cons, List.count_cons_self] at isSingle
  exact List.count_eq_zero.mp (by omega)

theorem lookup_eq_none {fields : Fields} (isAbsent : key ∉ fields.map Prod.fst) :
    fields.lookup key = none := by
  rw [List.lookup_eq_none_iff]
  rintro field isField
  apply bne_iff_ne.mpr
  rintro rfl
  exact isAbsent (List.mem_map_of_mem isField)

theorem lookup_eq_some_iff (isSingle : (fields.map Prod.fst).count key ≤ 1) :
    fields.lookup key = some value ↔ (key, value) ∈ fields := by
  induction fields with
  | nil => simp
  | cons field rest inductionHypothesis =>
      obtain ⟨next, held⟩ := field
      by_cases isNext : key = next
      · subst isNext
        have isAbsent (found : Value) : (key, found) ∉ rest := fun isFound =>
          notMem_of_count_le isSingle (List.mem_map_of_mem isFound)
        simp [isAbsent, eq_comm]
      · rw [List.map_cons, List.count_cons] at isSingle
        rw [lookup_cons_of_ne isNext]
        simp only [List.mem_cons, Prod.mk.injEq, isNext, false_and, false_or]
        exact inductionHypothesis (by omega)

theorem said_of_mem {Data : Type} (isSingle : (fields.map Prod.fst).count key ≤ 1)
    (isField : (key, value) ∈ fields) (read : Value → Except Error Data) (absent : Data) :
    fields.said key read absent = read value := by
  rw [said, (lookup_eq_some_iff isSingle).mpr isField]

theorem Once.tail {field : UInt64 × Value} (once : Once known (field :: fields)) :
    Once known fields := by
  intro key isKnown
  have isSingle := once key isKnown
  rw [List.map_cons, List.count_cons] at isSingle
  omega

namespace Rearranges

theorem symm (same : Rearranges known fields other) : Rearranges known other fields := by
  induction same with
  | reorder isPerm => exact .reorder isPerm.symm
  | insert earlier later value isUnknown => exact .delete earlier later value isUnknown
  | delete earlier later value isUnknown => exact .insert earlier later value isUnknown
  | trans _ _ earlier later => exact later.trans earlier

/-- The entries under known keys may have changed their places, but they are the same. -/
theorem perm_known (same : Rearranges known fields other) :
    (fields.filter (·.1 ∈ known)).Perm (other.filter (·.1 ∈ known)) := by
  induction same with
  | reorder isPerm => exact isPerm.filter _
  | insert earlier later value isUnknown => simp [isUnknown]
  | delete earlier later value isUnknown => simp [isUnknown]
  | trans _ _ earlier later => exact earlier.trans later

theorem mem_iff (same : Rearranges known fields other) (isKnown : key ∈ known) :
    (key, value) ∈ fields ↔ (key, value) ∈ other := by
  simpa [isKnown] using same.perm_known.mem_iff (a := (key, value))

theorem count_eq (same : Rearranges known fields other) (isKnown : key ∈ known) :
    (fields.map Prod.fst).count key = (other.map Prod.fst).count key := by
  have ofKnown (fields : Fields) : (fields.map Prod.fst).count key =
      ((fields.filter (·.1 ∈ known)).map Prod.fst).count key := by
    simp only [List.count, List.countP_map, List.countP_filter]
    apply List.countP_congr
    rintro ⟨next, held⟩ _
    simp only [Function.comp_apply, beq_iff_eq, Bool.and_eq_true, decide_eq_true_eq]
    constructor
    · rintro rfl
      exact ⟨rfl, isKnown⟩
    · exact And.left
  rw [ofKnown fields, ofKnown other]
  exact (same.perm_known.map Prod.fst).count_eq key

theorem once (same : Rearranges known fields other) (once : fields.Once known) :
    other.Once known := by
  intro key isKnown
  rw [← same.count_eq isKnown]
  exact once key isKnown

theorem lookup_eq (same : Rearranges known fields other) (once : fields.Once known)
    (isKnown : key ∈ known) : fields.lookup key = other.lookup key := by
  apply Option.ext
  intro value
  rw [lookup_eq_some_iff (once key isKnown), lookup_eq_some_iff (same.once once key isKnown),
    same.mem_iff isKnown]

theorem said_of_said {Data : Type} {read : Value → Except Error Data} {absent : Data}
    {result : Except Error Data} (same : Rearranges known fields other) (once : fields.Once known)
    (isKnown : key ∈ known) (isSaid : fields.said key read absent = result) :
    other.said key read absent = result := by
  rw [← isSaid, said, said, same.lookup_eq once isKnown]

end Rearranges

section

variable {State Data : Type}

/-- An entry under this key gives the data that follows, and any other leaves the data. -/
def Sets (key : UInt64) (read : Value → Except Error Data) (field : UInt64 × Value)
    (earlier later : Data) : Prop :=
  if field.1 = key then read field.2 = .ok later else later = earlier

variable {take : State → UInt64 × Value → Except Error State} (get : State → Data)
  {read : Value → Except Error Data}

theorem get_of_foldlM
    (sets : ∀ state next field, take state field = .ok next →
      Sets key read field (get state) (get next))
    (isAbsent : key ∉ fields.map Prod.fst)
    {state last : State} (areTaken : fields.foldlM take state = .ok last) :
    get last = get state := by
  induction fields generalizing state with
  | nil =>
      cases areTaken
      rfl
  | cons field rest inductionHypothesis =>
      rw [List.foldlM_cons, bind_eq_ok_iff] at areTaken
      obtain ⟨next, isTaken, areLater⟩ := areTaken
      rw [List.map_cons, List.mem_cons, not_or] at isAbsent
      have isSet := sets state next field isTaken
      rw [Sets, if_neg (Ne.symm isAbsent.1)] at isSet
      rw [inductionHypothesis isAbsent.2 areLater, isSet]

theorem said_of_foldlM
    (sets : ∀ state next field, take state field = .ok next →
      Sets key read field (get state) (get next))
    (isSingle : (fields.map Prod.fst).count key ≤ 1) {state last : State}
    (areTaken : fields.foldlM take state = .ok last) :
    fields.said key read (get state) = .ok (get last) := by
  induction fields generalizing state with
  | nil =>
      cases areTaken
      rfl
  | cons field rest inductionHypothesis =>
      obtain ⟨found, value⟩ := field
      rw [List.foldlM_cons, bind_eq_ok_iff] at areTaken
      obtain ⟨next, isTaken, areLater⟩ := areTaken
      have isSet := sets state next (found, value) isTaken
      by_cases isFound : found = key
      · subst isFound
        rw [Sets, if_pos rfl] at isSet
        rw [get_of_foldlM get sets (notMem_of_count_le isSingle) areLater]
        simp [said, isSet]
      · rw [List.map_cons, List.count_cons] at isSingle
        rw [Sets, if_neg isFound] at isSet
        rw [said, lookup_cons_of_ne (Ne.symm isFound), ← isSet]
        exact inductionHypothesis (by omega) areLater

end

end Fields
end FailoverPool
