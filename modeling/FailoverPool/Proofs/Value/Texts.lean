import FailoverPool.Proofs.Value.RoundTrip
import FailoverPool.Value.Typed
import Mathlib.Data.List.Forall2

/-!
The values that are read as texts, and as lists of texts. Main statements: `Typed.text_eq_some_iff`
and `Typed.list_eq_some_iff`, which says of lists of any shape what is known of the shape.
-/

namespace FailoverPool

theorem Utf8.decode?_eq_some_iff {bytes : Bytes} {spelled : String} :
    decode? bytes = some spelled ↔ bytes = encode spelled := by
  constructor
  · intro decodes
    simp only [decode?, String.fromUTF8?, Option.dite_none_right_eq_some] at decodes
    obtain ⟨_, isSpelled⟩ := decodes
    cases isSpelled
    rfl
  · rintro rfl
    exact decode?_encode spelled

namespace Value

/-- The value is a text, or binary data that spells one. -/
inductive Spells : Value → String → Prop where
  | text (spelled : String) : Spells (.text spelled) spelled
  | binary (spelled : String) : Spells (.binary (Utf8.encode spelled)) spelled

/-- The value is an array of values that spell these texts, one by one. -/
inductive SpellsAll : Value → List String → Prop where
  | array {items : List Value} {texts : List String} :
      List.Forall₂ Spells items texts → SpellsAll (.array items) texts

end Value

namespace Typed

theorem text_eq_some_iff {value : Value} {spelled : String} :
    text value = some spelled ↔ value.Spells spelled := by
  constructor
  · intro reads
    cases value with
    | text =>
        cases reads
        exact .text spelled
    | binary bytes =>
        rw [Utf8.decode?_eq_some_iff.mp reads]
        exact .binary spelled
    | nil | bool | int | float32 | float64 | malformedText | array | map | ext => cases reads
  · intro spells
    cases spells with
    | text => rfl
    | binary => exact Utf8.decode?_encode spelled

variable {Data : Type} {shape : Value → Option Data} {Means : Value → Data → Prop}

theorem mapM_eq_some_iff (means : ∀ {value data}, shape value = some data ↔ Means value data)
    {items : List Value} {found : List Data} :
    items.mapM shape = some found ↔ List.Forall₂ Means items found := by
  induction items generalizing found with
  | nil => cases found <;> simp
  | cons item later inductionHypothesis =>
      cases found with
      | nil => simp [Option.bind_eq_some_iff]
      | cons data rest => simp [Option.bind_eq_some_iff, means, inductionHypothesis]

theorem list_eq_some_iff (means : ∀ {value data}, shape value = some data ↔ Means value data)
    {value : Value} {found : List Data} :
    list shape value = some found ↔
      ∃ items, value = .array items ∧ List.Forall₂ Means items found := by
  cases value with
  | array items => simp [list, mapM_eq_some_iff means]
  | nil | bool | int | float32 | float64 | text | malformedText | binary | map | ext => simp [list]

theorem texts_eq_some_iff {value : Value} {texts : List String} :
    list text value = some texts ↔ value.SpellsAll texts := by
  rw [list_eq_some_iff text_eq_some_iff]
  constructor
  · rintro ⟨items, rfl, spell⟩
    exact .array spell
  · rintro ⟨spell⟩
    exact ⟨_, rfl, spell⟩

end Typed
end FailoverPool
