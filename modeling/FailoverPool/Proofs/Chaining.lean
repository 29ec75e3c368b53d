import Mathlib.Data.List.Forall2

/-!
Steps that can fail, one after the other.

A chain has a result if each of its steps has (`bind_eq_ok_iff`, `exists_foldlM`), and it fails
in no other way than one of its steps (`FailsOnly`).
-/

namespace FailoverPool

variable {Fault First Result State : Type}

theorem bind_eq_ok_iff {first : Except Fault First} {next : First → Except Fault Result}
    {result : Result} :
    first >>= next = .ok result ↔ ∃ value, first = .ok value ∧ next value = .ok result := by
  cases first <;> simp [bind, Except.bind]

theorem mapM_eq_ok_iff {read : First → Except Fault Result} {items : List First}
    {results : List Result} : items.mapM read = .ok results ↔
      List.Forall₂ (fun item result => read item = .ok result) items results := by
  induction items generalizing results with
  | nil => cases results <;> simp [pure, Except.pure]
  | cons item rest inductionHypothesis =>
      simp only [List.mapM_cons, bind_eq_ok_iff, List.forall₂_cons_left_iff]
      constructor
      · rintro ⟨first, isRead, later, areRead, ⟨⟩⟩
        exact ⟨first, later, isRead, inductionHypothesis.mp areRead, rfl⟩
      · rintro ⟨first, later, isRead, areRead, rfl⟩
        exact ⟨first, isRead, later, inductionHypothesis.mpr areRead, rfl⟩

theorem exists_foldlM {take : State → First → Except Fault State} {items : List First}
    (areTaken : ∀ item ∈ items, ∀ state, ∃ next, take state item = .ok next) (state : State) :
    ∃ last, items.foldlM take state = .ok last := by
  induction items generalizing state with
  | nil => exact ⟨state, rfl⟩
  | cons item rest inductionHypothesis =>
      rw [List.forall_mem_cons] at areTaken
      obtain ⟨next, isTaken⟩ := areTaken.1 state
      obtain ⟨last, isLast⟩ := inductionHypothesis areTaken.2 next
      refine ⟨last, ?_⟩
      rw [List.foldlM_cons, bind_eq_ok_iff]
      exact ⟨next, isTaken, isLast⟩

/-- If there is no result, then for a reason of this kind. -/
def FailsOnly (Kind : Fault → Prop) (result : Except Fault Result) : Prop :=
  ∀ fault, result = .error fault → Kind fault

namespace FailsOnly

variable {Kind : Fault → Prop}

theorem ok (result : Result) : FailsOnly Kind (.ok result) := nofun

theorem error {fault : Fault} (isKind : Kind fault) :
    FailsOnly Kind (.error fault : Except Fault Result) := by
  rintro _ ⟨⟩
  exact isKind

theorem bind {first : Except Fault First} {next : First → Except Fault Result}
    (ofFirst : FailsOnly Kind first) (ofNext : ∀ value, FailsOnly Kind (next value)) :
    FailsOnly Kind (first >>= next) := by
  cases first with
  | error fault => exact error (ofFirst fault rfl)
  | ok value => exact ofNext value

theorem foldlM {take : State → First → Except Fault State}
    (ofTake : ∀ state item, FailsOnly Kind (take state item)) (items : List First) (state : State) :
    FailsOnly Kind (items.foldlM take state) := by
  induction items generalizing state with
  | nil => exact ok state
  | cons item rest inductionHypothesis =>
      rw [List.foldlM_cons]
      exact (ofTake state item).bind inductionHypothesis

theorem mapM {read : First → Except Fault Result} (ofRead : ∀ item, FailsOnly Kind (read item))
    (items : List First) : FailsOnly Kind (items.mapM read) := by
  induction items with
  | nil => exact ok []
  | cons item rest inductionHypothesis =>
      rw [List.mapM_cons]
      exact (ofRead item).bind fun _ => inductionHypothesis.bind fun _ => ok _

end FailsOnly

end FailoverPool
