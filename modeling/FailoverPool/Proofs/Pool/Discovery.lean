import FailoverPool.Pool.Maintenance
import FailoverPool.Proofs.Value.Texts

/-!
What an answer to the discovery call tells.

An answer is read as a list of addresses when its data begins with a list of texts, and nothing but
lists of texts follows (`Tells`); the addresses are those texts without repeats
(`FirstOccurrences`). Main statements: nothing else is read (`addresses?_eq_some_iff`), and every
list without repeats that is not empty is told by some answer (`exists_tells_iff`).
-/

namespace FailoverPool
namespace Discovery

/-- The same texts without repeats, in the order of their first occurrences. -/
structure FirstOccurrences (texts distinct : List String) : Prop where
  mem_iff : ∀ {text}, text ∈ distinct ↔ text ∈ texts
  increasing : distinct.Pairwise fun earlier later => texts.idxOf earlier < texts.idxOf later

/-- Texts that stay are found in the same order when others are left out. -/
theorem idxOf_lt_of_filter {texts : List String} {stays : String → Bool} {earlier later : String}
    (staysEarlier : stays earlier = true) (staysLater : stays later = true)
    (inOrder : (texts.filter stays).idxOf earlier < (texts.filter stays).idxOf later) :
    texts.idxOf earlier < texts.idxOf later := by
  induction texts with
  | nil => exact inOrder
  | cons first rest inductionHypothesis =>
      rw [List.idxOf_cons, List.idxOf_cons]
      cases staysFirst : stays first with
      | false =>
          rw [List.filter_cons_of_neg (by simp [staysFirst])] at inOrder
          have differs {text : String} (staysText : stays text = true) :
              (first == text) = false := by
            rw [beq_eq_false_iff_ne]
            rintro rfl
            rw [staysText] at staysFirst
            cases staysFirst
          rw [differs staysEarlier, differs staysLater]
          exact Nat.succ_lt_succ (inductionHypothesis inOrder)
      | true =>
          rw [List.filter_cons_of_pos staysFirst, List.idxOf_cons, List.idxOf_cons] at inOrder
          cases isEarlier : first == earlier <;> cases isLater : first == later <;>
            simp only [isEarlier, isLater, cond_true, cond_false] at inOrder ⊢ <;> omega

theorem firstOccurrences_eraseDups (texts : List String) :
    FirstOccurrences texts texts.eraseDups := by
  refine ⟨List.mem_eraseDups, ?_⟩
  cases texts with
  | nil => simp
  | cons first later =>
      have rest := firstOccurrences_eraseDups (later.filter fun text => !text == first)
      have differs {text : String}
          (isRest : text ∈ (later.filter fun text => !text == first).eraseDups) :
          text ≠ first := by
        simpa using (List.mem_filter.mp (rest.mem_iff.mp isRest)).2
      rw [List.eraseDups_cons, List.pairwise_cons]
      constructor
      · intro text isRest
        rw [List.idxOf_cons_self, List.idxOf_cons_ne _ (differs isRest).symm]
        exact Nat.succ_pos _
      · refine rest.increasing.imp_of_mem fun {earlier next} isEarlier isNext inOrder => ?_
        rw [List.idxOf_cons_ne _ (differs isEarlier).symm,
          List.idxOf_cons_ne _ (differs isNext).symm]
        exact Nat.succ_lt_succ (idxOf_lt_of_filter (by simpa using differs isEarlier)
          (by simpa using differs isNext) inOrder)
termination_by texts.length
decreasing_by
  simpa using Nat.lt_succ_of_le (List.length_filter_le (fun text => !text == first) later)

theorem FirstOccurrences.nodup {texts distinct : List String}
    (areFirst : FirstOccurrences texts distinct) : distinct.Nodup := by
  refine areFirst.increasing.imp fun {earlier later} inOrder => ?_
  rintro rfl
  exact Nat.lt_irrefl _ inOrder

theorem FirstOccurrences.ne_nil {texts distinct : List String}
    (areFirst : FirstOccurrences texts distinct) (isFilled : texts ≠ []) : distinct ≠ [] := by
  obtain ⟨text, isText⟩ := List.exists_mem_of_ne_nil texts isFilled
  exact List.ne_nil_of_mem (areFirst.mem_iff.mpr isText)

/-- The answer tells these texts: its data begins with a list of them, and there are some. Whatever
follows is a list of texts, too. -/
inductive Tells : Outcome → List String → Prop where
  | intro {response : Response} {first : Value} {later : List Value} {texts : List String} :
      response.data = first :: later → first.SpellsAll texts → texts ≠ [] →
      (∀ value ∈ later, ∃ others, value.SpellsAll others) → Tells (.ok response) texts

theorem exists_forall₂_iff {Item Data : Type} {Means : Item → Data → Prop} {items : List Item} :
    (∃ found, List.Forall₂ Means items found) ↔ ∀ item ∈ items, ∃ data, Means item data := by
  induction items with
  | nil => simp
  | cons item later inductionHypothesis =>
      rw [List.forall_mem_cons, ← inductionHypothesis]
      constructor
      · rintro ⟨_, means⟩
        cases means with | cons means mean =>
        exact ⟨⟨_, means⟩, _, mean⟩
      · rintro ⟨⟨_, means⟩, _, mean⟩
        exact ⟨_, .cons means mean⟩

theorem lists_eq_some_iff {response : Response} {lists : List (List String)} :
    (response.typed (Typed.list (Typed.list Typed.text))).toOption = some lists ↔
      List.Forall₂ Value.SpellsAll response.data lists := by
  have isRead : (response.typed (Typed.list (Typed.list Typed.text))).toOption =
      Typed.list (Typed.list Typed.text) (.array response.data) := by
    rw [Response.typed]
    split
    · next isList => exact isList.symm
    · next isNoList => exact isNoList.symm
  rw [isRead, Typed.list_eq_some_iff Typed.texts_eq_some_iff]
  simp

/-- The answer is read as a list of addresses exactly when it tells some. -/
theorem addresses?_eq_some_iff {outcome : Outcome} {discovered : List String} :
    addresses? outcome = some discovered ↔
      ∃ texts, Tells outcome texts ∧ texts.eraseDups = discovered := by
  constructor
  · intro reads
    simp only [addresses?, Option.bind_eq_bind, Option.bind_eq_some_iff] at reads
    obtain ⟨response, isResponse, lists, areLists, texts, isFirst, isDiscovered⟩ := reads
    obtain ⟨others, rfl⟩ := List.head?_eq_some_iff.mp isFirst
    obtain ⟨first, later, spell, spellLater, isData⟩ :=
      List.forall₂_cons_right_iff.mp (lists_eq_some_iff.mp areLists)
    have isOutcome : outcome = .ok response := by
      cases outcome with
      | error => cases isResponse
      | ok =>
          cases isResponse
          rfl
    split at isDiscovered
    · cases isDiscovered
    · next isFilled =>
      cases isDiscovered
      refine ⟨texts, ?_, rfl⟩
      rw [isOutcome]
      refine .intro isData spell (by rintro rfl; simp at isFilled) ?_
      exact exists_forall₂_iff.mp ⟨others, spellLater⟩
  · rintro ⟨texts, ⟨isData, spell, isFilled, areLists⟩, rfl⟩
    obtain ⟨others, spellLater⟩ := exists_forall₂_iff.mpr areLists
    have isRead := lists_eq_some_iff.mpr (isData ▸ List.Forall₂.cons spell spellLater)
    have isKept : ¬ texts.eraseDups.isEmpty := by
      simpa using (firstOccurrences_eraseDups texts).ne_nil isFilled
    simp only [addresses?, Option.bind_eq_bind, Option.bind_eq_some_iff]
    exact ⟨_, rfl, _, isRead, texts, rfl, if_neg isKept⟩

theorem eraseDups_of_nodup {texts : List String} (distinct : texts.Nodup) :
    texts.eraseDups = texts := by
  induction texts with
  | nil => rfl
  | cons first later inductionHypothesis =>
      obtain ⟨isNew, distinctLater⟩ := List.nodup_cons.mp distinct
      have others : later.filter (fun text => !text == first) = later := by
        rw [List.filter_eq_self]
        intro text isLater
        simpa using ne_of_mem_of_not_mem isLater isNew
      rw [List.eraseDups_cons, others, inductionHypothesis distinctLater]

section

variable {outcome : Outcome} {discovered : List String}

theorem ne_nil_of_tells (tells : addresses? outcome = some discovered) : discovered ≠ [] := by
  obtain ⟨texts, ⟨_, _, isFilled, _⟩, rfl⟩ := addresses?_eq_some_iff.mp tells
  exact (firstOccurrences_eraseDups texts).ne_nil isFilled

theorem nodup_of_tells (tells : addresses? outcome = some discovered) : discovered.Nodup := by
  obtain ⟨texts, _, rfl⟩ := addresses?_eq_some_iff.mp tells
  exact (firstOccurrences_eraseDups texts).nodup

end

/-- The answer that tells these addresses and nothing else. -/
def telling (addresses : List String) : Outcome :=
  .ok { Response.empty with data := [.array (addresses.map .text)] }

theorem tells_telling {addresses : List String} (isFilled : addresses ≠ [])
    (distinct : addresses.Nodup) : addresses? (telling addresses) = some addresses := by
  have spell : List.Forall₂ Value.Spells (addresses.map .text) addresses :=
    List.forall₂_map_left_iff.mpr (List.forall₂_same.mpr fun address _ => .text address)
  refine addresses?_eq_some_iff.mpr ⟨addresses, ?_, eraseDups_of_nodup distinct⟩
  exact .intro rfl (.array spell) isFilled nofun

theorem exists_tells_iff (addresses : List String) :
    (∃ outcome, addresses? outcome = some addresses) ↔ addresses ≠ [] ∧ addresses.Nodup := by
  constructor
  · rintro ⟨outcome, tells⟩
    exact ⟨ne_nil_of_tells tells, nodup_of_tells tells⟩
  · rintro ⟨isFilled, distinct⟩
    exact ⟨telling addresses, tells_telling isFilled distinct⟩

end Discovery
end FailoverPool
