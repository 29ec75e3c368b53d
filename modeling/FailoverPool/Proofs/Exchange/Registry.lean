import FailoverPool.Exchange.Watchers

/-!
The registry of watchers as a map from keys to lists of watchers.

A tidy registry has one entry for each key that is watched, and none for any other. Registering and
removing keep it tidy, and each of the two changes the watchers of its own key alone.
-/

namespace FailoverPool
namespace WatcherRegistry

def keys (registry : WatcherRegistry) : List String := registry.map Prod.fst

structure IsTidy (registry : WatcherRegistry) : Prop where
  distinct : registry.keys.Nodup
  filled : ∀ entry ∈ registry, entry.2 ≠ []

variable {registry : WatcherRegistry}

theorem isTidy_nil : IsTidy [] := ⟨List.nodup_nil, nofun⟩

theorem IsTidy.tail {entry : String × List Watcher} (tidy : IsTidy (entry :: registry)) :
    registry.IsTidy :=
  ⟨(List.nodup_cons.mp tidy.distinct).2, fun _ isLater => tidy.filled _ (.tail _ isLater)⟩

theorem IsTidy.cons {entry : String × List Watcher} (tidy : registry.IsTidy)
    (isNew : entry.1 ∉ registry.keys) (isFilled : entry.2 ≠ []) : IsTidy (entry :: registry) :=
  ⟨List.nodup_cons.mpr ⟨isNew, tidy.distinct⟩, List.forall_mem_cons.mpr ⟨isFilled, tidy.filled⟩⟩

theorem IsTidy.not_mem_tail {entry : String × List Watcher} (tidy : IsTidy (entry :: registry)) :
    entry.1 ∉ registry.keys :=
  (List.nodup_cons.mp tidy.distinct).1

theorem isUnwatched_eq_false_iff {key : String} :
    registry.isUnwatched key = false ↔ registry.watchersOf key ≠ [] := by
  simp [isUnwatched]

theorem watchersOf_of_not_mem {key : String} (isNew : key ∉ registry.keys) :
    registry.watchersOf key = [] := by
  induction registry with
  | nil => rfl
  | cons entry later inductionHypothesis =>
      obtain ⟨other, watchers⟩ := entry
      obtain ⟨isOther, isNewLater⟩ : key ≠ other ∧ key ∉ later.map Prod.fst := by
        simpa [keys] using isNew
      rw [watchersOf, if_neg (Ne.symm isOther), inductionHypothesis isNewLater]

theorem watchersOf_add (registry : WatcherRegistry) (key other : String) (watcher : Watcher) :
    (registry.add key watcher).watchersOf other =
      if key = other then registry.watchersOf other ++ [watcher]
      else registry.watchersOf other := by
  induction registry with
  | nil => by_cases same : key = other <;> simp [add, watchersOf, same]
  | cons entry later inductionHypothesis =>
      obtain ⟨first, watchers⟩ := entry
      by_cases isFirst : first = key
      · subst isFirst
        by_cases same : first = other <;> simp [add, watchersOf, same]
      · by_cases isOther : first = other
        · subst isOther
          simp [add, watchersOf, isFirst, Ne.symm isFirst]
        · simp [add, watchersOf, isFirst, isOther, inductionHypothesis]

theorem mem_keys_add {key other : String} {watcher : Watcher} :
    other ∈ (registry.add key watcher).keys ↔ other = key ∨ other ∈ registry.keys := by
  induction registry with
  | nil => simp [add, keys]
  | cons entry later inductionHypothesis =>
      obtain ⟨first, watchers⟩ := entry
      unfold keys at inductionHypothesis
      by_cases isFirst : first = key
      · simp [add, keys, isFirst]
      · simp only [add, keys, isFirst, if_false, List.map_cons, List.mem_cons, inductionHypothesis]
        exact or_left_comm

theorem IsTidy.add (tidy : registry.IsTidy) (key : String) (watcher : Watcher) :
    (registry.add key watcher).IsTidy := by
  induction registry with
  | nil => exact .cons isTidy_nil List.not_mem_nil (List.cons_ne_nil _ _)
  | cons entry later inductionHypothesis =>
      obtain ⟨first, watchers⟩ := entry
      rw [WatcherRegistry.add]
      split
      · exact tidy.tail.cons tidy.not_mem_tail (by simp)
      · next isOther =>
        apply (inductionHypothesis tidy.tail).cons
        · rw [mem_keys_add, not_or]
          exact ⟨isOther, tidy.not_mem_tail⟩
        · exact tidy.filled _ List.mem_cons_self

theorem remove_cons (handle : WatcherHandle) (key : String) (watchers : List Watcher)
    (later : WatcherRegistry) :
    remove ((key, watchers) :: later) handle =
      if key = handle.key then
        match watchers.filter (·.id ≠ handle.id) with
        | [] => remove later handle
        | left => (key, left) :: remove later handle
      else (key, watchers) :: remove later handle := by
  unfold remove
  rw [List.filterMap_cons]
  by_cases isOwn : key = handle.key
  · simp only [isOwn, if_true]
    cases watchers.filter (·.id ≠ handle.id) <;> rfl
  · simp only [isOwn, if_false]

theorem keys_remove_sublist (registry : WatcherRegistry) (handle : WatcherHandle) :
    (registry.remove handle).keys.Sublist registry.keys := by
  induction registry with
  | nil => exact .slnil
  | cons entry later inductionHypothesis =>
      rw [remove_cons]
      split
      · split
        · exact inductionHypothesis.cons _
        · exact inductionHypothesis.cons_cons _
      · exact inductionHypothesis.cons_cons _

theorem IsTidy.remove (tidy : registry.IsTidy) (handle : WatcherHandle) :
    (registry.remove handle).IsTidy := by
  induction registry with
  | nil => exact isTidy_nil
  | cons entry later inductionHypothesis =>
      have tidyLater := inductionHypothesis tidy.tail
      have isNew : entry.1 ∉ (WatcherRegistry.remove later handle).keys := fun isKey =>
        tidy.not_mem_tail ((keys_remove_sublist later handle).mem isKey)
      rw [remove_cons]
      split
      · split
        · exact tidyLater
        · next isFilled => exact tidyLater.cons isNew isFilled
      · exact tidyLater.cons isNew (tidy.filled _ List.mem_cons_self)

theorem watchersOf_remove (tidy : registry.IsTidy) (handle : WatcherHandle) (key : String) :
    (registry.remove handle).watchersOf key =
      if handle.key = key then (registry.watchersOf key).filter (·.id ≠ handle.id)
      else registry.watchersOf key := by
  induction registry with
  | nil => simp [remove, watchersOf]
  | cons entry later inductionHypothesis =>
      obtain ⟨first, watchers⟩ := entry
      have removed := inductionHypothesis tidy.tail
      rw [remove_cons, watchersOf]
      by_cases isOwn : first = handle.key
      · subst isOwn
        rw [if_pos rfl]
        by_cases isKey : handle.key = key
        · subst isKey
          -- The entry is the only one of its key.
          rw [watchersOf_of_not_mem tidy.not_mem_tail, if_pos rfl] at removed
          rw [if_pos rfl, if_pos rfl]
          split
          · next isEmpty => rw [removed, isEmpty, List.filter_nil]
          · rw [watchersOf, if_pos rfl]
        · rw [if_neg isKey] at removed ⊢
          split
          · rw [removed, if_neg isKey]
          · rw [watchersOf, if_neg isKey, removed, if_neg isKey]
      · rw [if_neg isOwn, watchersOf]
        by_cases isKey : first = key
        · subst isKey
          rw [if_pos rfl, if_pos rfl, if_neg (Ne.symm isOwn)]
        · rw [if_neg isKey, if_neg isKey, removed]

end WatcherRegistry
end FailoverPool
