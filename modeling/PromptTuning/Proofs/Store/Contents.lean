import PromptTuning.Proofs.Store.Entries
import PromptTuning.Proofs.Variable.Undated

/-!
# What a store contains

The contents of a store are its variables in their order, apart from their
dates. Writes of variables that differ in their dates alone to stores with the
same contents leave the same contents again.
-/

namespace PromptTuning

namespace Change

/-- A change does not look at the date. -/
theorem apply_undated
    {change : Change}
    {left right changed : Variable}
    (same : left.undated = right.undated)
    (applied : change.apply left = .ok changed) :
    ∃ other,
      change.apply right = .ok other ∧ other.undated = changed.undated := by
  have redated := Variable.eq_of_undated_eq same
  generalize left.updatedAt = date at redated
  subst redated
  cases change with
  | append prediction =>
      obtain rfl := Except.ok.inj applied
      exact ⟨_, rfl, rfl⟩
  | attach index reward =>
      rw [apply] at applied ⊢
      by_cases recorded : index < right.predictions.length
      · rw [if_pos recorded] at applied
        obtain rfl := Except.ok.inj applied
        exact ⟨_, if_pos recorded, rfl⟩
      · rw [if_neg recorded] at applied
        contradiction
  | update content =>
      obtain rfl := Except.ok.inj applied
      exact ⟨_, rfl, rfl⟩

end Change

namespace Store

/-- The variables of a store apart from their dates. -/
def contents (store : Store) : List Variable :=
  store.entries.map Variable.undated

/-- Whether a store has a variable under its key, apart from the date. -/
def Has (store : Store) (value : Variable) : Prop :=
  ∃ stored, store.find? value.key = some stored ∧ stored.undated = value.undated

section Contents

variable {left right : Store}

@[simp] theorem contents_counting (entry : Variable) (store : Store) :
    (store.counting entry).contents = store.contents := rfl

/-- What a store holds depends on its variables alone. -/
theorem contents_congr (same : left.entries = right.entries) :
    left.contents = right.contents := by
  rw [contents, contents, same]

/-- Stores that hold the same list the same keys. -/
theorem keys_eq_of_contents_eq (same : left.contents = right.contents) :
    left.keys = right.keys := by
  have keys : ∀ store : Store, store.keys = store.contents.map (·.key) := by
    intro store
    rw [contents, List.map_map]
    rfl
  rw [keys, keys, same]

/-- In stores that hold the same, the same is found but for dates. -/
theorem find?_undated_eq (same : left.contents = right.contents)
    (key : String) :
    (left.find? key).map Variable.undated =
      (right.find? key).map Variable.undated := by
  have found : ∀ store : Store, (store.find? key).map Variable.undated =
      store.contents.find? (·.key == key) := by
    intro store
    rw [contents, List.find?_map]
    rfl
  rw [found, found, same]

/-- What one of two stores that hold the same has, the other one has. -/
theorem Has.of_contents_eq {value : Variable} (has : left.Has value)
    (same : left.contents = right.contents) : right.Has value := by
  obtain ⟨stored, found, undated⟩ := has
  have agrees := find?_undated_eq same value.key
  rw [found, Option.map_some, undated] at agrees
  obtain ⟨other, foundOther, undatedOther⟩ :=
    Option.map_eq_some_iff.mp agrees.symm
  exact ⟨other, foundOther, undatedOther⟩

/-- What a store has under a key, it has as long as the same is found there. -/
theorem Has.of_find?_eq {value : Variable} (has : left.Has value)
    (same : right.find? value.key = left.find? value.key) :
    right.Has value := by
  rw [Has, same]
  exact has

/-- A variable that a store has is listed by its key. -/
theorem Has.mem_keys {value : Variable} (has : left.Has value) :
    value.key ∈ left.keys := by
  obtain ⟨stored, found, _⟩ := has
  exact contains_iff_mem_keys.mp (contains_of_find? found)

/-- A store has a variable under each key that it lists. -/
theorem has_of_mem_keys {key : String} (stored : key ∈ left.keys) :
    ∃ value,
      left.find? key = some value ∧ value.key = key ∧ left.Has value := by
  obtain ⟨value, found⟩ :=
    contains_iff_find?.mp (contains_iff_mem_keys.mpr stored)
  have named := key_of_find? found
  refine ⟨value, found, named, value, ?_, rfl⟩
  rw [named]
  exact found

/-- Putting in a variable replaces what is held under its key. -/
theorem contents_put {entry : Variable}
    (present : left.contains entry.key = true) :
    (left.put entry).contents =
      left.contents.map fun old =>
        if old.key = entry.key then entry.undated else old := by
  rw [contents, entries_put present, contents, List.map_map, List.map_map]
  apply List.map_congr_left
  intro old _
  by_cases same : old.key = entry.key <;> simp [same]

/-- The same variable, apart from the date, written to the same contents. -/
theorem contents_put_eq
    {entry other : Variable}
    (same : left.contents = right.contents)
    (undated : entry.undated = other.undated)
    (present : left.contains entry.key = true) :
    (left.put entry).contents = (right.put other).contents := by
  have keys : entry.key = other.key :=
    Variable.view_eq_of_undated_eq Variable.key (fun _ => rfl) undated
  have presentAgain : right.contains other.key = true := by
    rw [contains_iff_mem_keys, ← keys, ← keys_eq_of_contents_eq same]
    exact contains_iff_mem_keys.mp present
  rw [contents_put present, contents_put presentAgain, same, undated, keys]

end Contents

namespace Has

variable {store : Store} {value : Variable}

/-- A store contains the key of each variable that it has. -/
theorem contains (has : store.Has value) : store.contains value.key = true :=
  contains_iff_mem_keys.mpr has.mem_keys

/-- A write to another key leaves the variable there. -/
theorem put_of_ne
    {entry : Variable}
    (has : store.Has value)
    (present : store.contains entry.key = true)
    (different : value.key ≠ entry.key) :
    (store.put entry).Has value :=
  has.of_find?_eq (find?_put_of_ne present different)

/-- A commit writes the variable with its version counted once more. -/
theorem commit_eq
    {entry : Variable}
    (has : store.Has value)
    (named : entry.key = value.key)
    (now : Timestamp) :
    store.commit entry now =
      (store.put { entry with
        version := value.version + 1
        updatedAt := now }).counting value := by
  obtain ⟨stored, found, undated⟩ := has
  rw [← named] at found
  have same :=
    Variable.view_eq_of_undated_eq Variable.version (fun _ => rfl) undated
  rw [commit_eq_put found, same, counting_congr _ same]

/-- Commits of one variable, apart from the date, write one variable, apart
from the date. -/
theorem commit_both
    {other : Store}
    {entry again : Variable}
    (has : store.Has value)
    (contents : store.contents = other.contents)
    (named : entry.key = value.key)
    (same : entry.undated = again.undated)
    (now later : Timestamp) :
    ∃ written rewritten,
      store.commit entry now = (store.put written).counting value ∧
        other.commit again later = (other.put rewritten).counting value ∧
        written.key = value.key ∧ written.predictions = entry.predictions ∧
        written.undated = rewritten.undated := by
  have namedAgain : again.key = value.key :=
    (Variable.view_eq_of_undated_eq Variable.key (fun _ => rfl) same).symm.trans
      named
  refine ⟨_, _, has.commit_eq named now,
    (has.of_contents_eq contents).commit_eq namedAgain later,
    named, rfl, ?_⟩
  rw [Variable.eq_of_undated_eq same]
  rfl

/-- A change that fails leaves the store alone, one that succeeds is a write. -/
theorem modify_eq (has : store.Has value) (change : Change) (now : Timestamp) :
    (∃ reason, store.modify value.key change now = (.error reason, store)) ∨
      ∃ stored changed, stored.undated = value.undated ∧
        change.apply stored = .ok changed ∧
        store.modify value.key change now =
          (.ok (changed.touch now),
            (store.put (changed.touch now)).counting changed) := by
  obtain ⟨stored, found, undated⟩ := has
  cases applied : change.apply stored with
  | error reason =>
      refine .inl ⟨reason, ?_⟩
      simp [modify, found, applied]
  | ok changed =>
      exact .inr
        ⟨stored, changed, undated, applied, modify_eq_put found applied now⟩

/-- A change that succeeds on a variable succeeds wherever a store has it. -/
theorem modify_eq_of_apply
    {change : Change}
    {stored changed : Variable}
    (has : store.Has value)
    (undated : stored.undated = value.undated)
    (applied : change.apply stored = .ok changed)
    (now : Timestamp) :
    ∃ written,
      store.modify value.key change now =
        (.ok written, (store.put written).counting changed) ∧
        written.undated =
          { changed.undated with version := changed.version + 1 } := by
  obtain ⟨again, found, undatedAgain⟩ := has
  obtain ⟨other, appliedAgain, entries⟩ :=
    Change.apply_undated (undated.trans undatedAgain.symm) applied
  have same :=
    Variable.view_eq_of_undated_eq Variable.version (fun _ => rfl) entries
  refine ⟨_, counting_congr _ same ▸ modify_eq_put found appliedAgain now, ?_⟩
  rw [Variable.eq_of_undated_eq entries]
  rfl

end Has

end Store
end PromptTuning
