import PromptTuning.Store.Basic

/-!
# Writing to stored variables

A write to a key that is present replaces the variable of that key and nothing
else: the order of the keys, the other variables and the locks stay.
-/

namespace PromptTuning
namespace Store

/-- A store contains the keys that it lists. -/
theorem contains_iff_mem_keys {store : Store} {key : String} :
    store.contains key = true ↔ key ∈ store.keys := by
  simp [contains, keys]

/-- The variable that is found under a key has that key. -/
theorem key_of_find? {store : Store} {key : String} {entry : Variable}
    (stored : store.find? key = some entry) : entry.key = key := by
  simpa using List.find?_some stored

/-- A store contains a key if a variable is found under it. -/
theorem contains_iff_find? {store : Store} {key : String} :
    store.contains key = true ↔ ∃ entry, store.find? key = some entry := by
  rw [contains, List.any_eq_true, find?, ← Option.isSome_iff_exists,
    List.find?_isSome]

theorem contains_of_find? {store : Store} {key : String} {entry : Variable}
    (stored : store.find? key = some entry) : store.contains key = true :=
  contains_iff_find?.mpr ⟨entry, stored⟩

/-- Nothing is found under a key that is not listed. -/
theorem find?_eq_none_iff {store : Store} {key : String} :
    store.find? key = none ↔ key ∉ store.keys := by
  rw [← contains_iff_mem_keys, contains_iff_find?,
    Option.eq_none_iff_forall_ne_some]
  simp

section Put

variable {store : Store} {entry : Variable}

/-- A variable takes the place of the one under its key. -/
theorem entries_put (present : store.contains entry.key = true) :
    (store.put entry).entries =
      store.entries.map fun old =>
        if old.key = entry.key then entry else old := by
  rw [put, if_pos present]

/-- A variable under a new key is put at the end, and a full store first drops
the oldest. -/
theorem entries_put_of_absent (absent : entry.key ∉ store.keys) :
    (store.put entry).entries =
      (if store.isFull then store.entries.tail else store.entries) ++
      [entry] := by
  rw [put, if_neg (by rwa [contains_iff_mem_keys])]

/-- No room is won or lost by storing a variable. -/
theorem capacity_put : (store.put entry).capacity = store.capacity := by
  unfold put
  split <;> rfl

/-- A variable that is put in leaves the locks alone. -/
theorem locks_put : (store.put entry).locks = store.locks := by
  unfold put
  split <;> rfl

/-- A variable under a present key leaves the order of the keys alone. -/
theorem keys_put (present : store.contains entry.key = true) :
    (store.put entry).keys = store.keys := by
  rw [keys, entries_put present, List.map_map, keys]
  apply List.map_congr_left
  intro old _
  by_cases same : old.key = entry.key <;> simp [same]

/-- What is put under a present key is found there. -/
theorem find?_put_self (present : store.contains entry.key = true) :
    (store.put entry).find? entry.key = some entry := by
  obtain ⟨stored, found⟩ := contains_iff_find?.mp present
  unfold find? at found ⊢
  rw [entries_put present, List.find?_map]
  have matching : (fun old : Variable => old.key == entry.key) ∘
      (fun old => if old.key = entry.key then entry else old) =
        fun old => old.key == entry.key := by
    funext old
    by_cases same : old.key = entry.key <;> simp [same]
  rw [matching, found, Option.map_some, if_pos (key_of_find? found)]

/-- What is put under one present key is found under no other. -/
theorem find?_put_of_ne
    (present : store.contains entry.key = true)
    {key : String}
    (different : key ≠ entry.key) :
    (store.put entry).find? key = store.find? key := by
  unfold find?
  rw [entries_put present, List.find?_map]
  have matching : (fun old : Variable => old.key == key) ∘
      (fun old => if old.key = entry.key then entry else old) = fun old =>
        old.key == key := by
    funext old
    by_cases same : old.key = entry.key <;> simp [same]
  rw [matching]
  cases found : store.entries.find? (·.key == key) with
  | none => rfl
  | some old =>
      have named : old.key = key := by simpa using List.find?_some found
      have other : old.key ≠ entry.key := by
        rw [named]
        exact different
      rw [Option.map_some, if_neg other]

end Put

section Counting

variable (entry : Variable) (store : Store)

@[simp] theorem entries_counting :
    (store.counting entry).entries = store.entries := rfl

@[simp] theorem keys_counting : (store.counting entry).keys = store.keys := rfl

@[simp] theorem locks_counting : (store.counting entry).locks = store.locks :=
  rfl

@[simp] theorem capacity_counting :
    (store.counting entry).capacity = store.capacity := rfl

@[simp] theorem find?_counting (key : String) :
    (store.counting entry).find? key = store.find? key := rfl

/-- What a write adds to the count depends on the version alone. -/
theorem counting_congr {entry other : Variable}
    (same : entry.version = other.version) :
    store.counting entry = store.counting other := by
  rw [counting, counting, Variable.isExhausted, Variable.isExhausted, same]

end Counting

/-- A commit to a present key is a write that goes on counting the versions
of that key. -/
theorem commit_eq_put
    {store : Store}
    {entry stored : Variable}
    (found : store.find? entry.key = some stored)
    (now : Timestamp) :
    store.commit entry now =
      (store.put { entry with
        version := stored.version + 1
        updatedAt := now }).counting stored := by
  have present := contains_of_find? found
  simp [commit, found, insert, Variable.touch, present, counting,
    Variable.isExhausted]

/-- A change that succeeds is a write of the changed variable to its own key. -/
theorem modify_eq_put
    {store : Store}
    {key : String}
    {entry changed : Variable}
    {change : Change}
    (found : store.find? key = some entry)
    (applied : change.apply entry = .ok changed)
    (now : Timestamp) :
    store.modify key change now =
      (.ok (changed.touch now),
        (store.put (changed.touch now)).counting changed) := by
  simp [modify, found, applied]

section Locks

/-- Variables that are put in one by one leave the locks alone. -/
theorem locks_putAll (store : Store) (entries : List Variable) :
    (entries.foldl put store).locks = store.locks := by
  induction entries generalizing store with
  | nil => rfl
  | cons entry entries inductionHypothesis =>
      exact (inductionHypothesis _).trans locks_put

/-- A restoration makes no lock. -/
theorem locks_restoreAll (store : Store) (entries : List Variable) :
    ∀ lock ∈ (store.restoreAll entries).locks, lock ∈ store.locks := by
  intro lock listed
  rw [← locks_putAll store entries]
  exact (List.mem_filter.mp listed).1

/-- An insertion makes no lock. -/
theorem locks_insert (store : Store) (entry : Variable) :
    ∀ lock ∈ (store.insert entry).locks, lock ∈ store.locks := by
  intro lock listed
  unfold insert at listed
  split at listed
  · have kept := (List.mem_filter.mp listed).1
    rw [locks_put] at kept
    exact kept
  · rw [locks_put] at listed
    exact listed

/-- A registration makes no lock. -/
theorem locks_register (store : Store) (key : String)
    (initial : Option Instructions) (now : Timestamp) :
    ∀ lock ∈ (store.register key initial now).2.locks, lock ∈ store.locks := by
  unfold register
  split
  · exact fun _ listed => listed
  · exact store.locks_insert _

/-- A commit makes no lock. -/
theorem locks_commit (store : Store) (entry : Variable) (now : Timestamp) :
    ∀ lock ∈ (store.commit entry now).locks, lock ∈ store.locks :=
  store.locks_insert _

/-- A change in place makes no lock. -/
theorem locks_modify (store : Store) (key : String) (change : Change)
    (now : Timestamp) :
    ∀ lock ∈ (store.modify key change now).2.locks, lock ∈ store.locks := by
  unfold modify
  cases store.find? key with
  | none => exact fun _ listed => listed
  | some entry =>
      dsimp only
      split
      · exact fun _ listed => listed
      · intro lock listed
        rw [locks_counting, locks_put] at listed
        exact listed

end Locks

end Store

namespace Change

/-- A change leaves a variable under its key. -/
theorem key_of_apply
    {change : Change}
    {entry changed : Variable}
    (applied : change.apply entry = .ok changed) :
    changed.key = entry.key := by
  cases change with
  | append prediction =>
      obtain rfl := Except.ok.inj applied
      rfl
  | attach index reward =>
      rw [apply] at applied
      split at applied
      · obtain rfl := Except.ok.inj applied
        rfl
      · contradiction
  | update content =>
      obtain rfl := Except.ok.inj applied
      rfl

end Change
end PromptTuning
