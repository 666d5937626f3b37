import Mathlib.Data.List.Nodup
import Mathlib.Tactic.Simps.Basic
import PromptTuning.Proofs.Store.Entries

/-!
# What a write changes

A store shows its keys in their order and the variable under each key. A write
to a present key leaves the order alone; a write to an absent key puts it at the
end, and the front key leaves before that exactly when the store is full, out of
the order and out of the contents. Whatever is written this way, order and
contents stay in step, and what was shown before determines what is shown after.
-/

namespace PromptTuning

/-- What a store shows: how many variables it may keep and how many it keeps,
the keys in their order and the variable under each key. -/
@[ext] structure StoreView where
  capacity : Nat
  count : Nat
  keys : List String
  find? : String -> Option Variable

namespace StoreView

/-- Order and contents are in step. -/
structure Consistent (view : StoreView) : Prop where
  distinct : view.keys.Nodup
  listed : ∀ key, key ∈ view.keys ↔ ∃ entry, view.find? key = some entry
  named : ∀ key entry, view.find? key = some entry -> entry.key = key
  counted : view.count = view.keys.length
  bounded : view.count ≤ view.capacity
  roomy : 0 < view.capacity

/-- A store that is full has a front key. -/
theorem Consistent.exists_front {view : StoreView}
    (consistent : view.Consistent) (full : view.capacity ≤ view.count) :
    ∃ oldest rest, view.keys = oldest :: rest := by
  refine List.exists_cons_of_length_pos ?_
  have counted := consistent.counted
  have roomy := consistent.roomy
  omega

/-- Where a write leaves its key, and what becomes of all others. -/
inductive Placed (before : StoreView) (key : String) (after : StoreView) : Prop
  | kept
      (present : key ∈ before.keys)
      (keys : after.keys = before.keys)
      (count : after.count = before.count)
      (others : ∀ other, other ≠ key -> after.find? other = before.find? other)
  | appended
      (absent : key ∉ before.keys)
      (room : before.count < before.capacity)
      (keys : after.keys = before.keys ++ [key])
      (count : after.count = before.count + 1)
      (others : ∀ other, other ≠ key -> after.find? other = before.find? other)
  | displaced
      (oldest : String)
      (rest : List String)
      (absent : key ∉ before.keys)
      (full : before.capacity ≤ before.count)
      (front : before.keys = oldest :: rest)
      (keys : after.keys = rest ++ [key])
      (count : after.count = before.count)
      (gone : after.find? oldest = none)
      (others : ∀ other, other ≠ oldest -> other ≠ key ->
        after.find? other = before.find? other)

/-- What is shown before and after a write of one variable. -/
structure Wrote (before : StoreView) (entry : Variable) (after : StoreView) :
    Prop where
  capacity : after.capacity = before.capacity
  stored : after.find? entry.key = some entry
  placed : Placed before entry.key after

namespace Wrote

variable {before after other : StoreView} {entry : Variable}

/-- A variable that is shown after a write is the written one or was
shown before. -/
theorem find?_cases (wrote : Wrote before entry after) {key : String}
    {found : Variable} (shown : after.find? key = some found) :
    (key = entry.key ∧ found = entry) ∨
      (key ≠ entry.key ∧ before.find? key = some found) := by
  by_cases own : key = entry.key
  · subst own
    rw [wrote.stored] at shown
    exact .inl ⟨rfl, (Option.some.inj shown).symm⟩
  · refine .inr ⟨own, ?_⟩
    cases wrote.placed with
    | kept _ _ _ others => rw [← others key own, shown]
    | appended _ _ _ _ others => rw [← others key own, shown]
    | displaced oldest _ _ _ _ _ _ gone others =>
        have survives : key ≠ oldest := by
          rintro rfl
          rw [gone] at shown
          contradiction
        rw [← others key survives own, shown]

/-- A write keeps order and contents in step. -/
theorem consistent (wrote : Wrote before entry after)
    (inStep : before.Consistent) :
    after.Consistent := by
  have named :
      ∀ key found, after.find? key = some found -> found.key = key := by
    intro key found shown
    obtain ⟨rfl, rfl⟩ | ⟨_, shownBefore⟩ := wrote.find?_cases shown
    · rfl
    · exact inStep.named key found shownBefore
  have capacity := wrote.capacity
  have roomy := inStep.roomy
  have counted := inStep.counted
  have bounded := inStep.bounded
  have stored : ∃ found, after.find? entry.key = some found :=
    ⟨entry, wrote.stored⟩
  cases wrote.placed with
  | kept present keys count others =>
      refine ⟨?_, fun key => ?_, named, ?_, by omega, by omega⟩
      · rw [keys]
        exact inStep.distinct
      · rw [keys]
        by_cases own : key = entry.key
        · subst own
          exact iff_of_true present stored
        · rw [others key own]
          exact inStep.listed key
      · rw [count, keys, counted]
  | appended absent room keys count others =>
      refine ⟨?_, fun key => ?_, named, ?_, by omega, by omega⟩
      · rw [keys, ← List.concat_eq_append]
        exact inStep.distinct.concat absent
      · rw [keys, List.mem_append, List.mem_singleton]
        by_cases own : key = entry.key
        · subst own
          exact iff_of_true (.inr rfl) stored
        · rw [others key own, ← inStep.listed key, or_iff_left own]
      · rw [count, keys, List.length_append, counted, List.length_singleton]
  | displaced oldest rest absent full front keys count gone others =>
      have distinct := inStep.distinct
      rw [front, List.nodup_cons] at distinct
      rw [front, List.mem_cons, not_or] at absent
      refine ⟨?_, fun key => ?_, named, ?_, by omega, by omega⟩
      · rw [keys, ← List.concat_eq_append]
        exact distinct.2.concat absent.2
      · rw [keys, List.mem_append, List.mem_singleton]
        by_cases own : key = entry.key
        · subst own
          exact iff_of_true (.inr rfl) stored
        · rw [or_iff_left own]
          by_cases dropped : key = oldest
          · subst dropped
            simp [gone, distinct.1]
          · rw [others key dropped own, ← inStep.listed key, front,
              List.mem_cons, or_iff_right dropped]
      · rw [count, keys, counted, front]
        simp

/-- What is shown before a write determines what is shown after it. -/
theorem unique (first : Wrote before entry after)
    (second : Wrote before entry other) :
    after = other := by
  have capacity := first.capacity.trans second.capacity.symm
  have own := first.stored.trans second.stored.symm
  have contents
      (agree : ∀ key, key ≠ entry.key -> after.find? key = other.find? key) :
          after.find? = other.find? := by
        funext key
        by_cases same : key = entry.key
        · rw [same, own]
        · exact agree key same
  cases first.placed with
  | kept present keys count others =>
      cases second.placed with
      | kept _ keys' count' others' =>
          refine StoreView.ext capacity (count.trans count'.symm)
            (keys.trans keys'.symm)
            (contents fun key different => ?_)
          exact (others key different).trans (others' key different).symm
      | appended absent => exact absurd present absent
      | displaced _ _ absent => exact absurd present absent
  | appended absent room keys count others =>
      cases second.placed with
      | kept present => exact absurd present absent
      | appended _ _ keys' count' others' =>
          refine StoreView.ext capacity (count.trans count'.symm)
            (keys.trans keys'.symm)
            (contents fun key different => ?_)
          exact (others key different).trans (others' key different).symm
      | displaced _ _ _ full => exact absurd room (Nat.not_lt.mpr full)
  | displaced oldest rest absent full front keys count gone others =>
      cases second.placed with
      | kept present => exact absurd present absent
      | appended _ room => exact absurd room (Nat.not_lt.mpr full)
      | displaced _ _ _ _ front' keys' count' gone' others' =>
          rw [front] at front'
          obtain ⟨rfl, rfl⟩ := List.cons.inj front'
          refine StoreView.ext capacity (count.trans count'.symm)
            (keys.trans keys'.symm)
            (contents fun key different => ?_)
          by_cases dropped : key = oldest
          · rw [dropped, gone, gone']
          · exact (others key dropped different).trans
              (others' key dropped different).symm

end Wrote

/-- What is shown before and after writes of variables one after the other. -/
inductive Written : StoreView -> List Variable -> StoreView -> Prop
  | none (view : StoreView) : Written view [] view
  | next
      {before between after : StoreView}
      {entry : Variable}
      {entries : List Variable}
      (first : Wrote before entry between)
      (rest : Written between entries after) :
      Written before (entry :: entries) after

namespace Written

variable {before after other : StoreView} {entries : List Variable}

/-- One write is a list of writes. -/
theorem single {entry : Variable} (wrote : Wrote before entry after) :
    Written before [entry] after :=
  .next wrote (.none after)

/-- Nothing changes where nothing is written. -/
theorem eq_of_nil (written : Written before [] after) : after = before := by
  cases written
  rfl

/-- A list of one write is that write. -/
theorem wrote_of_single {entry : Variable}
    (written : Written before [entry] after) :
    Wrote before entry after := by
  cases written with
  | next first rest =>
      cases rest
      exact first

/-- Writes keep order and contents in step. -/
theorem consistent (written : Written before entries after)
    (inStep : before.Consistent) :
    after.Consistent := by
  induction written with
  | none => exact inStep
  | next first _ inductionHypothesis =>
      exact inductionHypothesis (first.consistent inStep)

/-- Writes leave the room of a store alone. -/
theorem capacity_eq (written : Written before entries after) :
    after.capacity = before.capacity := by
  induction written with
  | none => rfl
  | next first _ inductionHypothesis =>
      exact inductionHypothesis.trans first.capacity

/-- What a store shows after writes is determined by them. -/
theorem unique (first : Written before entries after)
    (second : Written before entries other) :
    after = other := by
  induction first with
  | none =>
      cases second
      rfl
  | next wrote _ inductionHypothesis =>
      cases second with
      | next wrote' rest' =>
          obtain rfl := wrote.unique wrote'
          exact inductionHypothesis rest'

/-- Writing a list of variables, whatever it is that is written to. -/
theorem foldl
    {α : Type}
    (view : α -> StoreView)
    {write : α -> Variable -> α}
    (wrote : ∀ state entry, (view state).Consistent ->
      Wrote (view state) entry (view (write state entry)))
    (entries : List Variable)
    {state : α}
    (inStep : (view state).Consistent) :
    Written (view state) entries (view (entries.foldl write state)) := by
  induction entries generalizing state with
  | nil => exact .none _
  | cons entry entries inductionHypothesis =>
      have first := wrote state entry inStep
      exact .next first (inductionHypothesis (first.consistent inStep))

end Written
end StoreView

namespace Store

/-- What a store shows. -/
@[simps] def view (store : Store) : StoreView where
  capacity := store.capacity
  count := store.entries.length
  keys := store.keys
  find? := store.find?

/-- A store shows nothing of the locks that an insertion prunes. -/
theorem view_insert (store : Store) (entry : Variable) :
    (store.insert entry).view = (store.put entry).view := by
  unfold insert
  split <;> rfl

section Put

variable {store : Store} {entry : Variable}

/-- The variable under a key, once a variable went behind those of a list. -/
theorem find?_append_singleton
    {entries : List Variable}
    (absent : entry.key ∉ entries.map (·.key))
    (key : String) :
    (entries ++ [entry]).find? (·.key == key) =
      if key = entry.key then some entry else entries.find? (·.key == key) := by
  rw [List.find?_append, List.find?_singleton]
  by_cases own : key = entry.key
  · subst own
    have missing : entries.find? (·.key == entry.key) = none := by
      simpa [List.find?_eq_none] using absent
    simp [missing]
  · simp [own, Ne.symm own]

/-- Where there is room, an absent key goes to the end. -/
theorem placed_put_of_room (absent : entry.key ∉ store.keys)
    (room : store.entries.length < store.capacity) :
    store.view.Placed entry.key (store.put entry).view := by
  have spacious : store.isFull = false := decide_eq_false (Nat.not_le.mpr room)
  have entries := entries_put_of_absent absent
  rw [spacious, if_neg Bool.false_ne_true] at entries
  refine .appended absent room ?_ ?_ fun other different => ?_
  · simp [keys, entries]
  · simp [entries]
  · rw [view_find?, find?, entries, find?_append_singleton absent,
      if_neg different]
    rfl

/-- Where there is none, the front key leaves first. -/
theorem placed_put_of_full (distinct : store.keys.Nodup)
    (absent : entry.key ∉ store.keys)
    (full : store.capacity ≤ store.entries.length) :
    store.view.Placed entry.key (store.put entry).view := by
  obtain ⟨oldest, rest, split⟩ :
      ∃ oldest rest, store.entries = oldest :: rest :=
    List.exists_cons_of_length_pos (Nat.lt_of_lt_of_le store.capacity_pos full)
  have front : store.keys = oldest.key :: rest.map (·.key) := by
    rw [keys, split, List.map_cons]
  have crowded : store.isFull = true := decide_eq_true full
  have entries := entries_put_of_absent absent
  rw [crowded, if_pos rfl, split, List.tail_cons] at entries
  have others := absent
  rw [front, List.mem_cons, not_or] at others
  rw [front, List.nodup_cons] at distinct
  have found (key : String) : (store.put entry).find? key =
      if key = entry.key then some entry else rest.find? (·.key == key) := by
    rw [find?, entries, find?_append_singleton others.2]
  refine .displaced oldest.key _ absent full front ?_ ?_
    ?_ fun other survives different => ?_
  · simp [keys, entries]
  · simp [entries, split]
  · rw [view_find?, found, if_neg (Ne.symm others.1)]
    simpa [List.find?_eq_none] using distinct.1
  · rw [view_find?, found, if_neg different, view_find?, find?, split,
      List.find?_cons_of_neg]
    simpa using Ne.symm survives

/-- A store writes as every store shows it. -/
theorem wrote_put (inStep : store.view.Consistent) (entry : Variable) :
    store.view.Wrote entry (store.put entry).view := by
  by_cases present : entry.key ∈ store.keys
  · have contained := contains_iff_mem_keys.mpr present
    refine ⟨capacity_put, find?_put_self contained,
      .kept present (keys_put contained) ?_
        fun other different => find?_put_of_ne contained different⟩
    simp [entries_put contained]
  · have stored : (store.put entry).find? entry.key = some entry := by
      have remaining : entry.key ∉
          (if store.isFull then store.entries.tail else store.entries).map
            (·.key) := by
        split
        · exact fun listed =>
            present (((List.tail_sublist _).map _).subset listed)
        · exact present
      rw [find?, entries_put_of_absent present,
        find?_append_singleton remaining, if_pos rfl]
    refine ⟨capacity_put, stored, ?_⟩
    obtain room | full := Nat.lt_or_ge store.entries.length store.capacity
    · exact placed_put_of_room present room
    · exact placed_put_of_full inStep.distinct present full

/-- Variables that are put in one by one are written as every store shows it. -/
theorem written_putAll (inStep : store.view.Consistent)
    (entries : List Variable) :
    StoreView.Written store.view entries (entries.foldl put store).view :=
  .foldl view (fun _ entry inStep => wrote_put inStep entry) entries inStep

end Put

/-- Order and contents of an empty store are in step. -/
theorem consistent_withCapacity (capacity : Nat) :
    (withCapacity capacity).view.Consistent where
  distinct := List.nodup_nil
  listed key := by simp [view, withCapacity, keys, find?]
  named key entry shown := by simp [view, withCapacity, find?] at shown
  counted := rfl
  bounded := Nat.zero_le _
  roomy := (withCapacity capacity).capacity_pos

end Store
end PromptTuning
