import PromptTuning.Proofs.Store.Writing
import PromptTuning.Store.Calls

/-!
# Contents and order in two tables

A store that keeps its contents and its order in two tables writes as every
store shows it, through the one insertion as well as in place. So the two tables
stay in step.
-/

namespace PromptTuning

namespace Tables

/-- What the tables show: the keys from the order, the variables from
the contents. -/
@[simps] def view (tables : Tables) : StoreView where
  capacity := tables.capacity
  count := tables.contents.size
  keys := tables.order
  find? := fun key => tables.contents[key]?

theorem consistent_withCapacity (capacity : Nat) :
    (withCapacity capacity).view.Consistent where
  distinct := List.nodup_nil
  listed key := by simp [withCapacity]
  named key entry shown := by simp [withCapacity] at shown
  counted := by simp [withCapacity]
  bounded := by simp [withCapacity]
  roomy := Nat.lt_of_lt_of_le Nat.one_pos (Nat.le_max_right capacity 1)

section Write

variable {tables : Tables} {entry : Variable}

/-- While both tables are in step, a key has an entry just if it is
in the order. -/
theorem mem_contents_iff (inStep : tables.view.Consistent) {key : String} :
    key ∈ tables.contents ↔ key ∈ tables.order := by
  rw [Std.HashMap.mem_iff_isSome_getElem?, Option.isSome_iff_exists]
  exact (inStep.listed key).symm

/-- Storing a variable under a present key leaves the order alone. -/
theorem placed_insert (inStep : tables.view.Consistent)
    (present : entry.key ∈ tables.order) :
    tables.view.Placed entry.key
      (view { tables with
        contents := tables.contents.insert entry.key entry }) := by
  have member := (mem_contents_iff inStep).mpr present
  refine .kept present rfl ?_ fun other different => ?_
  · simp [Std.HashMap.size_insert, member]
  · simp [Std.HashMap.getElem?_insert, different.symm]

/-- A key that is absent comes last in the order, with its entry. -/
theorem placed_enqueue (inStep : tables.view.Consistent)
    (absent : entry.key ∉ tables.order) :
    tables.view.Placed entry.key
      (view { tables.enqueue entry.key with
        contents :=
          (tables.enqueue entry.key).contents.insert entry.key entry }) := by
  have missing : entry.key ∉ tables.contents := fun member =>
    absent ((mem_contents_iff inStep).mp member)
  by_cases full : tables.capacity ≤ tables.contents.size
  · obtain ⟨oldest, rest, front⟩ := inStep.exists_front full
    rw [view_keys] at front
    have distinct := inStep.distinct
    rw [view_keys, front, List.nodup_cons] at distinct
    have stored : oldest ∈ tables.contents :=
      (mem_contents_iff inStep).mpr (front ▸ List.mem_cons_self)
    have other : entry.key ≠ oldest := fun same => missing (same ▸ stored)
    have dropped : tables.enqueue entry.key =
        ⟨tables.capacity, tables.contents.erase oldest,
          rest ++ [entry.key]⟩ := by
      simp [enqueue, dropOldest, full, front]
    rw [dropped]
    refine .displaced oldest rest absent full front rfl ?_
      ?_ fun key survives different => ?_
    · have positive : 0 < tables.contents.size :=
        Nat.lt_of_lt_of_le inStep.roomy full
      simp [Std.HashMap.size_insert, Std.HashMap.size_erase, missing, stored]
      omega
    · simp [other]
    · simp [Std.HashMap.getElem?_insert, Std.HashMap.getElem?_erase,
        survives.symm, different.symm]
  · have appended : tables.enqueue entry.key =
        { tables with order := tables.order ++ [entry.key] } := by
      simp [enqueue, full]
    rw [appended]
    refine .appended absent (Nat.not_le.mp full) rfl ?_ fun key different => ?_
    · simp [Std.HashMap.size_insert, missing]
    · simp [Std.HashMap.getElem?_insert, different.symm]

/-- The tables write as every store shows it. -/
theorem wrote_write (inStep : tables.view.Consistent) (entry : Variable) :
    tables.view.Wrote entry (tables.write entry).view := by
  have capacity : (tables.enqueue entry.key).capacity = tables.capacity := by
    unfold enqueue dropOldest
    dsimp only
    split
    · split <;> rfl
    · rfl
  by_cases present : entry.key ∈ tables.order
  · have stored : tables.contents[entry.key]?.isNone = false := by
      simpa using (mem_contents_iff inStep).mpr present
    simp only [write, stored, Bool.false_eq_true, if_false]
    exact ⟨rfl, by simp, placed_insert inStep present⟩
  · have missing : tables.contents[entry.key]?.isNone = true := by
      simpa using fun member => present ((mem_contents_iff inStep).mp member)
    simp only [write, missing, if_true]
    exact ⟨capacity, by simp, placed_enqueue inStep present⟩

/-- Entries written one after another are all written. -/
theorem written_writeAll (inStep : tables.view.Consistent)
    (entries : List Variable) :
    StoreView.Written tables.view entries (entries.foldl write tables).view :=
  .foldl view (fun _ entry inStep => wrote_write inStep entry) entries inStep

end Write

end Tables
end PromptTuning
