import Mathlib.Data.List.DropRight
import PromptTuning.Proofs.Store.Writing
import PromptTuning.Proofs.Variable.Document

/-!
# Restoring snapshots

A snapshot lists the variables of a store in their order. A store that is empty
keeps the last ones of it, as many as there is room for, and a store is left as
it was by its own snapshot, but for locks that nobody needs any more.
-/

namespace PromptTuning
namespace Store

section Rtake

variable {α : Type} (front back : List α) (room : Nat)

/-- What was cut off in front before is cut off later anyway. -/
theorem rtake_append_rtake :
    (front.rtake room ++ back).rtake room = (front ++ back).rtake room := by
  simp only [List.rtake_eq_reverse_take_reverse, List.reverse_append,
    List.reverse_reverse, List.take_append, List.take_take, List.length_reverse,
    Nat.sub_le, min_eq_left]

theorem rtake_of_length_le (fits : front.length ≤ room) :
    front.rtake room = front := by
  rw [List.rtake, Nat.sub_eq_zero_of_le fits, List.drop_zero]

end Rtake

variable {store : Store} {entry : Variable} {entries : List Variable}

/-- A variable under an absent key goes to the end, and the last ones stay. -/
theorem entries_put_eq_rtake
    (bounded : store.entries.length ≤ store.capacity)
    (absent : entry.key ∉ store.keys) :
    (store.put entry).entries =
      (store.entries ++ [entry]).rtake store.capacity := by
  have roomy := store.capacity_pos
  rw [entries_put_of_absent absent, isFull, List.rtake, List.length_append,
    List.length_singleton]
  obtain room | full := Nat.lt_or_ge store.entries.length store.capacity
  · rw [if_neg (by simpa using room), Nat.sub_eq_zero_of_le room,
      List.drop_zero]
  · have length : store.entries.length + 1 - store.capacity = 1 := by omega
    rw [if_pos (decide_eq_true full), length,
      List.drop_append_of_le_length (by omega), List.drop_one]

/-- Of variables under absent keys that are stored one after the other, the
last ones stay. -/
theorem entries_putAll_eq_rtake
    (bounded : store.entries.length ≤ store.capacity)
    (distinct : ((store.entries ++ entries).map (·.key)).Nodup) :
    (entries.foldl put store).entries =
      (store.entries ++ entries).rtake store.capacity := by
  induction entries generalizing store with
  | nil => rw [List.foldl_nil, List.append_nil, rtake_of_length_le _ _ bounded]
  | cons entry entries inductionHypothesis =>
      have absent : entry.key ∉ store.keys := by
        rw [List.map_append, List.map_cons] at distinct
        exact fun listed =>
          List.disjoint_of_nodup_append distinct listed List.mem_cons_self
      have stored := entries_put_eq_rtake bounded absent
      have split :
          store.entries ++ entry :: entries =
            (store.entries ++ [entry]) ++ entries := by
        simp
      rw [split] at distinct ⊢
      have kept : ((store.put entry).entries ++ entries).Sublist
          ((store.entries ++ [entry]) ++ entries) := by
        rw [stored]
        exact (List.drop_sublist _ _).append_right entries
      rw [List.foldl_cons,
        inductionHypothesis ?bounded (distinct.sublist (kept.map _)), stored,
        capacity_put, rtake_append_rtake]
      case bounded =>
        rw [stored, capacity_put, List.rtake, List.length_drop]
        omega

/-- A variable that is stored already is written over itself. -/
theorem put_eq_self (distinct : store.keys.Nodup)
    (stored : entry ∈ store.entries) :
    store.put entry = store := by
  have present : store.contains entry.key = true :=
    contains_iff_mem_keys.mpr (List.mem_map_of_mem stored)
  have kept :
      store.entries.map
        (fun old => if old.key = entry.key then entry else old) =
        store.entries := by
    refine (List.map_congr_left fun old listed => ?_).trans (List.map_id _)
    split
    · rename_i same
      exact (List.inj_on_of_nodup_map distinct listed stored same).symm
    · rfl
  rw [put, if_pos present, kept]

theorem putAll_eq_self (distinct : store.keys.Nodup)
    (stored : entries ⊆ store.entries) :
    entries.foldl put store = store := by
  induction entries with
  | nil => rfl
  | cons entry entries inductionHypothesis =>
      obtain ⟨first, others⟩ := List.cons_subset.mp stored
      rw [List.foldl_cons, put_eq_self distinct first,
        inductionHypothesis others]

/-- A document that lists variables is read as these variables. -/
theorem readSnapshot_variables
    (finite :
      ∀ entry ∈ entries, ∀ reward ∈ entry.rewards, reward.isFinite = true)
    (denoted : ∀ entry ∈ entries,
      Timestamp.ofText? entry.updatedAt.render = some entry.updatedAt) :
    readSnapshot
      (.object [("variables", .array (entries.map Variable.toJson))]) =
      .ok entries := by
  have read :
      Decoder.list Variable.decode (.array (entries.map Variable.toJson)) =
        .ok entries :=
    Decoder.list_array fun entry listed =>
      Variable.decode_toJson (finite entry listed) (denoted entry listed)
  change ((Decoder.list Variable.decode
    (.array (entries.map Variable.toJson))).mapError
    StoreError.undecodable) = _
  rw [read]
  rfl

section Snapshot

variable
  (finite : ∀ entry ∈ store.entries, ∀ reward ∈ entry.rewards,
    reward.isFinite = true)
  (denoted : ∀ entry ∈ store.entries,
    Timestamp.ofText? entry.updatedAt.render = some entry.updatedAt)

include finite denoted

theorem readSnapshot_snapshot :
    readSnapshot store.snapshot = .ok store.entries :=
  readSnapshot_variables finite denoted

/-- A store that is empty keeps the last variables of a snapshot. -/
theorem restore_snapshot_of_empty
    (distinct : store.keys.Nodup)
    {empty : Store}
    (nothing : empty.entries = []) :
    ∃ restored,
      empty.restore store.snapshot = .ok (store.entries.length, restored) ∧
      restored.entries = store.entries.rtake empty.capacity := by
  refine ⟨empty.restoreAll store.entries, ?_, ?_⟩
  · rw [restore, readSnapshot_snapshot finite denoted]
    rfl
  · have kept : (store.entries.foldl put empty).entries =
        (empty.entries ++ store.entries).rtake empty.capacity :=
      entries_putAll_eq_rtake (by simp [nothing])
        (by simpa [nothing, keys] using distinct)
    rw [nothing, List.nil_append] at kept
    exact kept

/-- A store keeps what it has when its own snapshot is restored. -/
theorem restore_own_snapshot (distinct : store.keys.Nodup) :
    store.restore store.snapshot =
      .ok (store.entries.length, store.pruneLocks) := by
  rw [restore, readSnapshot_snapshot finite denoted]
  change Except.ok (_, (store.entries.foldl put store).pruneLocks) = _
  rw [putAll_eq_self distinct (List.Subset.refl _)]

end Snapshot

end Store
end PromptTuning
