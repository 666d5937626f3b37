import Mathlib.Data.List.Dedup
import Mathlib.Data.List.Perm.Subperm
import PromptTuning.Proofs.Concurrency.Service
import PromptTuning.Proofs.Store.Snapshot

/-!
# Restoring into a store that is not empty

The records of a snapshot are stored one by one. A record under a stored key is
written in the place of that key, which stays as old as it was, so a later
record under an absent key can still push it out of a full store. The keys that
are pushed out this way are the only ones of a snapshot that a store does not
have in the end.
-/

namespace PromptTuning

/-- The last variable of a list under a key. -/
def lastUnder? (entries : List Variable) (key : String) : Option Variable :=
  entries.reverse.find? (·.key == key)

theorem lastUnder?_cons (entry : Variable) (entries : List Variable)
    (key : String) :
    lastUnder? (entry :: entries) key =
      (lastUnder? entries key).or
        (if entry.key = key then some entry else none) := by
  rw [lastUnder?, List.reverse_cons, List.find?_append, List.find?_singleton,
    lastUnder?]
  simp

/-- A key under which a last record is found is the key of a record. -/
theorem mem_keys_of_lastUnder? {entries : List Variable} {key : String}
    {last : Variable} (found : lastUnder? entries key = some last) :
    key ∈ entries.map (·.key) := by
  have named : last.key = key := by simpa using List.find?_some found
  rw [← named]
  exact List.mem_map_of_mem
    (List.mem_reverse.mp (List.mem_of_find?_eq_some found))

/-- What is shown after writes is the last that was written there, or was
shown before. -/
theorem StoreView.Written.or_eq_of_find?
    {before after : StoreView}
    {entries : List Variable}
    (written : Written before entries after)
    {key : String}
    {found : Variable}
    (shown : after.find? key = some found) :
    (lastUnder? entries key).or (before.find? key) = some found := by
  induction written with
  | none => exact shown
  | next first _ inductionHypothesis =>
      have later := inductionHypothesis shown
      rw [lastUnder?_cons, Option.or_assoc]
      cases last : lastUnder? _ key with
      | some value =>
          rw [last] at later
          exact later
      | none =>
          rw [last, Option.none_or] at later
          rw [Option.none_or]
          obtain ⟨rfl, rfl⟩ | ⟨other, shownBefore⟩ := first.find?_cases later
          · rw [if_pos rfl, Option.some_or]
          · rw [if_neg (Ne.symm other), Option.none_or, shownBefore]

namespace Store

/-- The keys that are added to a store, in order, as variables are stored one
after the other. -/
def addedKeys (store : Store) : List Variable -> List String
  | [] => []
  | entry :: rest =>
      (if entry.key ∈ store.keys then [] else [entry.key]) ++
      (store.put entry).addedKeys rest

variable {store : Store} {entry : Variable} {entries : List Variable}
  {key : String}

/-- A variable under a new key leaves as many of the latest keys as there
is room for. -/
theorem keys_put_eq_rtake (inStep : store.view.Consistent)
    (absent : entry.key ∉ store.keys) :
    (store.put entry).keys =
      (store.keys ++ [entry.key]).rtake store.capacity := by
  rw [keys, entries_put_eq_rtake inStep.bounded absent, List.rtake,
    List.map_drop, List.map_append, List.rtake]
  simp [keys]

/-- A key is as old as it was first added; the oldest ones leave. -/
theorem keys_putAll (inStep : store.view.Consistent) (entries : List Variable) :
    (entries.foldl put store).keys =
      (store.keys ++ store.addedKeys entries).rtake store.capacity := by
  induction entries generalizing store with
  | nil =>
      have bounded : store.keys.length ≤ store.capacity :=
        Nat.le_trans (Nat.le_of_eq inStep.counted.symm) inStep.bounded
      rw [List.foldl_nil, addedKeys, List.append_nil,
        rtake_of_length_le _ _ bounded]
  | cons entry entries inductionHypothesis =>
      have later :=
        inductionHypothesis ((wrote_put inStep entry).consistent inStep)
      rw [capacity_put] at later
      rw [List.foldl_cons, later, addedKeys]
      by_cases present : entry.key ∈ store.keys
      · rw [keys_put (contains_iff_mem_keys.mpr present), if_pos present,
          List.nil_append]
      · rw [keys_put_eq_rtake inStep present, if_neg present,
          rtake_append_rtake, List.append_assoc]

/-- Keys are added by the first records and then by the later ones. -/
theorem addedKeys_append (front back : List Variable) :
    store.addedKeys (front ++ back) =
      store.addedKeys front ++ (front.foldl put store).addedKeys back := by
  induction front generalizing store with
  | nil => rfl
  | cons entry front inductionHypothesis =>
      rw [List.cons_append, addedKeys, inductionHypothesis, addedKeys,
        List.foldl_cons, List.append_assoc]

/-- No keys are added but those of the records. -/
theorem addedKeys_subset (store : Store) (entries : List Variable) :
    store.addedKeys entries ⊆ entries.map (·.key) := by
  induction entries generalizing store with
  | nil => exact List.nil_subset _
  | cons entry entries inductionHypothesis =>
      rw [addedKeys, List.map_cons]
      refine List.append_subset.mpr ⟨?_, ?_⟩
      · split
        · exact List.nil_subset _
        · simp
      · exact fun key added =>
          List.mem_cons_of_mem _ (inductionHypothesis _ added)

/-- A key that is stored once a variable is put in is its key or was
stored before. -/
theorem mem_keys_put (stored : key ∈ (store.put entry).keys) :
    key = entry.key ∨ key ∈ store.keys := by
  by_cases present : entry.key ∈ store.keys
  · rw [keys_put (contains_iff_mem_keys.mpr present)] at stored
    exact .inr stored
  · rw [keys, entries_put_of_absent present, List.map_append,
      List.mem_append] at stored
    obtain before | own := stored
    · refine .inr ?_
      split at before
      · exact ((List.tail_sublist _).map _).subset before
      · exact before
    · exact .inl (by simpa using own)

/-- A key under which something is stored was there before or is added. -/
theorem mem_keys_or_mem_addedKeys (listed : key ∈ entries.map (·.key)) :
    key ∈ store.keys ∨ key ∈ store.addedKeys entries := by
  induction entries generalizing store with
  | nil => contradiction
  | cons entry entries inductionHypothesis =>
      rw [addedKeys, List.mem_append]
      by_cases present : key ∈ store.keys
      · exact .inl present
      · refine .inr ?_
        by_cases own : key = entry.key
        · subst own
          exact .inl (by simp [present])
        · have others : key ∈ entries.map (·.key) := by
            simpa [own] using listed
          obtain stored | added : key ∈ (store.put entry).keys ∨ _ :=
            inductionHypothesis others
          · obtain named | stored := mem_keys_put stored
            · exact absurd named own
            · exact absurd stored present
          · exact .inr added

section Few

/-- Texts that are all among others are, without repetitions, no more
than those. -/
theorem length_dedup_le {part whole : List String} (within : part ⊆ whole) :
    part.dedup.length ≤ whole.dedup.length :=
  ((List.nodup_dedup part).subperm fun _ listed =>
    List.mem_dedup.mpr (within (List.mem_dedup.mp listed))).length_le

/-- A store with room for every key that is stored adds none twice. -/
theorem nodup_addedKeys
    (inStep : store.view.Consistent)
    (few : (entries.map (·.key)).dedup.length ≤ store.capacity) :
    (store.addedKeys entries).Nodup := by
  induction entries using List.reverseRecOn with
  | nil => exact List.nodup_nil
  | append_singleton front entry inductionHypothesis =>
      have before : front <+: front ++ [entry] :=
        List.prefix_append front [entry]
      have fewer := Nat.le_trans (length_dedup_le (before.map _).subset) few
      have distinct := inductionHypothesis fewer
      have bounded : (store.addedKeys front).length ≤ store.capacity := by
        refine Nat.le_trans ?_ fewer
        exact (distinct.subperm fun key added =>
          List.mem_dedup.mpr (addedKeys_subset store front added)).length_le
      rw [addedKeys_append]
      simp only [addedKeys, List.append_nil]
      split
      case isTrue => simpa using distinct
      case isFalse absent =>
        -- A key that was added before is still there, as nothing could push it
        -- out.
        rw [← List.concat_eq_append]
        refine distinct.concat fun added => absent ?_
        rw [keys_putAll inStep, List.rtake, List.length_append,
          List.drop_append_of_le_length (by omega)]
        exact List.mem_append_right _ added

variable
  (inStep : store.view.Consistent)
  (few : (entries.map (·.key)).dedup.length ≤ store.capacity)

include inStep few

/-- No more keys are added than there is room for, if so many are new. -/
theorem length_addedKeys_le :
    (store.addedKeys entries).length ≤ store.capacity := by
  refine Nat.le_trans
    ((nodup_addedKeys inStep few).subperm fun key added => ?_).length_le few
  exact List.mem_dedup.mpr (addedKeys_subset store entries added)

/-- All added keys stay, and of the ones before the newest that there
is room for. -/
theorem mem_keys_putAll_iff :
    key ∈ (entries.foldl put store).keys ↔
      key ∈ store.keys.drop
        (store.keys.length +
          (store.addedKeys entries).length - store.capacity) ∨
        key ∈ store.addedKeys entries := by
  have bounded := length_addedKeys_le inStep few
  rw [keys_putAll inStep, List.rtake, List.length_append,
    List.drop_append_of_le_length (by omega), List.mem_append]

end Few

/-- A stored key is pushed out if it is not added again and the keys that are
added take its room and that of every older key. -/
structure PushedOut (store : Store) (entries : List Variable) (key : String) :
    Prop where
  stored : key ∈ store.keys
  replaced : key ∉ store.addedKeys entries
  crowded : store.capacity + store.keys.idxOf key <
    store.keys.length + (store.addedKeys entries).length

/-- A key survives the loss of the oldest ones if it stands far
enough behind. -/
theorem mem_drop_iff_le_idxOf {keys : List String} (distinct : keys.Nodup)
    (listed : key ∈ keys)
    (count : Nat) : key ∈ keys.drop count ↔ count ≤ keys.idxOf key := by
  have early := List.mem_take_iff_idxOf_lt (n := count) listed
  constructor
  · intro late
    by_contra before
    exact List.disjoint_take_drop distinct (Nat.le_refl count)
      (early.mpr (by omega)) late
  · intro behind
    rw [← List.take_append_drop count keys, List.mem_append] at listed
    exact listed.resolve_left fun front => absurd (early.mp front) (by omega)

/-- Of the keys of a snapshot a store has those in the end that are not
pushed out. -/
theorem mem_keys_putAll_iff_not_pushedOut
    (inStep : store.view.Consistent)
    (few : (entries.map (·.key)).dedup.length ≤ store.capacity)
    (listed : key ∈ entries.map (·.key)) :
    key ∈ (entries.foldl put store).keys ↔ ¬ store.PushedOut entries key := by
  rw [mem_keys_putAll_iff inStep few]
  by_cases added : key ∈ store.addedKeys entries
  · exact iff_of_true (.inr added) fun gone => gone.replaced added
  · have stored := (mem_keys_or_mem_addedKeys listed).resolve_right added
    have distinct : store.keys.Nodup := inStep.distinct
    rw [or_iff_left added, mem_drop_iff_le_idxOf distinct stored]
    constructor
    · intro behind gone
      have crowded := gone.crowded
      omega
    · intro kept
      by_contra front
      exact kept ⟨stored, added, by omega⟩

/-- What a store has in the end under a key of a snapshot. -/
theorem find?_putAll
    (inStep : store.view.Consistent)
    (few : (entries.map (·.key)).dedup.length ≤ store.capacity)
    {last : Variable}
    (found : lastUnder? entries key = some last) :
    (store.PushedOut entries key ->
      (entries.foldl put store).find? key = none) ∧
      (¬ store.PushedOut entries key ->
        (entries.foldl put store).find? key = some last) := by
  have stays := mem_keys_putAll_iff_not_pushedOut inStep few
    (mem_keys_of_lastUnder? found)
  constructor
  · intro gone
    exact find?_eq_none_iff.mpr fun stored => stays.mp stored gone
  · intro kept
    obtain ⟨shown, stored⟩ :=
      contains_iff_find?.mp (contains_iff_mem_keys.mpr (stays.mpr kept))
    have written := (written_putAll inStep entries).or_eq_of_find? stored
    rw [found, Option.some_or] at written
    rw [stored, written]

section Spared

/-- The keys of a list of variables that a store does not have yet. -/
def newKeys (store : Store) (entries : List Variable) : List String :=
  (entries.map (·.key)).dedup.filter (· ∉ store.keys)

/-- The oldest keys of a store, as many as have to leave for the new
keys of a list. -/
def outgoingKeys (store : Store) (entries : List Variable) : List String :=
  store.keys.take
    (store.keys.length + (store.newKeys entries).length - store.capacity)

/-- No key that has to leave is stored again. -/
def Spares (store : Store) (entries : List Variable) : Prop :=
  ∀ key ∈ store.outgoingKeys entries, key ∉ entries.map (·.key)

variable
  (inStep : store.view.Consistent)
  (few : (entries.map (·.key)).dedup.length ≤ store.capacity)
  (spares : store.Spares entries)

include inStep few spares

/-- The keys that the first records add are among those that are new. -/
theorem addedKeys_subset_newKeys {front : List Variable}
    (initial : front <+: entries) :
    store.addedKeys front ⊆ store.newKeys entries := by
  induction front using List.reverseRecOn with
  | nil => exact List.nil_subset _
  | append_singleton front entry inductionHypothesis =>
      have before : front <+: entries :=
        (List.prefix_append front [entry]).trans initial
      have added := inductionHypothesis before
      have listed : entry.key ∈ entries.map (·.key) :=
        List.mem_map_of_mem
          (initial.subset (List.mem_append_right _ List.mem_cons_self))
      have fewer := Nat.le_trans (length_dedup_le (before.map _).subset) few
      rw [addedKeys_append]
      refine List.append_subset.mpr ⟨added, ?_⟩
      simp only [addedKeys, List.append_nil]
      split
      case isTrue => exact List.nil_subset _
      case isFalse absent =>
        -- A stored key that is no longer there has left for new keys, so it is
        -- not listed.
        have fresh : entry.key ∉ store.keys := by
          intro stored
          have distinct : store.keys.Nodup := inStep.distinct
          rw [mem_keys_putAll_iff inStep fewer, not_or,
            mem_drop_iff_le_idxOf distinct stored] at absent
          have count := ((nodup_addedKeys inStep fewer).subperm added).length_le
          exact spares entry.key
            ((List.mem_take_iff_idxOf_lt stored).mpr (by omega)) listed
        refine List.cons_subset.mpr ⟨?_, List.nil_subset _⟩
        rw [newKeys, List.mem_filter, List.mem_dedup]
        exact ⟨listed, decide_eq_true fresh⟩

/-- The key of a record is not pushed out. -/
theorem not_pushedOut (listed : key ∈ entries.map (·.key)) :
    ¬ store.PushedOut entries key := by
  intro gone
  have fewer := ((nodup_addedKeys inStep few).subperm
    (addedKeys_subset_newKeys inStep few spares
      (List.prefix_refl entries))).length_le
  have crowded := gone.crowded
  exact spares key ((List.mem_take_iff_idxOf_lt gone.stored).mpr (by omega))
    listed

end Spared

end Store

namespace Setting

variable {σ : Type} {setting : Setting σ} {start : World σ} {capacity : Nat}
  {turns : List Turn}

/--
Of a snapshot with no more keys than a store may keep, the store has the last
record of every key in the end, except of those that are pushed out. None is if
the keys that have to leave for new ones are not in the snapshot.
-/
theorem restore_keeps_last_records
    {document : Json}
    {entries : List Variable}
    (accepted : Store.readSnapshot document = .ok entries)
    (few : (entries.map (·.key)).dedup.length ≤
      (setting.reached start capacity turns).capacity) :
    let store := setting.reached start capacity turns
    ∃ restored, store.restore document = .ok (entries.length, restored) ∧
      (∀ key last, lastUnder? entries key = some last ->
        (store.PushedOut entries key -> restored.find? key = none) ∧
          (¬ store.PushedOut entries key -> restored.find? key = some last)) ∧
      (store.Spares entries ->
        ∀ key last, lastUnder? entries key = some last ->
          restored.find? key = some last) := by
  intro store
  have inStep : store.view.Consistent :=
    setting.consistent_reached start capacity turns
  have kept {key : String} {last : Variable}
      (found : lastUnder? entries key = some last) :=
    Store.find?_putAll inStep few found
  refine ⟨store.restoreAll entries, ?_, fun _ _ => kept,
    fun spares _ _ found => ?_⟩
  · rw [Store.restore, accepted]
    rfl
  · exact (kept found).2
      (Store.not_pushedOut inStep few spares (mem_keys_of_lastUnder? found))

/-- The oldest key leaves for a new one and is added again by the record
that follows. -/
theorem restore_keeps_last_records_of_returning_key :
    let store :=
      refusing.reached .fresh 2 [.register "a" none, .register "b" none]
    let entries : List Variable :=
      [⟨"c", [], none, [], .idle, 7, default⟩,
        ⟨"a", [], none, [], .idle, 5, default⟩]
    let document :=
      Json.object [("variables", .array (entries.map Variable.toJson))]
    Store.readSnapshot document = .ok entries ∧
      (entries.map (·.key)).dedup.length ≤ store.capacity ∧
      ∃ restored, store.restore document = .ok (2, restored) ∧
        restored.find? "a" = some ⟨"a", [], none, [], .idle, 5, default⟩ ∧
        restored.find? "c" = some ⟨"c", [], none, [], .idle, 7, default⟩ := by
  intro store entries document
  have accepted : Store.readSnapshot document = .ok entries :=
    Store.readSnapshot_variables (by decide +kernel) (by decide +kernel)
  have few : (entries.map (·.key)).dedup.length ≤ store.capacity := by
    decide +kernel
  have added : store.addedKeys entries = ["c", "a"] := by decide +kernel
  obtain ⟨restored, restores, kept, _⟩ :=
    restore_keeps_last_records accepted few
  have stays {key : String} (listed : key ∈ ["c", "a"]) :
      ¬ store.PushedOut entries key :=
    fun gone => gone.replaced (added ▸ listed)
  exact ⟨accepted, few, restored, restores,
    (kept "a" _ rfl).2 (stays (by simp)),
    (kept "c" _ rfl).2 (stays (by simp))⟩

/-- A record that replaces the oldest key is accepted and gone once a new key
follows it. -/
theorem restored_record_pushed_out :
    let store :=
      refusing.reached .fresh 2 [.register "a" none, .register "b" none]
    let entries : List Variable :=
      [⟨"a", [], none, [], .idle, 5, default⟩,
        ⟨"c", [], none, [], .idle, 7, default⟩]
    let document :=
      Json.object [("variables", .array (entries.map Variable.toJson))]
    Store.readSnapshot document = .ok entries ∧
      (entries.map (·.key)).dedup.length ≤ store.capacity ∧
      lastUnder? entries "a" = some ⟨"a", [], none, [], .idle, 5, default⟩ ∧
      ∃ restored, store.restore document = .ok (2, restored) ∧
        restored.find? "a" = none := by
  intro store entries document
  have accepted : Store.readSnapshot document = .ok entries :=
    Store.readSnapshot_variables (by decide +kernel) (by decide +kernel)
  refine ⟨accepted, by decide +kernel, rfl, store.restoreAll entries, ?_, ?_⟩
  · rw [Store.restore, accepted]
    rfl
  · exact Store.find?_eq_none_iff.mpr (by decide +kernel)

end Setting
end PromptTuning
