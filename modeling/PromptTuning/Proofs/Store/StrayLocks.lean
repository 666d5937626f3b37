import PromptTuning.Proofs.Store.Exclusion

/-!
# Locks of dropped keys

The lock of a key outlives the key while somebody holds or awaits it. Nothing
happens to the table when the last one lets go: it is pruned only when a
variable is dropped to make room and when a snapshot is restored. So the lock of
a key that is not stored, which nobody holds or awaits, is one that was let go
since then, and it stays until the table is pruned again.
-/

namespace PromptTuning

namespace LockTurn

/-- Who lets go of the lock of a key, or stops asking for it. -/
def leaver? (key : String) : LockTurn -> Option Owner
  | .release owner name => if name = key then some owner else none
  | .abandon owner => some owner
  | _ => none

/-- A lock after whoever the turn has let go of it. -/
def leave (turn : LockTurn) (lock : Lock) : Lock :=
  (turn.leaver? lock.key).elim lock lock.without

variable {turn : LockTurn} {lock : Lock}

@[simp] theorem key_leave : (turn.leave lock).key = lock.key := by
  unfold leave
  cases turn.leaver? lock.key <;> simp

/-- A lock that is not in use after a turn was not in use before, or the turn
lets go of it. -/
theorem inUse_leave_eq_false_iff :
    (turn.leave lock).inUse = false ↔ lock.inUse = false ∨
      ∃ owner ∈ turn.leaver? lock.key,
        lock.inUse = true ∧ (lock.without owner).inUse = false := by
  unfold leave
  cases turn.leaver? lock.key with
  | none => simp
  | some owner =>
      have spared (unused : lock.inUse = false) :
          (lock.without owner).inUse = false :=
        (Lock.UsedBy.of_not_inUse unused).without
      cases used : lock.inUse with
      | false => simp [spared used]
      | true => simp

end LockTurn

namespace Store

/-- Whether a turn prunes the locks: it drops a variable to make room or
restores a snapshot. -/
def prunes (store : Store) : LockTurn -> Bool
  | .register key _ _ => !store.contains key && store.isFull
  | .replace entry _ => !store.contains entry.key && store.isFull
  | .restore document => (store.restore document).isOk
  | _ => false

/-- No turn prunes the locks. -/
def leavesLocks : List LockTurn -> Store -> Bool
  | [], _ => true
  | turn :: turns, store =>
      !store.prunes turn && leavesLocks turns (store.takeTurn turn)

/-- There is a lock of a key that is not stored, and nobody holds
or awaits it. -/
def Stray (store : Store) (key : String) : Prop :=
  ∃ lock ∈ store.locks,
    lock.key = key ∧ lock.inUse = false ∧ store.contains key = false

/-- A turn lets go of the lock of a key, and nobody else holds or awaits it. -/
def Frees (store : Store) (turn : LockTurn) (key : String) : Prop :=
  ∃ owner ∈ turn.leaver? key, ∃ lock ∈ store.locks,
    lock.key = key ∧ lock.inUse = true ∧
    (lock.without owner).inUse = false

/-- What a turn does to the locks: it leaves those of other keys than the stored
ones alone, has somebody let go, or prunes. -/
inductive LockChange (store : Store) (turn : LockTurn) (after : Store) : Prop
  | kept
      (nobody : ∀ key, turn.leaver? key = none)
      (quiet : store.prunes turn = false)
      (more : store.keys ⊆ after.keys)
      (others : ∀ lock : Lock, after.contains lock.key = false ->
        (lock ∈ after.locks ↔ lock ∈ store.locks))
  | left
      (quiet : store.prunes turn = false)
      (keys : after.keys = store.keys)
      (locks : after.locks = store.locks.map turn.leave)
  | pruned
      (prunes : store.prunes turn = true)
      (locks : ∀ lock ∈ after.locks,
        after.contains lock.key = true ∨ lock.inUse = true)

variable {store after : Store} {owner : Owner} {key : String} {turn : LockTurn}

/-- A key is not stored if it is not listed. -/
theorem contains_eq_false_iff :
    store.contains key = false ↔ key ∉ store.keys := by
  rw [Bool.eq_false_iff, ne_eq, contains_iff_mem_keys]

/-- Where there is room, storing a variable drops no key. -/
theorem keys_put_of_room {entry : Variable} (room : store.isFull = false) :
    store.keys ⊆ (store.put entry).keys := by
  by_cases present : store.contains entry.key = true
  · rw [keys_put present]
    exact List.Subset.refl _
  · rw [keys, keys,
      entries_put_of_absent (mt contains_iff_mem_keys.mpr present), room,
      if_neg Bool.false_ne_true, List.map_append]
    exact List.subset_append_left _ _

/-- A lock that survives pruning has a stored key or is in use. -/
theorem stored_or_used_of_pruneLocks {lock : Lock}
    (listed : lock ∈ store.pruneLocks.locks) :
    store.pruneLocks.contains lock.key = true ∨ lock.inUse = true := by
  rw [← Bool.or_eq_true]
  exact (List.mem_filter.mp listed).2

/-- A turn that neither lets go of a lock nor prunes may leave
everything alone. -/
theorem lockChange_self (nobody : ∀ key, turn.leaver? key = none)
    (quiet : store.prunes turn = false) : LockChange store turn store :=
  .kept nobody quiet (List.Subset.refl _) fun _ _ => Iff.rfl

/-- An insertion changes locks by pruning alone, and only where it
drops a key. -/
theorem lockChange_insert {entry : Variable}
    (nobody : ∀ key, turn.leaver? key = none)
    (prunes : store.prunes turn = (!store.contains entry.key && store.isFull)) :
    LockChange store turn (store.insert entry) := by
  unfold insert
  by_cases drops : (!store.contains entry.key && store.isFull) = true
  · rw [if_pos drops]
    exact .pruned (prunes.trans drops) fun _ => stored_or_used_of_pruneLocks
  · rw [if_neg drops]
    refine .kept nobody (prunes.trans (Bool.eq_false_iff.mpr drops))
      ?_ fun lock _ => by
        rw [locks_put]
    by_cases present : store.contains entry.key = true
    · rw [keys_put present]
      exact List.Subset.refl _
    · exact keys_put_of_room (by simpa [present] using drops)

/-- Taking note of a write changes no lock. -/
theorem LockChange.counting (changed : LockChange store turn after)
    (entry : Variable) :
    LockChange store turn (after.counting entry) := by
  cases changed with
  | kept nobody quiet more others => exact .kept nobody quiet more others
  | left quiet keys locks => exact .left quiet keys locks
  | pruned prunes locks => exact .pruned prunes locks

/-- A lock that is queued for was there. -/
theorem queued_cases (queued : store.requestLock owner key = .queued after) :
    ∃ lock : Lock, lock.key = key ∧
      after =
        store.setLock { lock with waiters := lock.waiters ++ [owner] } := by
  unfold requestLock at queued
  split at queued
  case isFalse => contradiction
  split at queued
  · contradiction
  · rename_i lock found
    split at queued
    · exact ⟨lock, key_of_lock? found, (Grant.queued.inj queued).symm⟩
    · contradiction

/-- A request leaves the locks of other keys alone. -/
theorem mem_locks_of_requestLock
    (request : store.requestLock owner key = .granted after ∨
      store.requestLock owner key = .queued after)
    {lock : Lock}
    (different : lock.key ≠ key) :
    lock ∈ after.locks ↔ lock ∈ store.locks := by
  have replaced {changed : Lock} (same : changed.key = key) :
      lock ∈ (store.setLock changed).locks ↔ lock ∈ store.locks := by
    rw [setLock, List.mem_map]
    constructor
    · rintro ⟨old, listed, rfl⟩
      by_cases own : old.key = changed.key
      · rw [if_pos own] at different
        exact absurd same different
      · rw [if_neg own]
        exact listed
    · intro listed
      exact ⟨lock, listed, if_neg (same ▸ different)⟩
  obtain granted | queued := request
  · obtain rfl | ⟨old, named, rfl⟩ := granted_cases granted
    · rw [List.mem_append, List.mem_singleton, or_iff_left]
      rintro rfl
      exact different rfl
    · exact replaced named
  · obtain ⟨old, named, rfl⟩ := queued_cases queued
    exact replaced named

/-- A request makes a lock or adds a user to one. -/
theorem lockChange_request (store : Store) (owner : Owner) (key : String) :
    LockChange store (.request owner key)
      (store.takeTurn (.request owner key)) := by
  have unchanged : LockChange store (.request owner key) store :=
    lockChange_self (fun _ => rfl) rfl
  have asked {after : Store}
      (request : store.requestLock owner key = .granted after ∨
          store.requestLock owner key = .queued after) :
          LockChange store (.request owner key) after := by
        have entries := (requested_of_requestLock request).entries_eq
        have keys : after.keys = store.keys := congrArg (List.map _) entries
        have present : store.contains key = true := by
          cases missing : store.contains key with
          | true => rfl
          | false => simp [requestLock, missing] at request
        refine .kept (fun _ => rfl) rfl
          (keys ▸ List.Subset.refl _) fun lock absent => ?_
        refine mem_locks_of_requestLock request ?_
        rintro rfl
        rw [contains_eq_false_iff, keys, ← contains_eq_false_iff,
          present] at absent
        contradiction
  rw [takeTurn]
  split
  · exact unchanged
  · split
    · exact asked (.inl ‹_›)
    · exact asked (.inr ‹_›)
    · exact unchanged

/-- Every turn is one of the three kinds. -/
theorem lockChange_takeTurn (store : Store) (turn : LockTurn) :
    LockChange store turn (store.takeTurn turn) := by
  cases turn with
  | request owner key => exact store.lockChange_request owner key
  | release owner key =>
      refine .left rfl rfl (List.map_congr_left fun lock _ => ?_)
      by_cases same : lock.key = key
      · simp [LockTurn.leave, LockTurn.leaver?, same]
      · simp [LockTurn.leave, LockTurn.leaver?, same, Ne.symm same]
  | abandon owner => exact .left rfl rfl rfl
  | register key initial now =>
      simp only [takeTurn, register]
      split
      · rename_i present
        exact lockChange_self (fun _ => rfl) (by simp [prunes, present])
      · exact lockChange_insert (fun _ => rfl) rfl
  | replace entry now =>
      simp only [takeTurn, commit]
      cases store.find? entry.key <;>
        exact (lockChange_insert (fun _ => rfl) rfl).counting _
  | restore document =>
      cases restored : store.restore document with
      | error reason =>
          simp only [takeTurn, restored]
          exact lockChange_self (fun _ => rfl)
            (by simp [prunes, restored, Except.isOk, Except.toBool])
      | ok loaded =>
          simp only [takeTurn, restored]
          have prunes : store.prunes (.restore document) = true := by
            simp [prunes, restored, Except.isOk, Except.toBool]
          unfold restore at restored
          cases read : readSnapshot document with
          | error reason =>
              rw [read] at restored
              contradiction
          | ok entries =>
              rw [read] at restored
              obtain rfl := Except.ok.inj restored
              exact .pruned prunes fun _ => stored_or_used_of_pruneLocks

/-- A key that is missing from more keys was missing before. -/
theorem contains_of_subset (more : store.keys ⊆ after.keys)
    (absent : after.contains key = false) : store.contains key = false := by
  rw [contains_eq_false_iff] at absent ⊢
  exact fun stored => absent (more stored)

/-- Where the locks of absent keys are kept, the same ones are stray. -/
theorem stray_iff_of_kept
    (nobody : ∀ key, turn.leaver? key = none)
    (more : store.keys ⊆ after.keys)
    (others : ∀ lock : Lock, after.contains lock.key = false ->
      (lock ∈ after.locks ↔ lock ∈ store.locks)) :
    after.Stray key ↔
      after.contains key = false ∧
      (store.Stray key ∨ store.Frees turn key) := by
  constructor
  · rintro ⟨lock, listed, rfl, unused, absent⟩
    have before := (others lock absent).mp listed
    exact ⟨absent,
      .inl ⟨lock, before, rfl, unused, contains_of_subset more absent⟩⟩
  · rintro ⟨absent, ⟨lock, listed, rfl, unused, _⟩ | ⟨owner, leaves, _⟩⟩
    · exact ⟨lock, (others lock absent).mpr listed, rfl, unused, absent⟩
    · rw [nobody] at leaves
      contradiction

/-- Where somebody lets go, the lock that becomes unused turns stray too. -/
theorem stray_iff_of_left
    (keys : after.keys = store.keys)
    (locks : after.locks = store.locks.map turn.leave) :
    after.Stray key ↔
      after.contains key = false ∧
      (store.Stray key ∨ store.Frees turn key) := by
  have missing (absent : after.contains key = false) :
      store.contains key = false :=
    contains_of_subset (keys ▸ List.Subset.refl _) absent
  constructor
  · rintro ⟨left, listed, named, unused, absent⟩
    rw [locks] at listed
    obtain ⟨lock, before, rfl⟩ := List.mem_map.mp listed
    rw [LockTurn.key_leave] at named
    subst named
    refine ⟨absent, ?_⟩
    obtain idle | ⟨owner, leaves, used, last⟩ :=
      LockTurn.inUse_leave_eq_false_iff.mp unused
    · exact .inl ⟨lock, before, rfl, idle, missing absent⟩
    · exact .inr ⟨owner, leaves, lock, before, rfl, used, last⟩
  · have stays {lock : Lock} (before : lock ∈ store.locks)
        (named : lock.key = key)
        (unused : (turn.leave lock).inUse = false)
        (absent : after.contains key = false) :
          after.Stray key :=
      ⟨_, locks ▸ List.mem_map_of_mem before,
        LockTurn.key_leave.trans named, unused, absent⟩
    rintro ⟨absent,
      ⟨lock, before, rfl, idle, _⟩ |
        ⟨owner, leaves, lock, before, rfl, used, last⟩⟩
    · exact stays before rfl (LockTurn.inUse_leave_eq_false_iff.mpr (.inl idle))
        absent
    · exact stays before rfl
        (LockTurn.inUse_leave_eq_false_iff.mpr
          (.inr ⟨owner, leaves, used, last⟩)) absent

/-- No lock is stray where all that are left have a stored key or are in use. -/
theorem not_stray_of_pruned
    (locks : ∀ lock ∈ after.locks,
      after.contains lock.key = true ∨ lock.inUse = true) :
    ¬ after.Stray key := by
  rintro ⟨lock, listed, rfl, unused, absent⟩
  obtain stored | used := locks lock listed
  · rw [absent] at stored
    contradiction
  · rw [unused] at used
    contradiction

/-- After a turn the lock of a key is stray if its key is not stored, the turn
did not prune, and it was stray or is one that the turn lets go. -/
theorem stray_takeTurn_iff :
    (store.takeTurn turn).Stray key ↔
      store.prunes turn = false ∧ (store.takeTurn turn).contains key = false ∧
        (store.Stray key ∨ store.Frees turn key) := by
  cases store.lockChange_takeTurn turn with
  | kept nobody quiet more others =>
      rw [stray_iff_of_kept nobody more others, and_iff_right quiet]
  | left quiet keys locks =>
      rw [stray_iff_of_left keys locks, and_iff_right quiet]
  | pruned prunes locks =>
      rw [prunes, iff_false_intro (not_stray_of_pruned locks)]
      exact ⟨False.elim, fun stray => Bool.noConfusion stray.1⟩

/-- A turn that does not prune drops no variable. -/
theorem contains_of_takeTurn (quiet : store.prunes turn = false)
    (absent : (store.takeTurn turn).contains key = false) :
    store.contains key = false := by
  cases store.lockChange_takeTurn turn with
  | kept _ _ more => exact contains_of_subset more absent
  | left _ keys => exact contains_of_subset (keys ▸ List.Subset.refl _) absent
  | pruned prunes =>
      rw [quiet] at prunes
      contradiction

/-- Turns that prune nothing drop no key. -/
theorem contains_of_takeTurns {turns : List LockTurn}
    (quiet : leavesLocks turns store = true)
    (absent : (store.takeTurns turns).contains key = false) :
    store.contains key = false := by
  induction turns generalizing store with
  | nil => exact absent
  | cons turn turns inductionHypothesis =>
      rw [leavesLocks, Bool.and_eq_true, Bool.not_eq_true'] at quiet
      exact contains_of_takeTurn quiet.1 (inductionHypothesis quiet.2 absent)

/-- Who lets go of a lock does not prune. -/
theorem Frees.prunes_eq_false (frees : store.Frees turn key) :
    store.prunes turn = false := by
  obtain ⟨owner, leaves, _⟩ := frees
  cases turn with
  | release | abandon => rfl
  | _ => contradiction

/-- At one of several turns the last one lets go of the lock of a key, and no
later turn prunes. -/
def LetGo (store : Store) (turns : List LockTurn) (key : String) : Prop :=
  ∃ before turn after, turns = before ++ turn :: after ∧
    (store.takeTurns before).Frees turn key ∧
    leavesLocks after (store.takeTurns (before ++ [turn])) = true

/-- A lock has been let go of by the first turn, without pruning
since, or later. -/
theorem letGo_cons_iff {turns : List LockTurn} :
    store.LetGo (turn :: turns) key ↔
      (store.Frees turn key ∧ leavesLocks turns (store.takeTurn turn) = true) ∨
        (store.takeTurn turn).LetGo turns key := by
  constructor
  · rintro ⟨before, freeing, after, split, frees, quiet⟩
    obtain ⟨rfl, same⟩ | ⟨rest, rfl, rfl⟩ := List.cons_eq_append_iff.mp split
    · obtain ⟨rfl, rfl⟩ := List.cons.inj same
      exact .inl ⟨frees, quiet⟩
    · exact .inr ⟨rest, freeing, after, rfl, frees, quiet⟩
  · rintro (⟨frees, quiet⟩ | ⟨before, freeing, after, rfl, frees, quiet⟩)
    · exact ⟨[], turn, turns, rfl, frees, quiet⟩
    · exact ⟨turn :: before, freeing, after, rfl, frees, quiet⟩

/-- After several turns the lock of a key is stray if its key is not stored, and
it was stray or has been let go with nothing pruned since. -/
theorem stray_takeTurns_iff {turns : List LockTurn} :
    (store.takeTurns turns).Stray key ↔
      (store.takeTurns turns).contains key = false ∧
        ((store.Stray key ∧ leavesLocks turns store = true) ∨
          store.LetGo turns key) := by
  induction turns generalizing store with
  | nil =>
      have never : ¬ store.LetGo [] key := by
        rintro ⟨before, turn, after, split, _⟩
        simp at split
      simp only [takeTurns, List.foldl_nil, leavesLocks, never, and_true,
        or_false]
      exact ⟨fun stray => ⟨stray.choose_spec.2.2.2, stray⟩, And.right⟩
  | cons turn turns inductionHypothesis =>
      change ((store.takeTurn turn).takeTurns turns).Stray key ↔ _
      rw [inductionHypothesis, letGo_cons_iff]
      refine and_congr_right fun absent => ?_
      rw [← or_assoc, leavesLocks, Bool.and_eq_true, Bool.not_eq_true']
      refine or_congr_left ?_
      constructor
      · rintro ⟨stray, quiet⟩
        obtain ⟨spared, _, before | frees⟩ := stray_takeTurn_iff.mp stray
        · exact .inl ⟨before, spared, quiet⟩
        · exact .inr ⟨frees, quiet⟩
      -- A key that is absent in the end was absent before, for no later turn
      -- drops a variable.
      · rintro (⟨stray, spared, quiet⟩ | ⟨frees, quiet⟩)
        · have missing := contains_of_takeTurns quiet absent
          exact ⟨stray_takeTurn_iff.mpr ⟨spared, missing, .inl stray⟩, quiet⟩
        · have missing := contains_of_takeTurns quiet absent
          exact ⟨stray_takeTurn_iff.mpr
            ⟨frees.prunes_eq_false, missing, .inr frees⟩, quiet⟩

/-- A lock has a stored key, is in use or is stray. -/
theorem stored_or_used_or_stray {lock : Lock} (listed : lock ∈ store.locks) :
    store.contains lock.key = true ∨ lock.inUse = true ∨
    store.Stray lock.key := by
  cases stored : store.contains lock.key with
  | true => exact .inl rfl
  | false =>
      cases used : lock.inUse with
      | true => exact .inr (.inl rfl)
      | false => exact .inr (.inr ⟨lock, listed, rfl, used, stored⟩)

/-- No lock is stray right after pruning. -/
theorem not_stray_of_prunes (prunes : store.prunes turn = true) :
    ¬ (store.takeTurn turn).Stray key := by
  rw [stray_takeTurn_iff, prunes]
  exact fun stray => Bool.noConfusion stray.1

end Store

namespace LockObjects

/-- An entry of the table whose object nobody holds or asks for. -/
def Unrequested (objects : LockObjects) (entry : LockEntry) : Prop :=
  entry ∈ objects.table ∧
  ∀ request ∈ objects.requests, request.object ≠ entry.object

variable {objects : LockObjects} {entry : LockEntry}

/-- What pruning leaves is of a key that it goes by, or is asked for. -/
theorem Referred.mem_of_prune {stored : List String}
    (referred : objects.Referred)
    (left : (objects.prune stored).Unrequested entry) : entry.key ∈ stored := by
  obtain ⟨kept, nobody⟩ := left
  obtain ⟨listed, spared⟩ := List.mem_filter.mp kept
  have unasked : objects.requests.countP (·.object == entry.object) = 0 :=
    List.countP_eq_zero.mpr fun request asked same =>
      nobody request asked (beq_iff_eq.mp same)
  rw [strongCount, referred.countP_object listed, unasked] at spared
  simpa using spared

namespace Unrequested

/-- Who asks for an object makes a request for it. -/
theorem of_ask {owner : Owner} {key : String} {index : Nat}
    (left : (objects.ask owner key index).Unrequested entry) :
    objects.Unrequested entry ∧ index ≠ entry.object :=
  ⟨⟨left.1, fun request asked => left.2 request (List.mem_append_left _ asked)⟩,
    left.2 ⟨owner, key, index, false⟩
      (List.mem_append_right _ (List.mem_singleton_self _))⟩

/-- Whoever refers to a new object asks for it. -/
theorem of_refer {owner : Owner} {key : String}
    (left : (objects.refer owner key).Unrequested entry) :
    objects.Unrequested entry := by
  unfold LockObjects.refer at left
  cases known : objects.request? owner key with
  | some request =>
      simp only [known, Option.isSome_some, if_true] at left
      exact left
  | none =>
      simp only [known, Option.isSome_none, Bool.false_eq_true,
        if_false] at left
      cases found : objects.find? key with
      | some old =>
          rw [found] at left
          exact left.of_ask.1
      | none =>
          rw [found] at left
          obtain ⟨⟨kept, nobody⟩, apart⟩ := left.of_ask
          obtain before | made := List.mem_append.mp kept
          · exact ⟨before, nobody⟩
          · obtain rfl := List.mem_singleton.mp made
            exact absurd rfl apart

/-- Nobody stops asking by standing in line. -/
theorem of_join {owner : Owner} {key : String}
    (left : (objects.join owner key).Unrequested entry) :
    objects.Unrequested entry := by
  unfold LockObjects.join at left
  split at left
  · refine ⟨left.1, fun request asked => ?_⟩
    have apart := left.2 _ (List.mem_map_of_mem asked)
    have same := congrArg LockEntry.object (request.entry_inLine (owner, key))
    exact fun equal => apart (same.trans equal)
  · exact left

/-- Who lets go of a lock may be the last one who asked for it. -/
theorem of_leave {owner : Owner} {key : String} (referred : objects.Referred)
    (left : (objects.leave owner key).Unrequested entry) :
    objects.Unrequested entry ∨ key = entry.key := by
  unfold LockObjects.leave at left
  cases found : objects.request? owner key with
  | none =>
      rw [found] at left
      exact .inl left
  | some request =>
      rw [found] at left
      obtain ⟨asked, rfl, rfl⟩ := request?_eq_some found
      obtain ⟨kept, nobody⟩ := left
      by_cases last : request.object = entry.object
      · exact .inr
          ((referred.object_eq_iff (referred.listed request asked) kept).mp
            last)
      · refine .inl ⟨kept, fun other among same => ?_⟩
        by_cases own : other.name = request.name
        · obtain rfl := referred.eq_of_name among asked own
          exact last same
        · exact nobody other (List.mem_filter.mpr ⟨among, bne_iff_ne.mpr own⟩)
            same

/-- Only who lets go of an object leaves it without requests. -/
theorem of_step {step : LockStep} (referred : objects.Referred)
    (quiet : ∀ stored, step ≠ .prune stored)
    (left : (objects.step step).Unrequested entry) :
    objects.Unrequested entry ∨ ∃ owner, step = .leave owner entry.key := by
  cases step with
  | refer owner key => exact .inl left.of_refer
  | join owner key => exact .inl left.of_join
  | leave owner key =>
      obtain before | rfl := left.of_leave referred
      · exact .inl before
      · exact .inr ⟨owner, rfl⟩
  | prune stored => exact absurd rfl (quiet stored)

/-- As long as nothing is pruned, only the locks that are let go are not asked
for any more. -/
theorem of_run {steps : List LockStep} (referred : objects.Referred)
    (quiet : ∀ stored, LockStep.prune stored ∉ steps)
    (left : (objects.run steps).Unrequested entry) :
    objects.Unrequested entry ∨
    ∃ owner, LockStep.leave owner entry.key ∈ steps := by
  induction steps generalizing objects with
  | nil => exact .inl left
  | cons step steps inductionHypothesis =>
      obtain before | ⟨owner, later⟩ := inductionHypothesis (referred.step step)
        (fun stored among => quiet stored (List.mem_cons_of_mem _ among)) left
      · obtain earlier | ⟨owner, rfl⟩ := before.of_step referred
          fun stored same => quiet stored (same ▸ List.mem_cons_self)
        · exact .inl earlier
        · exact .inr ⟨owner, List.mem_cons_self⟩
      · exact .inr ⟨owner, List.mem_cons_of_mem _ later⟩

end Unrequested

theorem run_append (before after : List LockStep) :
    objects.run (before ++ after) = (objects.run before).run after :=
  List.foldl_append

end LockObjects

namespace Store

/-- A lock in the table is of a stored key, is held or awaited, or was let go at
a turn after which nothing was pruned; and if its key is not stored it stays in
the table as long. Every turn that drops a variable to make room or restores a
snapshot leaves only locks of stored keys and those that are held or awaited.
However the single steps of requests come between those of others, an object
that nobody holds or asks for is of a key by which the table was pruned last, or
was let go since. -/
theorem lock_table_since_pruning (capacity : Nat) :
    (∀ turns : List LockTurn,
      let store := (withCapacity capacity).takeTurns turns
      (∀ lock ∈ store.locks, store.contains lock.key = true ∨
        lock.inUse = true ∨
        (withCapacity capacity).LetGo turns lock.key) ∧
      (∀ key, store.contains key = false ->
        (withCapacity capacity).LetGo turns key ->
        ∃ lock ∈ store.locks, lock.key = key ∧ lock.inUse = false) ∧
      ∀ turn, store.prunes turn = true -> ∀ lock ∈ (store.takeTurn turn).locks,
        (store.takeTurn turn).contains lock.key = true ∨ lock.inUse = true) ∧
    ∀ (before after : List LockStep) (stored : List String),
      (∀ keys, LockStep.prune keys ∉ after) ->
        ∀ entry,
          (LockObjects.empty.run (before ++ .prune stored :: after)).Unrequested
            entry ->
          entry.key ∈ stored ∨
          ∃ owner, LockStep.leave owner entry.key ∈ after := by
  constructor
  · intro turns store
    have fresh (key : String) : ¬ (withCapacity capacity).Stray key := by
      rintro ⟨lock, listed, _⟩
      exact absurd listed List.not_mem_nil
    have stray (key : String) : store.Stray key ↔
        store.contains key = false ∧
        (withCapacity capacity).LetGo turns key := by
      rw [stray_takeTurns_iff, or_iff_right fun began => fresh key began.1]
    refine ⟨fun lock listed => ?_, fun key absent released => ?_,
      fun turn prunes lock listed => ?_⟩
    · exact (stored_or_used_or_stray listed).imp_right (Or.imp_right fun left =>
        ((stray lock.key).mp left).2)
    · obtain ⟨lock, listed, named, unused, _⟩ :=
        (stray key).mpr ⟨absent, released⟩
      exact ⟨lock, listed, named, unused⟩
    · exact (stored_or_used_or_stray listed).imp_right
        (Or.resolve_right · (not_stray_of_prunes prunes))
  · intro before after stored quiet entry left
    have referred := LockObjects.Referred.empty.run before
    rw [LockObjects.run_append] at left
    obtain pruned | released := left.of_run (referred.prune stored) quiet
    · exact .inl (referred.mem_of_prune pruned)
    · exact .inr released

/-- The lock of a key that was dropped while it was held is in the table after
it is let go, and is gone once the next key is dropped. -/
theorem lock_table_since_pruning_of_dropped_key :
    let turns : List LockTurn :=
      [.register "a" none default, .request 0 "a", .register "b" none default,
        .release 0 "a"]
    let store := (withCapacity 1).takeTurns turns
    store.contains "a" = false ∧ (withCapacity 1).LetGo turns "a" ∧
      (∃ lock ∈ store.locks, lock.key = "a" ∧ lock.inUse = false) ∧
      store.prunes (.register "c" none default) = true ∧
      (∀ lock ∈ (store.takeTurn (.register "c" none default)).locks,
        (store.takeTurn (.register "c" none default)).contains lock.key = true ∨
          lock.inUse = true) ∧
      ∃ entry, (LockObjects.empty.run
          [.refer 0 "a", .join 0 "a", .prune ["b"], .leave 0 "a"]).Unrequested
        entry ∧
        (entry.key ∈ ["b"] ∨
          ∃ owner,
            LockStep.leave owner entry.key ∈ [LockStep.leave 0 "a"]) := by
  intro turns store
  have absent : store.contains "a" = false := by decide +kernel
  have prunes : store.prunes (.register "c" none default) = true := by
    decide +kernel
  have released : (withCapacity 1).LetGo turns "a" := by
    refine ⟨[.register "a" none default, .request 0 "a",
      .register "b" none default],
      .release 0 "a", [], rfl, ⟨0, rfl, ⟨"a", some 0, []⟩, ?_, rfl, rfl, rfl⟩,
      rfl⟩
    decide +kernel
  obtain ⟨_, stays, pruned⟩ := (lock_table_since_pruning 1).1 turns
  have left : (LockObjects.empty.run
      [.refer 0 "a", .join 0 "a", .prune ["b"], .leave 0 "a"]).Unrequested
    ⟨"a", 0⟩ :=
    ⟨by decide +kernel, by decide +kernel⟩
  have quiet : ∀ keys, LockStep.prune keys ∉ [LockStep.leave 0 "a"] := by simp
  exact ⟨absent, released, stays "a" absent released, prunes,
    pruned _ prunes, ⟨"a", 0⟩, left,
    (lock_table_since_pruning 1).2 [.refer 0 "a", .join 0 "a"] [.leave 0 "a"]
      ["b"] quiet _ left⟩

/-- A key is dropped while its lock is held, which is let go afterwards: the
lock is in the table of a store that has nothing under its key, and nobody holds
or awaits it. -/
theorem stray_after_release :
    let turns : List LockTurn :=
      [.register "a" none default, .request 0 "a", .register "b" none default,
        .release 0 "a"]
    let store := (withCapacity 1).takeTurns turns
    ∃ lock ∈ store.locks,
      lock.key = "a" ∧ store.contains "a" = false ∧ lock.inUse = false :=
  ⟨⟨"a", none, []⟩, by decide +kernel, rfl, by decide +kernel, rfl⟩

end Store
end PromptTuning
