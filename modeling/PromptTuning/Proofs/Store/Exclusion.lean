import Mathlib.Data.List.Find
import PromptTuning.Proofs.Store.Entries
import PromptTuning.Proofs.Store.LockObjects

/-!
# One guard for each key

The locks of a store are what shared lock objects show. Whatever asks for locks,
waits, gives up, lets go, and stores or restores variables, the store has the
locks that the table of the objects has, each with the holder and the line of
its object. So a key has one guard at a time, although its lock may be forgotten
and made anew while the key is dropped and stored again.
-/

namespace PromptTuning

namespace Store

/-- The steps on lock objects that a turn comes to: dropping a variable
prunes the table. -/
def lockSteps (store : Store) : LockTurn -> List LockStep
  | .request owner key =>
      if store.contains key then [.refer owner key, .join owner key] else []
  | .release owner key => [.leave owner key]
  | .abandon owner => store.locks.map fun lock => .leave owner lock.key
  | .register key initial now =>
      if !store.contains key && store.isFull then
        [.prune (store.register key initial now).2.keys]
      else []
  | .replace entry now =>
      if !store.contains entry.key && store.isFull then
        [.prune (store.commit entry now).keys]
      else []
  | .restore document =>
      match store.restore document with
      | .error _ => []
      | .ok (_, after) => [.prune after.keys]

/-- The locks once a task has let go of those of some keys. -/
theorem locks_releaseKeys {store : Store} (owner : Owner) {keys : List String}
    (distinct : keys.Nodup) :
    (keys.foldl (fun store key => store.releaseLock owner key) store).locks =
      store.locks.map fun lock =>
        if lock.key ∈ keys then lock.without owner else lock := by
  induction keys generalizing store with
  | nil => simp
  | cons key keys inductionHypothesis =>
      obtain ⟨fresh, distinct⟩ := List.nodup_cons.mp distinct
      rw [List.foldl_cons, inductionHypothesis distinct, releaseLock,
        List.map_map]
      refine List.map_congr_left fun lock _ => ?_
      by_cases same : lock.key = key
      · simp [same, fresh]
      · simp [same]

/-- The steps on lock objects that several turns come to. -/
def allLockSteps : List LockTurn -> Store -> List LockStep
  | [], _ => []
  | turn :: turns, store =>
      store.lockSteps turn ++ allLockSteps turns (store.takeTurn turn)

end Store

namespace LockObjects

variable {objects : LockObjects} {store : Store} {owner : Owner} {key : String}

/-- The locks in the table, each as its object is. -/
def locks (objects : LockObjects) : List Lock :=
  objects.table.map fun entry => objects.memory entry.object

/-- The objects show the locks of a store, and nobody is about to
stand in line. -/
structure Shows (objects : LockObjects) (store : Store) : Prop where
  referred : objects.Referred
  joined : ∀ request ∈ objects.requests, request.joined = true
  locks : objects.locks = store.locks

namespace Referred

/-- Entries of the table have one object exactly if they have one key. -/
theorem object_eq_iff (referred : objects.Referred) {first second : LockEntry}
    (one : first ∈ objects.table) (other : second ∈ objects.table) :
    first.object = second.object ↔ first.key = second.key := by
  constructor
  · intro same
    rw [← referred.named first one, ← referred.named second other, same]
  · intro same
    exact congrArg LockEntry.object
      (List.inj_on_of_nodup_map referred.distinct one other same)

/-- The table refers to each of its objects once. -/
theorem countP_object (referred : objects.Referred) {entry : LockEntry}
    (listed : entry ∈ objects.table) :
    objects.table.countP (·.object == entry.object) = 1 := by
  have distinct : (objects.table.map (·.object)).Nodup :=
    (List.nodup_map_iff_inj_on
      referred.distinct.of_map).mpr fun first one second other same =>
      List.inj_on_of_nodup_map referred.distinct one other
        ((referred.object_eq_iff one other).mp same)
  have counted := List.count_eq_one_of_mem distinct (List.mem_map_of_mem listed)
  rw [List.count, List.countP_map] at counted
  exact counted

/-- Every entry of the table is found for its key. -/
theorem find?_of_mem (referred : objects.Referred) {entry : LockEntry}
    (listed : entry ∈ objects.table) :
    objects.find? entry.key = some entry := by
  cases found : objects.find? entry.key with
  | none =>
      exact absurd (List.mem_map_of_mem listed) (find?_eq_none_iff.mp found)
  | some other =>
      obtain ⟨among, named⟩ := key_of_find? found
      exact congrArg some
        (List.inj_on_of_nodup_map referred.distinct among listed named)

/-- The lock that the table shows for a key is the object of its entry. -/
theorem lock?_eq (referred : objects.Referred) (key : String) :
    objects.locks.find? (·.key == key) =
      (objects.find? key).map fun entry => objects.memory entry.object := by
  rw [locks, List.find?_map, find?]
  congr 1
  refine List.find?_congr fun entry listed => ?_
  rw [Function.comp_apply, referred.named entry listed]

/-- The locks of the table once the object of an entry is another one. -/
theorem locks_setObject (referred : objects.Referred) {entry : LockEntry}
    (listed : entry ∈ objects.table) (lock : Lock)
    (requests : List LockRequest) :
    locks { objects.setObject entry.object lock with requests := requests } =
      objects.locks.map fun old =>
        if old.key = entry.key then lock else old := by
  rw [locks, locks, List.map_map]
  refine List.map_congr_left fun other among => ?_
  change (if other.object = entry.object then lock
    else objects.memory other.object) =
    if (objects.memory other.object).key = entry.key then lock
    else objects.memory other.object
  rw [referred.named other among]
  exact if_congr (referred.object_eq_iff among listed) rfl rfl

/-- A new object is at the end of the locks of the table. -/
theorem locks_make (referred : objects.Referred) (key : String) :
    (objects.make key).locks = objects.locks ++ [⟨key, none, []⟩] := by
  have older : ∀ entry ∈ objects.table,
      (objects.make key).memory entry.object =
        objects.memory entry.object := fun entry listed =>
    if_neg fun same => Nat.lt_irrefl _ (same ▸ referred.bounded entry listed)
  have own :
      (objects.make key).memory objects.made = (⟨key, none, []⟩ : Lock) :=
    if_pos rfl
  change List.map
    (fun entry : LockEntry => (objects.make key).memory entry.object)
    (objects.table ++ [⟨key, objects.made⟩]) = _
  rw [List.map_append, List.map_singleton, List.map_congr_left older, own]
  rfl

/-- The one lock of the table that has the key of an entry is its object. -/
theorem eq_of_mem_locks (referred : objects.Referred) {entry : LockEntry}
    (listed : entry ∈ objects.table) {lock : Lock}
    (shown : lock ∈ objects.locks)
    (same : lock.key = entry.key) : lock = objects.memory entry.object := by
  obtain ⟨other, among, rfl⟩ := List.mem_map.mp shown
  rw [referred.named other among] at same
  rw [(referred.object_eq_iff among listed).mpr same]

end Referred

namespace Shows

/-- The lock of a key in a store is the object that the table has for it. -/
theorem lock?_eq (shows : objects.Shows store) (key : String) :
    store.lock? key =
      (objects.find? key).map fun entry => objects.memory entry.object := by
  rw [Store.lock?, ← shows.locks, shows.referred.lock?_eq]

/-- Who uses the object of a key is who has a request for the key. -/
theorem mem_users_iff (shows : objects.Shows store) {entry : LockEntry}
    (listed : entry ∈ objects.table) (owner : Owner) :
    owner ∈ (objects.memory entry.object).users ↔
      ∃ request, objects.request? owner entry.key = some request := by
  rw [shows.referred.used]
  constructor
  · rintro ⟨request, asked, rfl, same, _⟩
    have requested := shows.referred.listed request asked
    have named := (shows.referred.object_eq_iff requested listed).mp same
    cases present : objects.request? request.owner entry.key with
    | some other => exact ⟨other, rfl⟩
    | none =>
        refine absurd (List.mem_map.mpr ⟨request, asked, ?_⟩)
          (request?_eq_none_iff.mp present)
        exact Prod.ext rfl named
  · rintro ⟨request, found⟩
    obtain ⟨asked, rfl, same⟩ := request?_eq_some found
    have requested := shows.referred.listed request asked
    have object := (shows.referred.object_eq_iff requested listed).mpr same
    exact ⟨request, asked, rfl, object, shows.joined request asked⟩

/-- Who uses the lock of a key in a store has a request for it. -/
theorem isUser_iff (shows : objects.Shows store) (owner : Owner)
    (key : String) :
    store.isUser owner key = true ↔
    ∃ request, objects.request? owner key = some request := by
  rw [Store.isUser, shows.lock?_eq, Option.any_map]
  cases found : objects.find? key with
  | none =>
      refine ⟨nofun, fun ⟨request, present⟩ => ?_⟩
      obtain ⟨asked, rfl, rfl⟩ := request?_eq_some present
      exact absurd (List.mem_map_of_mem (shows.referred.listed request asked))
        (find?_eq_none_iff.mp found)
  | some entry =>
      obtain ⟨listed, rfl⟩ := key_of_find? found
      rw [← shows.mem_users_iff listed]
      simp

/-- Where nothing happens. -/
theorem of_locks_eq (shows : objects.Shows store) {after : Store}
    (same : after.locks = store.locks) : objects.Shows after :=
  ⟨shows.referred, shows.joined, shows.locks.trans same.symm⟩

/-- Somebody who asked for an object of the table takes it or stands
in its line. -/
theorem join_ask
    (referred : objects.Referred)
    (joined : ∀ request ∈ objects.requests, request.joined = true)
    (fresh : objects.request? owner key = none)
    {entry : LockEntry}
    (listed : entry ∈ objects.table)
    (named : entry.key = key) :
    let after := (objects.ask owner key entry.object).join owner key
    after.Referred ∧ (∀ request ∈ after.requests, request.joined = true) ∧
      after.locks = objects.locks.map fun old =>
        if old.key = key then (objects.memory entry.object).join owner
        else old := by
  subst named
  have asked :
      (objects.ask owner entry.key entry.object).request? owner entry.key =
        some ⟨owner, entry.key, entry.object, false⟩ := by
    have missing :
        objects.requests.find?
          (fun request => request.name == (owner, entry.key)) =
          none := fresh
    rw [request?, ask, List.find?_append, missing, Option.none_or]
    exact List.find?_cons_of_pos (beq_self_eq_true (owner, entry.key))
  intro after
  have left := (referred.ask fresh listed).join owner entry.key
  refine ⟨left, ?_, ?_⟩
  · simp only [after, join, asked]
    intro request among
    obtain ⟨before, old, rfl⟩ := List.mem_map.mp among
    obtain standing | new := List.mem_append.mp old
    · unfold LockRequest.inLine
      split
      · rfl
      · exact joined before standing
    · obtain rfl := List.mem_singleton.mp new
      simp [LockRequest.inLine, LockRequest.name]
  · simp only [after, join, asked]
    exact referred.locks_setObject listed _ _

/-- Who asks for the lock of a key stands in the line that the store
has for it. -/
theorem request (shows : objects.Shows store) (owner : Owner) (key : String) :
    (objects.run (store.lockSteps (.request owner key))).Shows
      (store.takeTurn (.request owner key)) := by
  by_cases present : store.contains key = true
  case neg =>
    have refused : store.requestLock owner key = .refused (.notFound key) := by
      rw [Store.requestLock, if_neg present]
    simp only [Store.lockSteps, Store.takeTurn, present, refused]
    simpa [run] using shows
  simp only [Store.lockSteps, Store.takeTurn, present, if_true]
  change ((objects.refer owner key).join owner key).Shows _
  by_cases user : store.isUser owner key = true
  · obtain ⟨request, found⟩ := (shows.isUser_iff owner key).mp user
    have standing := shows.joined request (request?_eq_some found).1
    obtain ⟨_, _, index, joined⟩ := request
    obtain rfl : joined = true := standing
    simp only [user, refer, found, join, Option.isSome_some, if_true]
    exact shows
  · have fresh : objects.request? owner key = none := by
      rw [Option.eq_none_iff_forall_ne_some]
      exact fun request found =>
        user ((shows.isUser_iff owner key).mpr ⟨request, found⟩)
    have known := shows.lock?_eq key
    simp only [user, refer, fresh, Option.isSome_none, Bool.false_eq_true,
      if_false, Store.requestLock, present, if_true]
    cases found : objects.find? key with
    | some entry =>
        obtain ⟨listed, rfl⟩ := key_of_find? found
        obtain ⟨referred, joined, locks⟩ :=
          join_ask shows.referred shows.joined fresh listed rfl
        rw [found, Option.map_some] at known
        refine ⟨referred, joined, locks.trans ?_⟩
        rw [shows.locks, known]
        have lockKey := shows.referred.named entry listed
        rw [← lockKey]
        unfold Lock.join
        dsimp only
        split <;> rfl
    | none =>
        rw [found, Option.map_none] at known
        have made : (objects.make key).request? owner key = none := fresh
        obtain ⟨referred, joined, locks⟩ :=
          join_ask (shows.referred.make found) shows.joined made
            (List.mem_append_right objects.table (List.mem_singleton_self _))
            rfl
        refine ⟨referred, joined, locks.trans ?_⟩
        have others : ∀ lock ∈ store.locks, lock.key ≠ key := by
          rw [Store.lock?, List.find?_eq_none] at known
          exact fun lock shown same => known lock shown (beq_iff_eq.mpr same)
        have own :
            (objects.make key).memory objects.made = (⟨key, none, []⟩ : Lock) :=
          if_pos rfl
        rw [shows.referred.locks_make, shows.locks, known, List.map_append,
          List.map_singleton, if_pos rfl, own,
          List.map_congr_left fun lock shown => if_neg (others lock shown),
          List.map_id']
        rfl

/-- Letting go of one lock is letting go of one object. -/
theorem release (shows : objects.Shows store) (owner : Owner) (key : String) :
    (objects.leave owner key).Shows (store.releaseLock owner key) := by
  have left := shows.referred.leave owner key
  unfold leave at left ⊢
  cases found : objects.request? owner key with
  | none =>
      refine shows.of_locks_eq ?_
      refine (List.map_congr_left fun lock shown => ?_).trans
        store.locks.map_id'
      rw [← shows.locks] at shown
      obtain ⟨entry, listed, rfl⟩ := List.mem_map.mp shown
      rw [shows.referred.named entry listed]
      split
      · rename_i same
        subst same
        refine Lock.without_of_not_mem fun uses => ?_
        obtain ⟨request, present⟩ := (shows.mem_users_iff listed owner).mp uses
        rw [found] at present
        contradiction
      · rfl
  | some request =>
      rw [found] at left
      obtain ⟨asked, rfl, rfl⟩ := request?_eq_some found
      refine ⟨left,
        fun other among => shows.joined other (List.mem_filter.mp among).1, ?_⟩
      have listed := shows.referred.listed request asked
      refine (shows.referred.locks_setObject listed _ _).trans ?_
      rw [shows.locks, Store.releaseLock]
      refine List.map_congr_left fun lock shown => ?_
      rw [← shows.locks] at shown
      by_cases same : lock.key = request.key
      · have object := shows.referred.eq_of_mem_locks listed shown same
        exact (if_pos same).trans
          ((congrArg _ object.symm).trans (if_pos same).symm)
      · rw [if_neg same]
        exact if_neg same

/-- More than the table refers to the object of an entry exactly if
somebody uses it. -/
theorem one_lt_strongCount_iff (shows : objects.Shows store) {entry : LockEntry}
    (listed : entry ∈ objects.table) :
    1 < objects.strongCount entry.object ↔
    (objects.memory entry.object).inUse = true := by
  have once := shows.referred.countP_object listed
  have asked : 0 < objects.requests.countP (·.object == entry.object) ↔
      ∃ request ∈ objects.requests, request.object = entry.object := by
    simp [List.countP_pos_iff]
  unfold strongCount
  rw [once, Lock.inUse_iff]
  constructor
  · intro more
    obtain ⟨request, among, same⟩ := asked.mp (by omega)
    exact List.ne_nil_of_mem ((shows.referred.used _ _).mpr
      ⟨request, among, rfl, same, shows.joined request among⟩)
  · intro used
    obtain ⟨owner, uses⟩ := List.exists_mem_of_ne_nil _ used
    obtain ⟨request, among, _, same, _⟩ := (shows.referred.used _ _).mp uses
    have more := asked.mpr ⟨request, among, same⟩
    omega

/-- Pruning by the stored keys forgets the locks that nobody uses. -/
theorem prune (shows : objects.Shows store) :
    (objects.prune store.keys).Shows store.pruneLocks := by
  refine ⟨shows.referred.prune store.keys, shows.joined, ?_⟩
  change (objects.table.filter _).map _ = store.locks.filter _
  rw [← shows.locks, LockObjects.locks, List.filter_map]
  congr 1
  refine List.filter_congr fun entry listed => ?_
  have counted : decide (1 < objects.strongCount entry.object) =
      (objects.memory entry.object).inUse := by
    rw [Bool.eq_iff_iff, decide_eq_true_iff,
      shows.one_lt_strongCount_iff listed]
  have present : store.keys.contains entry.key = store.contains entry.key := by
    rw [Bool.eq_iff_iff, List.contains_iff_mem, Store.contains_iff_mem_keys]
  rw [Function.comp_apply, shows.referred.named entry listed, counted, present]

/-- Letting go of some locks is letting go of their objects, one by one. -/
theorem releaseKeys (shows : objects.Shows store) (owner : Owner)
    (keys : List String) :
    (objects.run (keys.map (.leave owner))).Shows
      (keys.foldl (fun store key => store.releaseLock owner key) store) := by
  induction keys generalizing objects store with
  | nil => exact shows
  | cons key keys inductionHypothesis =>
      exact inductionHypothesis (shows.release owner key)

/-- Who is dropped leaves every lock. -/
theorem abandon (shows : objects.Shows store) (owner : Owner) :
    (objects.run (store.lockSteps (.abandon owner))).Shows
      (store.releaseAll owner) := by
  have keys : store.locks.map (·.key) = objects.table.map (·.key) := by
    rw [← shows.locks, LockObjects.locks, List.map_map]
    exact List.map_congr_left shows.referred.named
  have left := shows.releaseKeys owner (store.locks.map (·.key))
  rw [List.map_map] at left
  refine left.of_locks_eq ?_
  rw [Store.locks_releaseKeys owner (keys ▸ shows.referred.distinct)]
  exact List.map_congr_left fun lock shown =>
    (if_pos (List.mem_map_of_mem shown)).symm

/-- Storing a variable prunes the table if that drops another. -/
theorem insert (shows : objects.Shows store) (entry : Variable) :
    (objects.run (if !store.contains entry.key && store.isFull then
      [.prune (store.insert entry).keys] else [])).Shows
      (store.insert entry) := by
  have put : objects.Shows (store.put entry) :=
    shows.of_locks_eq Store.locks_put
  unfold Store.insert
  split
  · exact put.prune
  · exact put

/-- Every turn leaves objects that show the locks of the store. -/
theorem takeTurn (shows : objects.Shows store) (turn : LockTurn) :
    (objects.run (store.lockSteps turn)).Shows (store.takeTurn turn) := by
  cases turn with
  | request owner key => exact shows.request owner key
  | release owner key => exact shows.release owner key
  | abandon owner => exact shows.abandon owner
  | register key initial now =>
      change (objects.run (if !store.contains key && store.isFull then
        [.prune (store.register key initial now).2.keys] else [])).Shows
          (store.register key initial now).2
      unfold Store.register
      by_cases present : store.contains key = true
      · rw [if_pos present, present]
        exact shows
      · rw [if_neg present]
        exact shows.insert
          (({ Variable.create key now with instructions := initial } :
            Variable).touch now)
  | replace entry now =>
      change (objects.run (if !store.contains entry.key && store.isFull then
        [.prune (store.commit entry now).keys] else [])).Shows
        (store.commit entry now)
      unfold Store.commit
      cases store.find? entry.key with
      | none =>
          exact (shows.insert (entry.touch now)).of_locks_eq
            (Store.locks_counting _ _)
      | some stored =>
          have inserted :=
            shows.insert
              (({ entry with version := stored.version } : Variable).touch now)
          exact inserted.of_locks_eq (Store.locks_counting _ _)
  | restore document =>
      simp only [Store.lockSteps, Store.takeTurn, Store.restore]
      cases Store.readSnapshot document with
      | error reason => exact shows
      | ok entries =>
          have written : objects.Shows (entries.foldl Store.put store) :=
            shows.of_locks_eq (Store.locks_putAll store entries)
          exact written.prune

/-- Whatever turns there are, the store shows what the lock objects show. -/
theorem takeTurns (shows : objects.Shows store) (turns : List LockTurn) :
    (objects.run (Store.allLockSteps turns store)).Shows
      (store.takeTurns turns) := by
  induction turns generalizing objects store with
  | nil => exact shows
  | cons turn turns inductionHypothesis =>
      rw [Store.allLockSteps, run, List.foldl_append]
      exact inductionHypothesis (shows.takeTurn turn)

/-- Who holds the lock of a key is who has the guard of its object. -/
theorem isHolder_iff (shows : objects.Shows store) (owner : Owner)
    (key : String) :
    store.isHolder owner key = true ↔
    ∃ guard ∈ objects.guards key, guard.owner = owner := by
  have held : store.isHolder owner key = true ↔
      ∃ entry, objects.find? key = some entry ∧
        (objects.memory entry.object).holder = some owner := by
    rw [Store.isHolder, shows.lock?_eq, Option.any_map]
    cases objects.find? key <;> simp
  rw [held]
  constructor
  · rintro ⟨entry, found, holds⟩
    obtain ⟨listed, rfl⟩ := key_of_find? found
    have uses : owner ∈ (objects.memory entry.object).users :=
      List.mem_append_left _ (by simp [holds])
    obtain ⟨request, asked, rfl, same, _⟩ := (shows.referred.used _ _).mp uses
    have named :=
      (shows.referred.object_eq_iff (shows.referred.listed request asked)
        listed).mp same
    have matching : request.key = entry.key := named
    exact ⟨request,
      List.mem_filter.mpr ⟨asked, by simp [matching, same, holds]⟩, rfl⟩
  · rintro ⟨guard, among, rfl⟩
    obtain ⟨asked, guards⟩ := List.mem_filter.mp among
    rw [Bool.and_eq_true, beq_iff_eq, beq_iff_eq] at guards
    obtain ⟨rfl, holds⟩ := guards
    exact ⟨guard.entry,
      shows.referred.find?_of_mem (shows.referred.listed guard asked), holds⟩

end Shows

/-- Whatever steps are taken on lock objects, a key never has two guards, and
pruning, by whichever keys, never forgets the entry of a key whose lock is held
or awaited. What happens to the locks of a store comes to such steps: it has the
locks in the table, pruned alike, and the one who holds a lock is the one who
has the guard. -/
theorem one_guard_for_each_key :
    (∀ (steps : List LockStep) (key : String) (stored : List String),
      let objects := LockObjects.empty.run steps
      (objects.guards key).length ≤ 1 ∧
        ∀ request ∈ objects.requests,
          request.entry ∈ (objects.prune stored).table) ∧
    ∀ (capacity : Nat) (turns : List LockTurn),
      let store := (Store.withCapacity capacity).takeTurns turns
      let objects := LockObjects.empty.run
        (Store.allLockSteps turns (.withCapacity capacity))
      objects.locks = store.locks ∧
        (objects.prune store.keys).locks = store.pruneLocks.locks ∧
        ∀ (owner : Owner) (key : String),
          store.isHolder owner key = true ↔
          ∃ guard ∈ objects.guards key, guard.owner = owner := by
  constructor
  · intro steps key stored objects
    have referred := Referred.empty.run steps
    exact ⟨referred.length_guards_le key, (referred.prune stored).listed⟩
  · intro capacity turns store objects
    have began : LockObjects.empty.Shows (Store.withCapacity capacity) :=
      ⟨.empty, List.forall_mem_nil _, rfl⟩
    have shows := began.takeTurns turns
    exact ⟨shows.locks, shows.prune.locks, shows.isHolder_iff⟩

/-- A key whose lock is held while it is dropped and stored again has the same
object, for which the next one stands in line. -/
theorem one_guard_for_each_key_of_returning_key :
    let turns : List LockTurn :=
      [.register "a" none default, .request 0 "a", .register "b" none default,
        .register "a" none default, .request 1 "a"]
    let store := (Store.withCapacity 1).takeTurns turns
    let steps := Store.allLockSteps turns (.withCapacity 1)
    let objects := LockObjects.empty.run steps
    objects.made = 1 ∧ store.locks = [⟨"a", some 0, [1]⟩] ∧
      objects.locks = store.locks ∧
      (∃ guard ∈ objects.guards "a", guard.owner = 0) ∧
      (objects.guards "a").length ≤ 1 ∧
      ∀ request ∈ objects.requests,
        request.entry ∈ (objects.prune ["b"]).table := by
  intro turns store steps objects
  have made : objects.made = 1 := by decide +kernel
  have locks : store.locks = [⟨"a", some 0, [1]⟩] := by decide +kernel
  have held : store.isHolder 0 "a" = true := by decide +kernel
  obtain ⟨single, kept⟩ := one_guard_for_each_key.1 steps "a" ["b"]
  obtain ⟨shown, _, guards⟩ := one_guard_for_each_key.2 1 turns
  exact ⟨made, locks, shown, (guards 0 "a").mp held, single, kept⟩

end LockObjects
end PromptTuning
