import PromptTuning.Store.Locking

/-!
# Holding locks

At most one task holds the lock of a key. Nothing that another task does takes a
lock away from its holder: a request for a held lock only joins its queue, and
letting go concerns the locks of the one who lets go.
-/

namespace PromptTuning

namespace Lock

@[simp] theorem key_handOver (lock : Lock) : lock.handOver.key = lock.key := by
  unfold handOver
  split <;> rfl

@[simp] theorem key_without (owner : Owner) (lock : Lock) :
    (lock.without owner).key = lock.key := by
  unfold without
  split <;> simp

/-- A lock keeps its holder when somebody else lets go of it. -/
theorem holder_without_of_ne
    {owner other : Owner}
    {lock : Lock}
    (held : lock.holder = some owner)
    (different : other ≠ owner) :
    (lock.without other).holder = some owner := by
  have kept : owner ≠ other := fun same => different same.symm
  simp [without, kept, held]

/-- Nobody but one task holds or awaits a lock. -/
structure UsedBy (lock : Lock) (owner : Owner) : Prop where
  holder : ∀ other, lock.holder = some other -> other = owner
  waiters : ∀ other ∈ lock.waiters, other = owner

namespace UsedBy

variable {lock : Lock} {owner : Owner}

/-- A lock that is not in use is used by nobody else. -/
theorem of_not_inUse (unused : lock.inUse = false) : lock.UsedBy owner := by
  have nobody : lock.holder = none ∧ lock.waiters = [] := by
    simpa [inUse] using unused
  constructor
  · intro other held
    rw [nobody.1] at held
    contradiction
  · intro other awaits
    rw [nobody.2] at awaits
    exact absurd awaits List.not_mem_nil

/-- Once the only user lets go of a lock, it is not in use. -/
theorem without (used : lock.UsedBy owner) :
    (lock.without owner).inUse = false := by
  have nobody : lock.waiters.filter (· != owner) = [] := by
    rw [List.filter_eq_nil_iff]
    intro other awaits
    simp [used.waiters other awaits]
  unfold Lock.without
  rw [nobody]
  by_cases held : lock.holder = some owner
  · simp [held, handOver, inUse]
  · have unheld : lock.holder = none := by
      cases holder : lock.holder with
      | none => rfl
      | some other =>
          rw [used.holder other holder] at holder
          exact absurd holder held
    simp [unheld, inUse]

end UsedBy

end Lock

namespace Store

variable {store : Store} {owner other : Owner} {key name : String}

/-- A task holds the lock of a key if the lock that is found for the
key says so. -/
theorem isHolder_iff :
    store.isHolder owner key = true ↔
      ∃ lock, store.lock? key = some lock ∧ lock.holder = some owner := by
  simp [isHolder, Option.any_eq_true]

/-- The lock that is found for a key is the lock of that key. -/
theorem key_of_lock? {lock : Lock} (found : store.lock? key = some lock) :
    lock.key = key := by
  simpa using List.find?_some found

/-- A key has one holder at most. -/
theorem holder_unique
    (first : store.isHolder owner key = true)
    (second : store.isHolder other key = true) :
    owner = other := by
  obtain ⟨lock, found, held⟩ := isHolder_iff.mp first
  obtain ⟨again, foundAgain, heldAgain⟩ := isHolder_iff.mp second
  rw [found] at foundAgain
  obtain rfl := Option.some.inj foundAgain
  rw [held] at heldAgain
  exact Option.some.inj heldAgain

/-- Who holds a lock depends on the locks alone. -/
theorem isHolder_of_locks_eq
    {after : Store}
    (locks : after.locks = store.locks) :
    after.isHolder owner key = store.isHolder owner key := by
  rw [isHolder, isHolder, lock?, lock?, locks]

@[simp] theorem isHolder_counting (entry : Variable) (store : Store)
    (owner : Owner) (key : String) :
    (store.counting entry).isHolder owner key = store.isHolder owner key := rfl

/-- Locks that are changed without their keys are found where they were
found before. -/
theorem lock?_map
    {change : Lock -> Lock}
    (keeps : ∀ lock, (change lock).key = lock.key) :
    lock? { store with locks := store.locks.map change } key =
      (store.lock? key).map change := by
  unfold lock?
  rw [List.find?_map]
  congr 2
  funext lock
  simp [keeps]

/-- A lock that replaces another one is found under its key, all
others as before. -/
theorem lock?_setLock {lock : Lock} (found : store.lock? name = some lock)
    {changed : Lock} (keeps : changed.key = lock.key) :
    (store.setLock changed).lock? key =
      if key = name then some changed else store.lock? key := by
  rw [setLock,
    lock?_map
      (fun old => by by_cases same : old.key = changed.key <;> simp [same])]
  have named := key_of_lock? found
  by_cases same : key = name
  · subst same
    rw [found, Option.map_some, if_pos keeps.symm, if_pos rfl]
  · rw [if_neg same]
    cases present : store.lock? key with
    | none => rfl
    | some old =>
        have different : old.key ≠ changed.key := by
          rw [key_of_lock? present, keeps, named]
          exact same
        rw [Option.map_some, if_neg different]

/-- Letting go of one lock changes what is found under its key alone. -/
theorem lock?_releaseLock :
    (store.releaseLock owner name).lock? key =
      (store.lock? key).map fun lock =>
        if lock.key = name then lock.without owner else lock := by
  rw [releaseLock, lock?_map]
  intro lock
  split <;> simp

/-- Letting go of every lock changes whatever lock is found. -/
theorem lock?_releaseAll :
    (store.releaseAll owner).lock? key =
      (store.lock? key).map (·.without owner) := by
  rw [releaseAll, lock?_map]
  simp

/-- A new lock is found under its key and hides no other. -/
theorem lock?_append_new (absent : store.lock? name = none) {lock : Lock}
    (named : lock.key = name) :
    lock? { store with locks := store.locks ++ [lock] } key =
      if key = name then some lock else store.lock? key := by
  unfold lock? at absent ⊢
  rw [List.find?_append]
  by_cases same : key = name
  · subst same
    rw [absent, if_pos rfl]
    simp [named]
  · have other : (lock.key == key) = false := by
      rw [named]
      simpa using fun equal : name = key => same equal.symm
    rw [if_neg same, List.find?_singleton, other]
    simp

/-- Nobody holds or awaits the lock of a key. -/
def IsFree (store : Store) (key : String) : Prop :=
  ∀ lock, store.lock? key = some lock -> lock.inUse = false

/-- A free lock is granted at once, and nothing else changes. -/
theorem requestLock_of_isFree
    (present : store.contains name = true)
    (free : store.IsFree name)
    (owner : Owner) :
    ∃ after, store.requestLock owner name = .granted after ∧
      after.entries = store.entries ∧
      after.lock? name = some ⟨name, some owner, []⟩ ∧
      ∀ key, key ≠ name -> after.lock? key = store.lock? key := by
  rw [requestLock, if_pos present]
  cases found : store.lock? name with
  | none =>
      refine ⟨_, rfl, rfl, ?_, ?_⟩
      · rw [lock?_append_new found rfl, if_pos rfl]
      · intro key different
        rw [lock?_append_new found rfl, if_neg different]
  | some lock =>
      have unused := free lock found
      have nobody : lock.waiters = [] := by
        simpa [Lock.inUse] using And.right (by simpa [Lock.inUse] using unused)
      have named : ({ lock with holder := some owner } : Lock).key = lock.key :=
        rfl
      refine ⟨store.setLock { lock with holder := some owner },
        by simp [unused], rfl, ?_, ?_⟩
      · rw [lock?_setLock found named, if_pos rfl, nobody, key_of_lock? found]
      · intro key different
        rw [lock?_setLock found named, if_neg different]

/-- A request for a lock in use joins its queue. -/
theorem requestLock_of_inUse
    (present : store.contains name = true)
    {lock : Lock}
    (found : store.lock? name = some lock)
    (used : lock.inUse = true)
    (owner : Owner) :
    store.requestLock owner name =
      .queued
        (store.setLock { lock with waiters := lock.waiters ++ [owner] }) := by
  simp [requestLock, present, found, used]

/-- A lock that is granted is new or was there. -/
theorem granted_cases {after : Store}
    (granted : store.requestLock owner name = .granted after) :
    after = { store with locks := store.locks ++ [⟨name, some owner, []⟩] } ∨
      ∃ lock : Lock, lock.key = name ∧
        after = store.setLock { lock with holder := some owner } := by
  unfold requestLock at granted
  split at granted
  case isFalse => contradiction
  split at granted
  · exact .inl (Grant.granted.inj granted).symm
  · rename_i lock found
    split at granted
    · contradiction
    · exact .inr ⟨lock, key_of_lock? found, (Grant.granted.inj granted).symm⟩

/-- The store after a request, granted or queued. -/
inductive Requested (store : Store) (owner : Owner) (name : String)
    (after : Store) : Prop
  | granted
      (request : store.requestLock owner name = .granted after)
      (free : store.IsFree name)
      (entries : after.entries = store.entries)
      (locked : after.lock? name = some ⟨name, some owner, []⟩)
      (others : ∀ key, key ≠ name -> after.lock? key = store.lock? key)
  | queued
      (lock : Lock)
      (request : store.requestLock owner name = .queued after)
      (found : store.lock? name = some lock)
      (entries : after.entries = store.entries)
      (joined : after.lock? name =
        some { lock with waiters := lock.waiters ++ [owner] })
      (others : ∀ key, key ≠ name -> after.lock? key = store.lock? key)

/-- The lock of a stored key can be requested. -/
theorem requested_of_present (present : store.contains name = true)
    (owner : Owner) :
    ∃ after, Requested store owner name after := by
  by_cases free : store.IsFree name
  · obtain ⟨after, request, entries, locked, others⟩ :=
      requestLock_of_isFree present free owner
    exact ⟨after, .granted request free entries locked others⟩
  · have inUse : ∃ lock, store.lock? name = some lock ∧ lock.inUse = true := by
      simpa [IsFree] using free
    obtain ⟨lock, found, used⟩ := inUse
    have named :
        ({ lock with waiters := lock.waiters ++ [owner] } : Lock).key =
          lock.key := rfl
    refine ⟨_,
      .queued lock (requestLock_of_inUse present found used owner)
        found rfl ?_ ?_⟩
    · rw [lock?_setLock found named, if_pos rfl]
    · intro key different
      rw [lock?_setLock found named, if_neg different]

/-- A request that is granted or queued is one of the ways in which
requests go. -/
theorem requested_of_requestLock
    {after : Store}
    (request : store.requestLock owner name = .granted after ∨
      store.requestLock owner name = .queued after) :
    Requested store owner name after := by
  have present : store.contains name = true := by
    cases missing : store.contains name with
    | true => rfl
    | false => simp [requestLock, missing] at request
  obtain ⟨other, requested⟩ := requested_of_present present owner
  have same : other = after := by
    cases requested with
    | granted answered => simpa [answered] using request
    | queued _ answered => simpa [answered] using request
  exact same ▸ requested

namespace Requested

variable {after : Store}

/-- A request for a lock leaves the variables alone. -/
theorem entries_eq (requested : Requested store owner name after) :
    after.entries = store.entries := by
  cases requested with
  | granted _ _ entries => exact entries
  | queued _ _ _ entries => exact entries

/-- A request takes no lock away from its holder. -/
theorem isHolder
    (requested : Requested store other name after)
    (holds : store.isHolder owner key = true) :
    after.isHolder owner key = true := by
  obtain ⟨lock, found, held⟩ := isHolder_iff.mp holds
  rw [isHolder_iff]
  by_cases same : key = name
  · subst same
    cases requested with
    | granted _ free => simpa [Lock.inUse, held] using free lock found
    | queued present _ found' _ joined =>
        rw [found] at found'
        obtain rfl := Option.some.inj found'
        exact ⟨_, joined, held⟩
  · refine ⟨lock, ?_, held⟩
    cases requested with
    | granted _ _ _ _ others => rw [others key same, found]
    | queued _ _ _ _ _ others => rw [others key same, found]

end Requested

/-- Whose request is granted holds the lock. -/
theorem isHolder_of_granted
    {after : Store}
    (granted : store.requestLock owner name = .granted after) :
    after.isHolder owner name = true := by
  cases requested_of_requestLock (.inl granted) with
  | granted _ _ _ locked => exact isHolder_iff.mpr ⟨_, locked, rfl⟩
  | queued _ request =>
      rw [granted] at request
      contradiction

/-- Letting go of a lock takes no other lock from its holder. -/
theorem isHolder_releaseLock
    (holds : store.isHolder owner key = true)
    (elsewhere : other ≠ owner ∨ name ≠ key) :
    (store.releaseLock other name).isHolder owner key = true := by
  obtain ⟨lock, found, held⟩ := isHolder_iff.mp holds
  rw [isHolder_iff, lock?_releaseLock, found]
  refine ⟨_, rfl, ?_⟩
  dsimp only
  obtain different | different := elsewhere
  · split
    · exact Lock.holder_without_of_ne held different
    · exact held
  · rw [key_of_lock? found, if_neg fun same => different same.symm]
    exact held

/-- Nobody loses a lock when somebody else lets go of every lock. -/
theorem isHolder_releaseAll (holds : store.isHolder owner key = true)
    (different : other ≠ owner) :
    (store.releaseAll other).isHolder owner key = true := by
  obtain ⟨lock, found, held⟩ := isHolder_iff.mp holds
  rw [isHolder_iff, lock?_releaseAll, found]
  exact ⟨_, rfl, Lock.holder_without_of_ne held different⟩

/-- Nobody holds or awaits any lock of a store. -/
def Unlocked (store : Store) : Prop :=
  ∀ lock ∈ store.locks, lock.inUse = false

/-- Nobody but one task holds or awaits a lock of a store. -/
def UsedBy (store : Store) (owner : Owner) : Prop :=
  ∀ lock ∈ store.locks, lock.UsedBy owner

theorem Unlocked.usedBy (unlocked : store.Unlocked) (owner : Owner) :
    store.UsedBy owner :=
  fun lock listed => .of_not_inUse (unlocked lock listed)

/-- A store that loses locks stays without any that is in use. -/
theorem Unlocked.of_subset {after : Store} (unlocked : store.Unlocked)
    (fewer : ∀ lock ∈ after.locks, lock ∈ store.locks) : after.Unlocked :=
  fun lock listed => unlocked lock (fewer lock listed)

namespace UsedBy

/-- A store that loses locks stays in use by the same owner alone. -/
theorem of_subset {after : Store} (used : store.UsedBy owner)
    (fewer : ∀ lock ∈ after.locks, lock ∈ store.locks) : after.UsedBy owner :=
  fun lock listed => used lock (fewer lock listed)

/-- A lock that only one owner uses may replace another one. -/
theorem setLock {lock : Lock} (used : store.UsedBy owner)
    (changed : lock.UsedBy owner) :
    (store.setLock lock).UsedBy owner := by
  intro other listed
  obtain ⟨old, oldListed, rfl⟩ := List.mem_map.mp listed
  split
  · exact changed
  · exact used old oldListed

/-- Whoever alone uses the locks does so after one more request. -/
theorem requestLock
    {after : Store}
    (used : store.UsedBy owner)
    (request : store.requestLock owner name = .granted after ∨
      store.requestLock owner name = .queued after) :
    after.UsedBy owner := by
  unfold Store.requestLock at request
  split at request
  case isFalse => simp at request
  cases found : store.lock? name with
  | none =>
      simp only [found, Grant.granted.injEq, reduceCtorEq, or_false] at request
      subst request
      intro lock listed
      obtain listed | listed := List.mem_append.mp listed
      · exact used lock listed
      · obtain rfl := List.mem_singleton.mp listed
        exact ⟨fun other held => (Option.some.inj held).symm, nofun⟩
  | some lock =>
      have listed : lock ∈ store.locks := List.mem_of_find?_eq_some found
      simp only [found] at request
      split at request
      · simp only [Grant.queued.injEq, reduceCtorEq, false_or] at request
        subst request
        refine used.setLock ⟨(used lock listed).holder, fun other awaits => ?_⟩
        obtain awaits | awaits := List.mem_append.mp awaits
        · exact (used lock listed).waiters other awaits
        · exact List.mem_singleton.mp awaits
      · simp only [Grant.granted.injEq, reduceCtorEq, or_false] at request
        subst request
        exact used.setLock
          ⟨fun other held => (Option.some.inj held).symm,
            (used lock listed).waiters⟩

/-- Whoever alone uses the locks does so after letting go of one. -/
theorem releaseLock (used : store.UsedBy owner) :
    (store.releaseLock owner name).UsedBy owner := by
  intro lock listed
  obtain ⟨old, oldListed, rfl⟩ := List.mem_map.mp listed
  split
  · exact .of_not_inUse (used old oldListed).without
  · exact used old oldListed

/-- Once the only user of a store lets go of every lock, none is in use. -/
theorem releaseAll (used : store.UsedBy owner) :
    (store.releaseAll owner).Unlocked := by
  intro lock listed
  obtain ⟨old, oldListed, rfl⟩ := List.mem_map.mp listed
  exact (used old oldListed).without

end UsedBy

/-- Nobody but one task holds or awaits a lock of a store, and it does so for
some keys only. -/
structure UsedFor (store : Store) (owner : Owner) (names : List String) :
    Prop where
  used : store.UsedBy owner
  others : ∀ lock ∈ store.locks, lock.key ∉ names -> lock.inUse = false

/-- Where no lock is in use, an owner uses the locks of no key. -/
theorem Unlocked.usedFor (unlocked : store.Unlocked) (owner : Owner) :
    store.UsedFor owner [] :=
  ⟨unlocked.usedBy owner, fun lock listed _ => unlocked lock listed⟩

namespace UsedFor

variable {names : List String}

/-- An owner who uses the locks of no key leaves all of them free. -/
theorem unlocked (used : store.UsedFor owner []) : store.Unlocked :=
  fun lock listed => used.others lock listed List.not_mem_nil

/-- A store that loses locks keeps those in use among the keys given. -/
theorem of_subset {after : Store} (used : store.UsedFor owner names)
    (fewer : ∀ lock ∈ after.locks, lock ∈ store.locks) :
    after.UsedFor owner names :=
  ⟨used.used.of_subset fewer,
    fun lock listed => used.others lock (fewer lock listed)⟩

/-- An owner who uses the locks of some keys uses those of more keys at most. -/
theorem mono {more : List String} (used : store.UsedFor owner names)
    (within : names ⊆ more) :
    store.UsedFor owner more :=
  ⟨used.used,
    fun lock listed apart =>
      used.others lock listed fun among => apart (within among)⟩

/-- One more granted lock adds its key to those in use. -/
theorem granted
    {after : Store}
    (used : store.UsedFor owner names)
    (granted : store.requestLock owner name = .granted after) :
    after.UsedFor owner (name :: names) := by
  refine ⟨used.used.requestLock (.inl granted), fun lock listed apart => ?_⟩
  obtain ⟨different, apart⟩ := List.ne_and_not_mem_of_not_mem_cons apart
  obtain rfl | ⟨old, named, rfl⟩ := granted_cases granted
  · obtain before | new := List.mem_append.mp listed
    · exact used.others lock before apart
    · obtain rfl := List.mem_singleton.mp new
      exact absurd rfl different
  · obtain ⟨previous, previousListed, rfl⟩ := List.mem_map.mp listed
    split at different <;> rename_i same
    · exact absurd named different
    · rw [if_neg same] at apart ⊢
      exact used.others previous previousListed apart

/-- Letting go of a lock takes its key from those in use. -/
theorem releaseLock (used : store.UsedFor owner (name :: names)) :
    (store.releaseLock owner name).UsedFor owner names := by
  refine ⟨used.used.releaseLock, fun lock listed apart => ?_⟩
  obtain ⟨old, oldListed, rfl⟩ := List.mem_map.mp listed
  split
  · exact (used.used old oldListed).without
  · rename_i different
    rw [if_neg different] at apart
    exact used.others old oldListed
      (List.not_mem_cons_of_ne_of_not_mem different apart)

end UsedFor

/-- Where nobody held or awaited a lock, nobody does after the only one that was
granted is let go. -/
theorem unlocked_releaseLock
    {after : Store}
    (unlocked : store.Unlocked)
    (granted : store.requestLock owner name = .granted after)
    {later : Store}
    (fewer : ∀ lock ∈ later.locks, lock ∈ after.locks) :
    (later.releaseLock owner name).Unlocked :=
  (((unlocked.usedFor owner).granted granted).of_subset
    fewer).releaseLock.unlocked

end Store
end PromptTuning
