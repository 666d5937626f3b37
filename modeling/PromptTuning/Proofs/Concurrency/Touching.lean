import PromptTuning.Proofs.Concurrency.Consulting

/-!
# What one worker touches

Workers on different keys of one store stay out of each other's way. Each takes
the lock of its key, commits to it and lets go, and whatever it does leaves the
order of the keys, the variables under all other keys and the locks that are
free or held by others.
-/

namespace PromptTuning

variable {σ : Type}

/-- A variable with the same contents, whatever its version and date. -/
def Variable.SameContents (first second : Variable) : Prop :=
  ∃ version now, first = { second with version := version, updatedAt := now }

namespace Variable.SameContents

variable {first second third : Variable}

/-- A variable has its own contents. -/
theorem refl (entry : Variable) : entry.SameContents entry :=
  ⟨entry.version, entry.updatedAt, rfl⟩

/-- Variables with the contents of a third one have the same contents. -/
theorem trans (left : first.SameContents second)
    (right : second.SameContents third) :
    first.SameContents third := by
  obtain ⟨version, now, rfl⟩ := left
  obtain ⟨_, _, rfl⟩ := right
  exact ⟨version, now, rfl⟩

/-- Finalizing keeps equal contents equal. -/
theorem finalized (same : first.SameContents second) :
    first.finalized.SameContents second.finalized := by
  obtain ⟨version, now, rfl⟩ := same
  exact ⟨version, now, rfl⟩

end Variable.SameContents

namespace Store

variable {before between after store : Store}
  {items more : List (String × Owner)} {key name : String} {owner other : Owner}

/-- The lock of a key is held by one task and awaited by nobody. -/
def HeldBy (store : Store) (key : String) (owner : Owner) : Prop :=
  store.lock? key = some ⟨key, some owner, []⟩

/-- The work of some owners on a key each leaves everything else as it is. -/
structure Touches (items : List (String × Owner)) (before after : Store) :
    Prop where
  keys : after.keys = before.keys
  found : ∀ key, key ∉ items.map (·.1) -> after.find? key = before.find? key
  free : ∀ key, key ∉ items.map (·.1) -> before.IsFree key -> after.IsFree key
  held : ∀ key owner, key ∉ items.map (·.1) -> owner ∉ items.map (·.2) ->
    before.HeldBy key owner -> after.HeldBy key owner

namespace Touches

/-- Nothing is touched where nothing changes. -/
theorem refl (items : List (String × Owner)) (store : Store) :
    Touches items store store :=
  ⟨rfl, fun _ _ => rfl, fun _ _ free => free, fun _ _ _ _ held => held⟩

/-- What two changes touch one after the other, both together touch. -/
theorem trans (first : Touches items before between)
    (second : Touches items between after) :
    Touches items before after where
  keys := second.keys.trans first.keys
  found key others := (second.found key others).trans (first.found key others)
  free key others free := second.free key others (first.free key others free)
  held key owner others strangers held :=
    second.held key owner others strangers
      (first.held key owner others strangers held)

/-- Who touches some keys touches more keys at most. -/
theorem mono (touches : Touches items before after) (within : items ⊆ more) :
    Touches more before after where
  keys := touches.keys
  found key
    others :=
    touches.found key fun among => others (List.map_subset _ within among)
  free key
    others :=
    touches.free key fun among => others (List.map_subset _ within among)
  held key owner others strangers :=
    touches.held key owner
      (fun among => others (List.map_subset _ within among))
      fun among => strangers (List.map_subset _ within among)

/-- Where only the lock of one key changes. -/
theorem ofLocks
    (entries : after.entries = before.entries)
    (locks : ∀ name, name ≠ key -> after.lock? name = before.lock? name) :
    Touches [(key, owner)] before after := by
  refine ⟨by rw [Store.keys, Store.keys, entries], fun name _ => ?_, ?_, ?_⟩
  · rw [find?, find?, entries]
  · intro name others free lock found
    rw [List.map_singleton, List.mem_singleton] at others
    rw [locks name others] at found
    exact free lock found
  · intro name holder others _ held
    rw [List.map_singleton, List.mem_singleton] at others
    exact (locks name others).trans held

/-- Where only the variable of one key changes. -/
theorem ofEntries
    (keys : after.keys = before.keys)
    (found : ∀ name, name ≠ key -> after.find? name = before.find? name)
    (locks : after.locks = before.locks) :
    Touches [(key, owner)] before after := by
  have same (name : String) : after.lock? name = before.lock? name := by
    rw [lock?, lock?, locks]
  refine ⟨keys, fun name others => ?_, fun name _ free lock present => ?_,
    fun name holder _ _ held => ?_⟩
  · exact found name (by simpa using others)
  · exact free lock ((same name).symm.trans present)
  · exact (same name).trans held

/-- Who lets go of everything touches the lock of its own key alone. -/
theorem ofReleaseAll (owner : Owner) (store : Store) :
    Touches [(key, owner)] store (store.releaseAll owner) := by
  refine ⟨rfl, fun _ _ => rfl, fun name _ free lock found => ?_,
    fun name holder _ others held => ?_⟩
  · rw [lock?_releaseAll] at found
    obtain ⟨old, present, rfl⟩ := Option.map_eq_some_iff.mp found
    exact (Lock.UsedBy.of_not_inUse (free old present)).without
  · rw [List.map_singleton, List.mem_singleton] at others
    rw [HeldBy, lock?_releaseAll, held]
    simp [Lock.without, others]

end Touches

/-- Who asks for a free lock holds it. -/
theorem heldBy_of_isFree
    (present : store.contains key = true)
    (free : store.IsFree key)
    (owner : Owner) :
    ∃ locked, store.requestLock owner key = .granted locked ∧
      locked.entries = store.entries ∧ locked.HeldBy key owner ∧
      Touches [(key, owner)] store locked := by
  obtain ⟨locked, granted, entries, own, others⟩ :=
    requestLock_of_isFree present free owner
  exact ⟨locked, granted, entries, own, .ofLocks entries others⟩

/-- Who lets go of the lock of its key leaves it free. -/
theorem HeldBy.releaseLock (held : store.HeldBy key owner) :
    (store.releaseLock owner key).IsFree key ∧
      Touches [(key, owner)] store (store.releaseLock owner key) := by
  constructor
  · intro lock found
    rw [lock?_releaseLock, held] at found
    obtain rfl := Option.some.inj found
    simp [Lock.without, Lock.handOver, Lock.inUse]
  · refine .ofLocks rfl fun name different => ?_
    rw [lock?_releaseLock]
    cases found : store.lock? name with
    | none => rfl
    | some lock =>
        rw [Option.map_some, key_of_lock? found, if_neg different]

/-- A key is free once its holder has let go of every lock. -/
theorem HeldBy.releaseAll (held : store.HeldBy key owner) :
    (store.releaseAll owner).IsFree key := by
  intro lock found
  rw [lock?_releaseAll, held] at found
  obtain rfl := Option.some.inj found
  simp [Lock.without, Lock.handOver, Lock.inUse]

/-- Who commits to its key still holds the lock of the key, and touches
nothing else. -/
theorem HeldBy.commit
    {entry stored : Variable}
    (held : store.HeldBy key owner)
    (found : store.find? key = some stored)
    (named : entry.key = key)
    (now : Timestamp) :
    (store.commit entry now).find? key =
        some { entry with version := stored.version + 1, updatedAt := now } ∧
      (store.commit entry now).HeldBy key owner ∧
      Touches [(key, owner)] store (store.commit entry now) := by
  subst named
  rw [commit_eq_put found]
  have present : store.contains
      ({ entry with version := stored.version + 1, updatedAt := now } :
        Variable).key = true :=
    contains_of_find? found
  refine ⟨find?_put_self present, ?_,
    .ofEntries (keys_put present) (fun _ => find?_put_of_ne present) locks_put⟩
  rw [HeldBy, lock?, locks_counting, locks_put]
  exact held

/-- Who commits to its key and lets go touches nothing but its key. -/
theorem HeldBy.commit_releaseLock
    {entry stored : Variable}
    (held : store.HeldBy key owner)
    (found : store.find? key = some stored)
    (named : entry.key = key)
    (now : Timestamp) :
    ((store.commit entry now).releaseLock owner key).find? key =
        some { entry with version := stored.version + 1, updatedAt := now } ∧
      ((store.commit entry now).releaseLock owner key).IsFree key ∧
      Touches [(key, owner)] store
        ((store.commit entry now).releaseLock owner key) := by
  obtain ⟨committed, heldCommitted, touched⟩ := held.commit found named now
  obtain ⟨free, released⟩ := heldCommitted.releaseLock
  exact ⟨committed, free, touched.trans released⟩

end Store

namespace World

variable {host : ModelHost σ} {id : StoreId}
  {items more : List (String × Owner)} {before between after world : World σ}
  {key : String} {owner : Owner}

/-- The work of some owners on a key each: others find their variables and locks
as they were, and no time passes. -/
structure Touches (host : ModelHost σ) (id : StoreId)
    (items : List (String × Owner))
    (before after : World σ) : Prop where
  store : (before.stores id).Touches items (after.stores id)
  programs : after.programs = before.programs
  clock : after.clock = before.clock
  now : after.now = before.now
  models : host.Reaches before.models after.models

namespace Touches

/-- Nothing is touched in a world that stays as it is. -/
theorem refl (items : List (String × Owner)) (world : World σ) :
    Touches host id items world world :=
  ⟨.refl items _, rfl, rfl, rfl, .refl⟩

/-- What two changes of a world touch one after the other, both
together touch. -/
theorem trans (first : Touches host id items before between)
    (second : Touches host id items between after) :
    Touches host id items before after where
  store := first.store.trans second.store
  programs := second.programs.trans first.programs
  clock := second.clock.trans first.clock
  now := second.now.trans first.now
  models := first.models.trans second.models

/-- Who touches some keys of a world touches more keys at most. -/
theorem mono (touches : Touches host id items before after)
    (within : items ⊆ more) :
    Touches host id more before after :=
  { touches with store := touches.store.mono within }

/-- Replacing a store touches in the world what it touches in the store. -/
theorem setStore {store : Store}
    (touches : (world.stores id).Touches items store) :
    Touches host id items world (world.setStore id store) := by
  refine ⟨?_, rfl, rfl, rfl, .refl⟩
  rw [stores_setStore_self]
  exact touches

/-- What models remember may change without any key being touched. -/
theorem withModels {models : σ} (reached : host.Reaches world.models models) :
    Touches host id items world { world with models := models } :=
  ⟨.refl items _, rfl, rfl, rfl, reached⟩

/-- Telling observers of an event touches no key. -/
theorem notify (owner : Owner) (event : Event) :
    Touches host id items world (world.perform owner (.notify event)).2 :=
  ⟨.refl items _, rfl, rfl, rfl, .refl⟩

/-- A task that is abandoned touches its own key alone. -/
theorem abandon : Touches host id [(key, owner)] world (world.abandon owner) :=
  ⟨.ofReleaseAll owner _, rfl, rfl, rfl, .refl⟩

end Touches
end World

namespace Optimizer

variable {host : ModelHost σ} {owner : Owner} {limit : Nat} {id : StoreId}
  {key : String} {entry : Variable} {world : World σ}

/-- Finalizing a variable whose lock is free commits it without its candidates
and touches nothing else. -/
theorem run_finalizeStored_of_isFree
    (free : (world.stores id).IsFree key)
    (stored : (world.stores id).find? key = some entry) :
    ∃ after,
      (finalizeStored id key).run host owner limit world =
        (some (.ok ()), after) ∧
      world.Touches host id [(key, owner)] after ∧
      (after.stores id).IsFree key ∧
      (after.stores id).find? key = some (entry.finalized.touch world.now) := by
  obtain ⟨locked, granted, entries, held, touched⟩ :=
    Store.heldBy_of_isFree (Store.contains_of_find? stored) free owner
  have found : locked.find? key = some entry := by
    rw [Store.find?, entries]
    exact stored
  have named : entry.finalized.key = key := by
    rw [← Store.key_of_find? stored]
    rfl
  obtain ⟨committed, freeAgain, released⟩ :=
    held.commit_releaseLock found named world.now
  refine ⟨_, run_finalizeStored_of_granted host owner limit granted found,
    .setStore (touched.trans released), ?_, ?_⟩ <;>
    rw [World.stores_setStore_self]
  · exact freeAgain
  · exact committed

end Optimizer

end PromptTuning
