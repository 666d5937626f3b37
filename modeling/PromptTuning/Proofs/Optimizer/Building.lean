import PromptTuning.Proofs.Concurrency.Alone
import PromptTuning.Proofs.Optimizer.Result

/-!
# Building and finalizing without others

Building locks every key, reads every variable and commits it as built. Where
nobody else uses the store it gets every lock at once, so that it finds every
variable as it was, and it commits either all of them in their order or none.
Finalizing does the same to one variable.
-/

namespace PromptTuning

variable {σ : Type}

namespace Store

variable {store : Store}

/-- Where keys are distinct, a stored variable is found under its key. -/
theorem find?_of_mem (distinct : store.keys.Nodup) {entry : Variable}
    (listed : entry ∈ store.entries) : store.find? entry.key = some entry := by
  obtain ⟨stored, found⟩ :=
    contains_iff_find?.mp
      (contains_iff_mem_keys.mpr (List.mem_map_of_mem listed))
  have same : stored = entry := List.inj_on_of_nodup_map distinct
    (List.mem_of_find?_eq_some found) listed (key_of_find? found)
  exact same ▸ found

/-- A commit of a stored variable in another form takes the place of
the old one. -/
theorem entries_commit
    {earlier later : List Variable}
    {entry changed : Variable}
    (distinct : store.keys.Nodup)
    (split : store.entries = earlier ++ entry :: later)
    (named : changed.key = entry.key)
    (counted : changed.version = entry.version)
    (now : Timestamp) :
    (store.commit changed now).entries =
      earlier ++ changed.touch now :: later := by
  have listed : entry ∈ store.entries := by simp [split]
  have found : store.find? changed.key = some entry := by
    rw [named]
    exact find?_of_mem distinct listed
  have present : store.contains (changed.touch now).key = true :=
    contains_of_find? found
  have apart :
      ∀ other ∈ earlier ++ later, other.key ≠ (changed.touch now).key := by
    rw [keys, split, List.map_append, List.map_cons,
      List.nodup_middle] at distinct
    intro other among same
    refine (List.nodup_cons.mp distinct).1 ?_
    rw [← List.map_append]
    exact List.mem_map.mpr ⟨other, among, same.trans named⟩
  have kept {others : List Variable} (among : others ⊆ earlier ++ later) :
      others.map
        (fun old =>
          if old.key = (changed.touch now).key then changed.touch now
          else old) =
        others :=
    (List.map_congr_left fun old listed =>
      if_neg (apart old (among listed))).trans others.map_id'
  have written : (store.commit changed now).entries =
      (store.put (changed.touch now)).entries := by
    rw [commit_eq_put found, ← counted]
    rfl
  have own : entry.key = (changed.touch now).key := named.symm
  rw [written, entries_put present, split, List.map_append, List.map_cons,
    kept (List.subset_append_left _ _), kept (List.subset_append_right _ _),
    if_pos own]

/-- What a commit of a stored variable makes of the variables depends on
them alone. -/
theorem entries_commit_congr
    {other : Store}
    {entry changed : Variable}
    (same : other.entries = store.entries)
    (found : store.find? changed.key = some entry)
    (now : Timestamp) :
    (other.commit changed now).entries =
      (store.commit changed now).entries := by
  have otherFound : other.find? changed.key = some entry := by
    rw [find?, same]
    exact found
  rw [commit_eq_put found, commit_eq_put otherFound, entries_counting,
    entries_counting, entries_put, entries_put, same]
  · exact contains_of_find? found
  · exact contains_of_find? otherFound

/-- Where keys are distinct, reading them one by one gives the variables in
their order. -/
theorem filterMap_find?_keys (distinct : store.keys.Nodup) :
    store.keys.filterMap store.find? = store.entries := by
  have found : ∀ entry ∈ store.entries, store.find? entry.key = some entry :=
    fun _ listed => find?_of_mem distinct listed
  rw [keys, List.filterMap_map]
  exact (List.filterMap_congr found).trans List.filterMap_some

end Store

namespace World

theorem useProgram_now (world : World σ) (optimizer : Optimizer) :
    (world.useProgram optimizer).2.now = world.now := by
  unfold useProgram
  cases world.programs optimizer.id with
  | some program => rfl
  | none => cases optimizer.buildProgram <;> rfl

/-- Programs and stores have nothing to do with each other. -/
theorem useProgram_setStore
    (world : World σ)
    (optimizer : Optimizer)
    (id : StoreId)
    (store : Store) :
    (world.setStore id store).useProgram optimizer =
      ((world.useProgram optimizer).1,
        (world.useProgram optimizer).2.setStore id store) := by
  have same : (world.setStore id store).programs = world.programs := rfl
  unfold useProgram
  rw [same]
  cases world.programs optimizer.id with
  | some program => rfl
  | none => cases optimizer.buildProgram <;> rfl

/-- An optimizer that is answered with a program has left it there. -/
theorem programs_of_useProgram_eq_ok
    {optimizer : Optimizer}
    {world : World σ}
    {program : Module}
    (answered : (world.useProgram optimizer).1 = .ok program) :
    (world.useProgram optimizer).2.programs optimizer.id = some program := by
  unfold useProgram at answered ⊢
  cases present : world.programs optimizer.id with
  | some old =>
      rw [present] at answered
      rw [← Except.ok.inj answered]
      exact present
  | none =>
      cases built : optimizer.buildProgram with
      | error cause =>
          rw [present, built] at answered
          contradiction
      | ok new =>
          rw [present, built] at answered
          rw [← Except.ok.inj answered]
          exact if_pos rfl

/-- A program that is there stays, whatever is done. -/
theorem programs_perform
    {id : OptimizerId}
    {world : World σ}
    {program : Module}
    (ready : world.programs id = some program)
    (owner : Owner)
    (action : Action) :
    (world.perform owner action).2.programs id = some program := by
  cases action with
  | program optimizer =>
      change (world.useProgram optimizer).2.programs id = some program
      unfold useProgram
      cases present : world.programs optimizer.id with
      | some old => exact ready
      | none =>
          have other : id ≠ optimizer.id := by
            rintro rfl
            rw [ready] at present
            contradiction
          cases optimizer.buildProgram with
          | error cause => exact ready
          | ok new => exact (if_neg other).trans ready
  | _ => exact ready

end World

/-- A program that is there stays, whatever runs. -/
theorem Activity.programs_run
    {α : Type}
    (host : ModelHost σ)
    (owner : Owner)
    (limit : Nat)
    {id : OptimizerId}
    {program : Module}
    (activity : Activity α)
    {world : World σ}
    (ready : world.programs id = some program) :
    (activity.run host owner limit world).2.programs id = some program := by
  induction activity generalizing world with
  | done result => exact ready
  | act action resume inductionHypothesis =>
      exact inductionHypothesis _ (World.programs_perform ready owner action)
  | lock store key resume inductionHypothesis =>
      simp only [run]
      split
      · exact inductionHypothesis _ ready
      · exact inductionHypothesis _ ready
      · exact ready
  | generate model request resume inductionHypothesis =>
      simp only [run]
      split
      · exact inductionHypothesis _ ready
      · exact ready

namespace Optimizer

variable {id : StoreId} (host : ModelHost σ) (owner : Owner) (limit : Nat)

/-- Keys whose locks are free are all locked, and their variables read. -/
theorem run_lockAndRead
    {keys held : List String}
    {world : World σ}
    (distinct : keys.Nodup)
    (stored : ∀ key ∈ keys, (world.stores id).contains key = true)
    (free : ∀ key ∈ keys, (world.stores id).IsFree key)
    (used : (world.stores id).UsedFor owner held) :
    ∃ locked : Store, locked.entries = (world.stores id).entries ∧
      locked.UsedFor owner (keys ++ held) ∧
      (lockAndRead id keys).run host owner limit world =
        (some (keys, keys.filterMap (world.stores id).find?),
          world.setStore id locked) := by
  induction keys generalizing world held with
  | nil => exact ⟨world.stores id, rfl, used, by rw [World.setStore_self]; rfl⟩
  | cons key keys inductionHypothesis =>
      obtain ⟨unlisted, distinct⟩ := List.nodup_cons.mp distinct
      obtain ⟨present, stored⟩ := List.forall_mem_cons.mp stored
      obtain ⟨after, granted, entries, _, others⟩ :=
        Store.requestLock_of_isFree present (free key List.mem_cons_self) owner
      have found : after.find? = (world.stores id).find? := by
        funext name
        rw [Store.find?, Store.find?, entries]
      obtain ⟨locked, kept, usedAfter, ran⟩ :=
        @inductionHypothesis (key :: held)
          (world.setStore id after) distinct
          (by
            intro name listed
            rw [World.stores_setStore_self, Store.contains, entries]
            exact stored name listed)
          (by
            intro name listed lock present
            rw [World.stores_setStore_self,
              others name (fun same => unlisted (same ▸ listed))]
              at present
            exact free name (List.mem_cons_of_mem _ listed) lock present)
          (by
            rw [World.stores_setStore_self]
            exact used.granted granted)
      rw [World.stores_setStore_self] at kept ran
      refine ⟨locked, kept.trans entries, usedAfter.mono (by simp), ?_⟩
      simp only [lockAndRead, Activity.run, granted]
      change ((lockAndRead id keys).bind fun read => .done (key :: read.1,
        ((world.setStore id after).perform owner (.read id key)).1.toList ++
        read.2)).run host owner limit (world.setStore id after)
          = _
      rw [Activity.run_bind_of_run host owner limit ran, found,
        World.setStore_setStore]
      obtain ⟨entry, there⟩ := Store.contains_iff_find?.mp present
      have told :
          ((world.setStore id after).perform owner (.read id key)).1 =
            some entry := by
        change ((world.setStore id after).stores id).find? key = some entry
        rw [World.stores_setStore_self, found, there]
      simp [Activity.run, told, there]

/-- Letting go of locks leaves all variables as they are. -/
theorem run_unlockAll
    {keys : List String}
    {world : World σ}
    (used : (world.stores id).UsedFor owner keys) :
    ∃ after : Store, after.entries = (world.stores id).entries ∧
      after.Unlocked ∧
      (unlockAll id keys).run host owner limit world =
        (some (), world.setStore id after) := by
  induction keys generalizing world with
  | nil =>
      exact ⟨world.stores id, rfl, used.unlocked,
        by rw [World.setStore_self]; rfl⟩
  | cons key keys inductionHypothesis =>
      obtain ⟨after, entries, unlocked, ran⟩ :=
        @inductionHypothesis (world.perform owner (.unlock id key)).2 (by
          rw [World.stores_unlock]
          exact used.releaseLock)
      refine ⟨after,
        entries.trans (World.sameEntries_unlock world owner id key id),
        unlocked, ?_⟩
      change (unlockAll id keys).run host owner limit
        (world.perform owner (.unlock id key)).2 = _
      rw [ran]
      change (some (), (world.setStore id _).setStore id after) = _
      rw [World.setStore_setStore]

/-- The variables that are left are committed as built, in their places. -/
theorem run_commitAll_built
    {earlier later : List Variable}
    {world : World σ}
    (distinct : (world.stores id).keys.Nodup)
    (split : (world.stores id).entries = earlier ++ later) :
    ∃ after : Store,
      after.entries =
        earlier ++ later.map (fun entry => entry.built.touch world.now) ∧
        (∀ lock ∈ after.locks, lock ∈ (world.stores id).locks) ∧
        (commitAll id (later.map Variable.built)).run host owner limit world =
          (some (), world.setStore id after) := by
  induction later generalizing earlier world with
  | nil =>
      exact ⟨world.stores id, split, fun _ listed => listed,
        by rw [World.setStore_self]; rfl⟩
  | cons entry later inductionHypothesis =>
      have counted : entry.built.version = entry.version := by
        unfold Variable.built
        split <;> rfl
      have entries :=
        Store.entries_commit distinct split entry.key_built counted world.now
      have keys : ((world.stores id).commit entry.built world.now).keys =
          (world.stores id).keys := by
        simp [Store.keys, entries, split, Variable.touch, Variable.key_built]
      obtain ⟨after, committed, locks, ran⟩ := @inductionHypothesis
        (earlier ++ [entry.built.touch world.now])
        (world.setStore id ((world.stores id).commit entry.built world.now))
        (by
          rw [World.stores_setStore_self, keys]
          exact distinct)
        (by
          rw [World.stores_setStore_self, entries]
          simp)
      rw [World.stores_setStore_self] at locks
      refine ⟨after, by simpa using committed, fun lock listed =>
        Store.locks_commit (world.stores id) _ _ lock (locks lock listed), ?_⟩
      rw [World.setStore_setStore] at ran
      exact ran

theorem buildStored_eq (optimizer : Optimizer) (store : StoreId) :
    optimizer.buildStored store =
      .act (.keys store) fun keys => (lockAndRead store keys).bind fun read =>
        .act (.program optimizer) fun
          | .error cause =>
              (unlockAll store read.1).bind fun _ =>
                .done (.error (.build cause))
          | .ok _ =>
              (commitAll store (read.2.map Variable.built)).bind fun _ =>
                (unlockAll store read.1).bind fun _ => .done (.ok ()) := by
  change Activity.act (.keys store) _ = _
  congr 1
  funext keys
  change Activity.bind _ (lockAndRead store keys) = _
  congr 1
  funext read
  change Activity.act (.program optimizer) _ = _
  congr 1
  funext answer
  cases answer <;> rfl

/-- Once building has succeeded, the optimizer has a program. -/
theorem exists_program_of_buildStored
    {optimizer : Optimizer}
    {world after : World σ}
    (ran : (optimizer.buildStored id).run host owner limit world =
      (some (.ok ()), after)) :
    ∃ program, after.programs optimizer.id = some program := by
  rw [buildStored_eq] at ran
  change ((lockAndRead id (world.stores id).keys).bind _).run host
    owner limit world = _ at ran
  rw [Activity.run_bind] at ran
  split at ran
  · rename_i read between _
    simp only [Activity.run, World.perform] at ran
    cases answered : (between.useProgram optimizer).1 with
    | error cause =>
        rw [answered] at ran
        simp only [Activity.run_bind] at ran
        split at ran
        · simp [Activity.run] at ran
        · simp at ran
    | ok program =>
        rw [answered] at ran
        obtain rfl : _ = after := congrArg (·.2) ran
        refine ⟨program, ?_⟩
        exact Activity.programs_run host owner limit _
          (World.programs_of_useProgram_eq_ok answered)
  · simp at ran

/-- Alone, building either finds no program and leaves all variables as they
are, or commits every variable as built, in the order they have. -/
theorem run_buildStored
    (optimizer : Optimizer)
    {world : World σ}
    (unlocked : (world.stores id).Unlocked)
    (distinct : (world.stores id).keys.Nodup) :
    ∃ (answer : Except OptimizationError Unit) (after : Store),
      (optimizer.buildStored id).run host owner limit world =
          (some answer, (world.useProgram optimizer).2.setStore id after) ∧
        after.Unlocked ∧
        match (world.useProgram optimizer).1 with
        | .error cause =>
            answer = .error (.build cause) ∧
            after.entries = (world.stores id).entries
        | .ok _ =>
            answer = .ok () ∧ after.entries =
              (world.stores id).entries.map fun entry =>
                entry.built.touch world.now := by
  have free : ∀ key ∈ (world.stores id).keys, (world.stores id).IsFree key :=
    fun key _ lock found => unlocked lock (List.mem_of_find?_eq_some found)
  obtain ⟨locked, entries, used, ran⟩ :=
    run_lockAndRead host owner limit distinct
      (fun key listed => Store.contains_iff_mem_keys.mpr listed) free
      (unlocked.usedFor owner)
  rw [List.append_nil] at used
  rw [Store.filterMap_find?_keys distinct] at ran
  rw [buildStored_eq]
  change ∃ answer after,
    ((lockAndRead id (world.stores id).keys).bind _).run host owner limit
      world = _ ∧ _
  rw [Activity.run_bind_of_run host owner limit ran]
  simp only [Activity.run, World.perform, World.useProgram_setStore]
  cases (world.useProgram optimizer).1 with
  | error cause =>
      obtain ⟨after, kept, unlocked, released⟩ :=
        @run_unlockAll _ id host owner limit
          (world.stores id).keys
          ((world.useProgram optimizer).2.setStore id locked) (by
            rw [World.stores_setStore_self]
            exact used)
      rw [World.stores_setStore_self] at kept
      rw [World.setStore_setStore] at released
      refine ⟨.error (.build cause), after, ?_, unlocked, rfl,
        kept.trans entries⟩
      exact Activity.run_bind_of_run host owner limit released _
  | ok program =>
      have whole :
          (((world.useProgram optimizer).2.setStore id locked).stores
            id).entries =
            [] ++ (world.stores id).entries := by
        rw [World.stores_setStore_self, entries, List.nil_append]
      obtain ⟨built, written, locks, committed⟩ :=
        run_commitAll_built host owner limit
          (by rw [Store.keys, whole]; exact distinct) whole
      rw [World.stores_setStore_self] at locks
      obtain ⟨after, kept, unlocked, released⟩ :=
        @run_unlockAll _ id host owner limit
          (world.stores id).keys
          ((world.useProgram optimizer).2.setStore id built) (by
            rw [World.stores_setStore_self]
            exact used.of_subset locks)
      rw [World.stores_setStore_self] at kept
      rw [World.setStore_setStore] at committed released
      rw [World.now_setStore, World.useProgram_now, List.nil_append] at written
      refine ⟨.ok (), after, ?_, unlocked, rfl, kept.trans written⟩
      exact (Activity.run_bind_of_run host owner limit committed _).trans
        (Activity.run_bind_of_run host owner limit released _)

/-- Alone, finalizing a key that is not stored is refused. -/
theorem run_finalizeStored_of_absent
    {key : String}
    {world : World σ}
    (absent : (world.stores id).contains key = false) :
    (finalizeStored id key).run host owner limit world =
      (some (.error (.store (.notFound key))), world) := by
  simp [finalizeStored, Activity.withLock, Activity.run, Store.requestLock,
    absent]

/-- Alone, finalizing commits the variable it finds under the lock
and lets go. -/
theorem run_finalizeStored_of_granted
    {key : String}
    {entry : Variable}
    {world : World σ}
    {locked : Store}
    (granted : (world.stores id).requestLock owner key = .granted locked)
    (found : locked.find? key = some entry) :
    (finalizeStored id key).run host owner limit world =
      (some (.ok ()), world.setStore id
        ((locked.commit entry.finalized world.now).releaseLock owner key)) := by
  have told :
      ((world.setStore id locked).perform owner (.read id key)).1 =
        some entry := by
    change ((world.setStore id locked).stores id).find? key = some entry
    rw [World.stores_setStore_self, found]
  unfold finalizeStored Activity.withLock
  simp only [Activity.run, granted]
  change Activity.run host owner limit (Activity.bind _ (Activity.bind _
    (.done ((world.setStore id locked).perform owner (.read id key)).1)))
      (world.setStore id locked) = _
  rw [told]
  change (some _, (((world.setStore id locked).setStore id _).setStore id _)) =
    _
  simp [World.setStore_setStore]

/-- Alone, finalizing commits the variable it finds without its candidates. -/
theorem run_finalizeStored
    {key : String}
    {entry : Variable}
    {world : World σ}
    (unlocked : (world.stores id).Unlocked)
    (stored : (world.stores id).find? key = some entry) :
    ∃ after : Store,
      after.entries =
        ((world.stores id).commit entry.finalized world.now).entries ∧
        after.Unlocked ∧
        (finalizeStored id key).run host owner limit world =
          (some (.ok ()), world.setStore id after) := by
  have free : (world.stores id).IsFree key := fun lock found =>
    unlocked lock (List.mem_of_find?_eq_some found)
  obtain ⟨locked, granted, entries, _⟩ :=
    Store.requestLock_of_isFree (Store.contains_of_find? stored) free owner
  have found : locked.find? key = some entry := by
    rw [Store.find?, entries]
    exact stored
  have storedOwn :
      (world.stores id).find? entry.finalized.key = some entry := by
    change (world.stores id).find? entry.key = some entry
    rw [Store.key_of_find? stored]
    exact stored
  exact ⟨(locked.commit entry.finalized world.now).releaseLock owner key,
    Store.entries_commit_congr entries storedOwn world.now,
    Store.unlocked_releaseLock unlocked granted (Store.locks_commit locked _ _),
    run_finalizeStored_of_granted host owner limit granted found⟩

end Optimizer
end PromptTuning
