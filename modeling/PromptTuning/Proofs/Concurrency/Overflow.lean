import PromptTuning.Proofs.Concurrency.Service

/-!
# Where counting writes overflows

A committed write counts on from the version of a variable. The version after
the largest one is zero, and no other committed write leaves zero, so what is
written tells whether counting it has overflowed. The store remembers that: it
has overflowed exactly if one of the turns so far has committed version zero. A
restoration counts nothing.
-/

namespace PromptTuning

variable {σ : Type}

namespace Variable

/-- Whether a committed variable has the version after the largest one. -/
def isWrapped (written : Variable) : Bool :=
  written.version == 0

/-- A version has a larger one after it unless it is the largest word. -/
theorem isExhausted_eq_false_iff {entry : Variable} :
    entry.isExhausted = false ↔ entry.version < entry.version + 1 := by
  have bounded := entry.version.toNat_lt
  rw [isExhausted, beq_eq_false_iff_ne, UInt64.lt_iff_toNat_lt,
    UInt64.toNat_add, UInt64.toNat_one, UInt64.size]
  omega

/-- Counting a write overflows exactly if it leaves the version zero. -/
theorem isWrapped_touch (now : Timestamp) (entry : Variable) :
    (entry.touch now).isWrapped = entry.isExhausted := by
  have bounded := entry.version.toNat_lt
  rw [Bool.eq_iff_iff, isWrapped, isExhausted, beq_iff_eq, beq_iff_eq, touch,
    ← UInt64.toNat_inj, UInt64.toNat_add, UInt64.toNat_one, UInt64.toNat_zero,
    UInt64.size]
  omega

end Variable

namespace Store

variable {store after : Store} {owner : Owner} {key : String}

/-- Storing a variable as it is counts nothing. -/
theorem overflowed_put (store : Store) (entry : Variable) :
    (store.put entry).overflowed = store.overflowed := by
  unfold put
  split <;> rfl

/-- Storing a variable as it is counts nothing, even if it drops another. -/
theorem overflowed_insert (store : Store) (entry : Variable) :
    (store.insert entry).overflowed = store.overflowed := by
  unfold insert
  split
  · exact store.overflowed_put entry
  · exact store.overflowed_put entry

/-- A restoration counts nothing. -/
theorem overflowed_restoreAll (store : Store) (entries : List Variable) :
    (store.restoreAll entries).overflowed = store.overflowed := by
  change (entries.foldl put store).overflowed = store.overflowed
  induction entries generalizing store with
  | nil => rfl
  | cons entry entries inductionHypothesis =>
      exact (inductionHypothesis _).trans (store.overflowed_put entry)

/-- A new variable is far from the largest version. -/
theorem overflowed_register (store : Store) (key : String)
    (initial : Option Instructions) (now : Timestamp) :
    (store.register key initial now).2.overflowed =
      (store.overflowed ||
        (store.view.respond now (.register key initial)).2.any
          Variable.isWrapped) := by
  cases found : store.find? key with
  | some stored =>
      have present := contains_of_find? found
      simp only [register, present, StoreView.respond, view_find?, found,
        if_true, List.any_nil, Bool.or_false]
  | none =>
      have absent : store.contains key = false := by
        rw [Bool.eq_false_iff, ne_eq, contains_iff_mem_keys]
        exact find?_eq_none_iff.mp found
      simp only [register, absent, StoreView.respond, view_find?, found,
        Bool.false_eq_true, if_false, overflowed_insert, List.any_cons,
        List.any_nil, Variable.isWrapped_touch]
      exact (Bool.or_false _).symm

/-- A commit overflows exactly if it writes the version zero. -/
theorem overflowed_commit (store : Store) (entry : Variable) (now : Timestamp) :
    (store.commit entry now).overflowed =
      (store.overflowed ||
        (store.view.respond now (.replace entry)).2.any
          Variable.isWrapped) := by
  cases found : store.find? entry.key <;>
    simp only [commit, counting, StoreView.respond, view_find?, found,
      overflowed_insert, List.any_cons, List.any_nil, Bool.or_false,
      Variable.isWrapped_touch]

/-- A change overflows exactly if it writes the version zero. -/
theorem overflowed_modify (store : Store) (key : String) (change : Change)
    (now : Timestamp) :
    (store.modify key change now).2.overflowed =
      (store.overflowed ||
        (store.view.change now key change).2.any Variable.isWrapped) := by
  cases found : store.find? key with
  | none =>
      simp only [modify, StoreView.change, view_find?, found, List.any_nil,
        Bool.or_false]
  | some entry =>
      cases applied : change.apply entry <;>
        simp only [modify, counting, StoreView.change, view_find?, found,
          applied, overflowed_put, List.any_cons, List.any_nil, Bool.or_false,
          Variable.isWrapped_touch]

/-- A request for a lock counts nothing, whether it is granted or queued. -/
theorem overflowed_of_requestLock
    (request : store.requestLock owner key = .granted after ∨
      store.requestLock owner key = .queued after) :
    after.overflowed = store.overflowed := by
  unfold requestLock at request
  split at request
  case isFalse => simp at request
  split at request
  · obtain rfl : _ = after := by simpa using request
    rfl
  · split at request <;>
      obtain rfl : _ = after := by simpa using request
    all_goals rfl

end Store

namespace World

variable {world : World σ} {id : StoreId}

/-- A store that is replaced by one that has counted writes. -/
theorem overflowed_setStore
    {other : StoreId}
    {after : Store}
    {entries : List Variable}
    (counted : after.overflowed =
      ((world.stores other).overflowed || entries.any Variable.isWrapped)) :
    ((world.setStore other after).stores id).overflowed =
      ((world.stores id).overflowed ||
        (if other = id then entries else []).any Variable.isWrapped) := by
  by_cases same : other = id
  · subst same
    rw [stores_setStore_self, if_pos rfl, counted]
  · rw [stores_setStore_of_ne world (Ne.symm same), if_neg same, List.any_nil,
      Bool.or_false]

/-- An action overflows exactly if it commits the version zero. -/
theorem overflowed_perform (world : World σ) (id : StoreId) (owner : Owner)
    (action : Action) :
    ((world.perform owner action).2.stores id).overflowed =
      ((world.stores id).overflowed ||
        (world.writes id action).any Variable.isWrapped) := by
  cases action with
  | register store key initial =>
      have counted :=
        (world.stores store).overflowed_register key initial world.now
      refine (overflowed_setStore counted).trans ?_
      by_cases same : store = id
      · subst same
        rfl
      · simp only [writes, same, if_false]
  | modify store key change =>
      have counted :=
        (world.stores store).overflowed_modify key change world.now
      refine (overflowed_setStore counted).trans ?_
      by_cases same : store = id
      · subst same
        rfl
      · simp only [writes, same, if_false]
  | commit store entry =>
      have counted := (world.stores store).overflowed_commit entry world.now
      refine (overflowed_setStore counted).trans ?_
      by_cases same : store = id
      · subst same
        rfl
      · simp only [writes, same, if_false]
  | unlock store key =>
      have kept : ((world.stores store).releaseLock owner key).overflowed =
          ((world.stores store).overflowed ||
            ([] : List Variable).any Variable.isWrapped) :=
        (Bool.or_false _).symm
      refine (overflowed_setStore kept).trans ?_
      rw [ite_self]
      rfl
  | program optimizer =>
      change ((world.useProgram optimizer).2.stores id).overflowed = _
      rw [stores_useProgram]
      exact (Bool.or_false _).symm
  | _ => exact (Bool.or_false _).symm

end World

/-- A step of an activity overflows exactly if it commits the version zero. -/
theorem Progress.overflowed_step
    {α : Type}
    (host : ModelHost σ)
    (owner : Owner)
    (id : StoreId)
    (progress : Progress α)
    (world : World σ) :
    ((progress.step host owner world).2.stores id).overflowed =
      ((world.stores id).overflowed ||
        (progress.writes world id).any Variable.isWrapped) := by
  have locked {store : StoreId} {key : String} {after : Store}
      (request : (world.stores store).requestLock owner key = .granted after ∨
        (world.stores store).requestLock owner key = .queued after) :
      ((world.setStore store after).stores id).overflowed =
        ((world.stores id).overflowed || false) := by
    rw [Bool.or_false]
    by_cases same : store = id
    · subst same
      rw [World.stores_setStore_self]
      exact Store.overflowed_of_requestLock request
    · rw [World.stores_setStore_of_ne world (Ne.symm same)]
  have goes := progress.goesOn_step host owner world
  generalize progress.step host owner world = next at goes ⊢
  cases goes with
  | acted action resume => exact world.overflowed_perform id owner action
  | granted after request => exact locked (.inl request)
  | queued after request => exact locked (.inr request)
  | _ => exact (Bool.or_false _).symm

/-- Whether a turn restores a snapshot. -/
def Turn.isRestoration : Turn -> Bool
  | .restore _ => true
  | _ => false

namespace Pool

variable (setting : Setting σ) (pool : Pool σ)

/-- Whether a turn overflows: it commits the version zero. -/
def overflows (turn : Turn) : Bool :=
  !turn.isRestoration && (pool.writes setting turn).any Variable.isWrapped

/-- The store has overflowed after a turn if it had before or the
turn overflows. -/
theorem overflowed_take (turn : Turn) :
    ((pool.take setting turn).world.stores setting.store).overflowed =
      ((pool.world.stores setting.store).overflowed ||
        pool.overflows setting turn) := by
  have quiet : (pool.world.stores setting.store).overflowed =
      ((pool.world.stores setting.store).overflowed || false) :=
    (Bool.or_false _).symm
  have taken := takes_take setting pool turn
  generalize pool.take setting turn = after at taken ⊢
  cases taken with
  | moved moves =>
      cases moves with
      | proceeded operation since replies progress found =>
          simp only [overflows, Turn.isRestoration, writes, found,
            Bool.not_false, Bool.true_and]
          exact progress.overflowed_step setting.host _ setting.store pool.world
      | idle nothing =>
          simp only [overflows, writes, nothing]
          exact quiet
      | _ => exact quiet
  | registered key initial =>
      rw [withStore, World.stores_setStore_self]
      exact Store.overflowed_register _ key initial pool.world.now
  | replaced entry =>
      rw [withStore, World.stores_setStore_self]
      exact Store.overflowed_commit _ entry pool.world.now
  | restored entries read =>
      rw [withStore, World.stores_setStore_self, Store.overflowed_restoreAll]
      exact quiet
  | refused reason read => exact quiet

/-- After several turns the store has overflowed if it had before or one of them
overflows where it is taken. -/
theorem overflowed_serve_iff (turns : List Turn) :
    ((pool.serve setting turns).world.stores setting.store).overflowed = true ↔
      (pool.world.stores setting.store).overflowed = true ∨
        ∃ earlier turn later, turns = earlier ++ turn :: later ∧
          (pool.serve setting earlier).overflows setting turn = true := by
  induction turns generalizing pool with
  | nil => simp [serve]
  | cons turn turns inductionHypothesis =>
      change ((serve setting turns (pool.take setting turn)).world.stores
        setting.store).overflowed = true ↔ _
      rw [inductionHypothesis, overflowed_take, Bool.or_eq_true, or_assoc]
      refine or_congr_right ⟨?_, ?_⟩
      · rintro (overflows | ⟨earlier, last, later, rfl, overflows⟩)
        · exact ⟨[], turn, turns, rfl, overflows⟩
        · exact ⟨turn :: earlier, last, later, rfl, overflows⟩
      · rintro ⟨earlier, last, later, split, overflows⟩
        cases earlier with
        | nil =>
            obtain ⟨rfl, rfl⟩ := List.cons.inj split
            exact .inl overflows
        | cons first earlier =>
            obtain ⟨rfl, rfl⟩ := List.cons.inj split
            exact .inr ⟨earlier, last, later, rfl, overflows⟩

end Pool
end PromptTuning
