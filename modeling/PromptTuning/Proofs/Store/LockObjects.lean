import Mathlib.Data.List.Nodup
import PromptTuning.Proofs.Store.Holding
import PromptTuning.Store.LockObjects

/-!
# One lock object for each key

Anything may happen between any two steps on lock objects, and pruning may go by
keys that are no longer those that are stored. Still there is one object for
each key at a time: whoever asks for a lock keeps its entry in the table from
being forgotten, so that the next one finds the same object.
-/

namespace PromptTuning

namespace Lock

variable {lock : Lock} {owner other : Owner}

/-- A lock is in use if it has users. -/
theorem inUse_iff : lock.inUse = true ↔ lock.users ≠ [] := by
  obtain ⟨key, holder, waiters⟩ := lock
  cases holder <;> simp [inUse, users]

@[simp] theorem key_join : (lock.join owner).key = lock.key := by
  unfold join
  split <;> rfl

/-- Who takes a lock or stands in its line is the last of its users. -/
theorem users_join : (lock.join owner).users = lock.users ++ [owner] := by
  unfold join
  split
  · simp [users]
  · rename_i unused
    have nobody : lock.holder = none ∧ lock.waiters = [] := by
      simpa [inUse] using unused
    simp [users, nobody]

/-- A lock that is handed over is left to those who wait for it. -/
theorem users_handOver (lock : Lock) : lock.handOver.users = lock.waiters := by
  unfold handOver
  split
  · rename_i alone
    simp [users, alone]
  · rename_i next rest line
    simp [users, line]

/-- Who lets go of a lock is not among its users any more, and all
others are. -/
theorem users_without :
    (lock.without owner).users = lock.users.filter (· != owner) := by
  unfold without
  by_cases held : lock.holder = some owner
  · rw [if_pos held, users_handOver]
    simp [users, held]
  · rw [if_neg held]
    cases holder : lock.holder with
    | none => simp [users, holder]
    | some held' =>
        have different : held' ≠ owner := fun same => held (same ▸ holder)
        simp [users, holder, different]

/-- A lock looks the same without somebody who does not use it. -/
theorem without_of_not_mem (absent : owner ∉ lock.users) :
    lock.without owner = lock := by
  have line : lock.waiters.filter (· != owner) = lock.waiters := by
    rw [List.filter_eq_self]
    intro other awaits
    simp only [bne_iff_ne, ne_eq]
    rintro rfl
    exact absent (List.mem_append_right _ awaits)
  have unheld : lock.holder ≠ some owner := fun held =>
    absent (List.mem_append_left _ (by simp [held]))
  unfold without
  rw [line, if_neg unheld]

end Lock

namespace LockRequest

/-- Standing in line changes neither whose request it is nor its key. -/
theorem name_inLine (named : Owner × String) (request : LockRequest) :
    (request.inLine named).name = request.name := by
  unfold inLine
  split <;> rfl

/-- Standing in line changes nothing about the entry that a request goes by. -/
theorem entry_inLine (named : Owner × String) (request : LockRequest) :
    (request.inLine named).entry = request.entry := by
  unfold inLine
  split <;> rfl

end LockRequest

namespace LockObjects

/-- Everything refers to the object that the table has for its key. -/
structure Referred (objects : LockObjects) : Prop where
  distinct : (objects.table.map (·.key)).Nodup
  named : ∀ entry ∈ objects.table, (objects.memory entry.object).key = entry.key
  bounded : ∀ entry ∈ objects.table, entry.object < objects.made
  listed : ∀ request ∈ objects.requests, request.entry ∈ objects.table
  single : (objects.requests.map LockRequest.name).Nodup
  used : ∀ index owner, owner ∈ (objects.memory index).users ↔
    ∃ request ∈ objects.requests, request.owner = owner ∧
      request.object = index ∧
      request.joined = true

/-- The users of an object that is replaced are those of the new one. -/
theorem mem_setObject_users
    {objects : LockObjects}
    {index other : Nat}
    {lock : Lock}
    {owner : Owner} :
    owner ∈ ((objects.setObject index lock).memory other).users ↔
      (other = index ∧ owner ∈ lock.users) ∨
        (other ≠ index ∧ owner ∈ (objects.memory other).users) := by
  unfold setObject
  by_cases same : other = index <;> simp [same]

variable {objects : LockObjects} {owner : Owner} {key : String}

/-- Objects keep their keys when one is replaced by another one of its key. -/
theorem key_setObject {index : Nat} {lock : Lock}
    (same : lock.key = (objects.memory index).key) (other : Nat) :
    ((objects.setObject index lock).memory other).key =
      (objects.memory other).key := by
  unfold setObject
  by_cases own : other = index <;> simp [own, same]

/-- The request that is found is one of somebody for the key. -/
theorem request?_eq_some {request : LockRequest}
    (found : objects.request? owner key = some request) :
    request ∈ objects.requests ∧ request.owner = owner ∧ request.key = key := by
  have named : request.name = (owner, key) := by
    simpa using List.find?_some found
  exact ⟨List.mem_of_find?_eq_some found, (Prod.mk.inj named).1,
    (Prod.mk.inj named).2⟩

/-- There is no request of somebody for a key if none has that name. -/
theorem request?_eq_none_iff :
    objects.request? owner key = none ↔
    (owner, key) ∉ objects.requests.map LockRequest.name := by
  simp [request?, List.find?_eq_none]

/-- The entry that is found for a key is in the table and has that key. -/
theorem key_of_find? {entry : LockEntry}
    (found : objects.find? key = some entry) :
    entry ∈ objects.table ∧ entry.key = key :=
  ⟨List.mem_of_find?_eq_some found, by simpa using List.find?_some found⟩

/-- No entry is found for a key that the table does not list. -/
theorem find?_eq_none_iff :
    objects.find? key = none ↔ key ∉ objects.table.map (·.key) := by
  simp [find?, List.find?_eq_none]

namespace Referred

/-- At first nothing refers to anything. -/
theorem empty : LockObjects.empty.Referred where
  distinct := List.nodup_nil
  named := List.forall_mem_nil _
  bounded := List.forall_mem_nil _
  listed := List.forall_mem_nil _
  single := List.nodup_nil
  used index owner := by simp [LockObjects.empty, Lock.users]

/-- There is one request of somebody for a key. -/
theorem eq_of_name (referred : objects.Referred) {first second : LockRequest}
    (one : first ∈ objects.requests) (other : second ∈ objects.requests)
    (same : first.name = second.name) : first = second :=
  List.inj_on_of_nodup_map referred.single one other same

/-- Requests for one key refer to one object. -/
theorem object_eq (referred : objects.Referred) {first second : LockRequest}
    (one : first ∈ objects.requests) (other : second ∈ objects.requests)
    (same : first.key = second.key) : first.object = second.object :=
  congrArg LockEntry.object (List.inj_on_of_nodup_map referred.distinct
    (referred.listed first one) (referred.listed second other) same)

/-- Requests that refer to one object are for one key. -/
theorem key_eq (referred : objects.Referred) {first second : LockRequest}
    (one : first ∈ objects.requests) (other : second ∈ objects.requests)
    (same : first.object = second.object) : first.key = second.key := by
  have named := referred.named first.entry (referred.listed first one)
  have namedSecond := referred.named second.entry (referred.listed second other)
  change (objects.memory first.object).key = first.key at named
  change (objects.memory second.object).key = second.key at namedSecond
  rw [← named, ← namedSecond, same]

/-- A new object is nobody's, and its key was not in the table. -/
theorem make (referred : objects.Referred) (absent : objects.find? key = none) :
    (objects.make key).Referred := by
  have older :
      ∀ entry ∈ objects.table,
        entry.object ≠ objects.made := fun entry listed same =>
    Nat.lt_irrefl _ (same ▸ referred.bounded entry listed)
  refine ⟨?_, ?_, ?_, ?_, referred.single, ?_⟩
  · change (List.map _ (objects.table ++ [_])).Nodup
    rw [List.map_append, List.map_singleton, ← List.concat_eq_append]
    exact referred.distinct.concat (find?_eq_none_iff.mp absent)
  · intro entry listed
    obtain before | new := List.mem_append.mp listed
    · change (if entry.object = objects.made then _ else _ : Lock).key = _
      rw [if_neg (older entry before)]
      exact referred.named entry before
    · obtain rfl := List.mem_singleton.mp new
      simp [LockObjects.make, setObject]
  · intro entry listed
    obtain before | new := List.mem_append.mp listed
    · exact Nat.lt_succ_of_lt (referred.bounded entry before)
    · obtain rfl := List.mem_singleton.mp new
      exact Nat.lt_succ_self _
  · exact fun request listed =>
      List.mem_append_left _ (referred.listed request listed)
  · intro index owner
    change owner ∈ ((objects.setObject _ _).memory index).users ↔ _
    rw [mem_setObject_users, referred.used]
    constructor
    · rintro (⟨_, new⟩ | ⟨_, old⟩)
      · simp [Lock.users] at new
      · exact old
    · rintro ⟨request, listed, own, rfl, joined⟩
      exact .inr
        ⟨older _ (referred.listed request listed), request, listed,
          own, rfl, joined⟩

/-- A request for an entry of the table that is not joined yet. -/
theorem ask
    (referred : objects.Referred)
    {index : Nat}
    (fresh : objects.request? owner key = none)
    (listed : ⟨key, index⟩ ∈ objects.table) :
    (objects.ask owner key index).Referred := by
  refine ⟨referred.distinct, referred.named, referred.bounded, ?_, ?_, ?_⟩
  · intro request among
    obtain before | new := List.mem_append.mp among
    · exact referred.listed request before
    · obtain rfl := List.mem_singleton.mp new
      exact listed
  · change (List.map _ (objects.requests ++ [_])).Nodup
    rw [List.map_append, List.map_singleton, ← List.concat_eq_append]
    exact referred.single.concat (request?_eq_none_iff.mp fresh)
  · intro other user
    rw [LockObjects.ask, referred.used]
    simp

/-- Everything refers to the table's objects after one more has been
referred to. -/
theorem refer (referred : objects.Referred) (owner : Owner) (key : String) :
    (objects.refer owner key).Referred := by
  unfold LockObjects.refer
  cases fresh : objects.request? owner key with
  | some request => exact referred
  | none =>
      simp only [Option.isSome_none, Bool.false_eq_true, if_false]
      cases found : objects.find? key with
      | some entry =>
          obtain ⟨listed, rfl⟩ := key_of_find? found
          exact referred.ask fresh listed
      | none =>
          exact (referred.make found).ask fresh
            (List.mem_append_right _ (List.mem_singleton_self _))

/-- Everything refers to the table's objects after somebody has taken one or
stood in its line. -/
theorem join (referred : objects.Referred) (owner : Owner) (key : String) :
    (objects.join owner key).Referred := by
  unfold LockObjects.join
  split
  case h_2 => exact referred
  case h_1 asker name index found =>
    obtain ⟨among, rfl, rfl⟩ := request?_eq_some found
    refine ⟨referred.distinct, ?_, referred.bounded, ?_, ?_, ?_⟩
    · intro entry listed
      exact (key_setObject Lock.key_join entry.object).trans
        (referred.named entry listed)
    · intro request listed
      obtain ⟨before, old, rfl⟩ := List.mem_map.mp listed
      rw [before.entry_inLine]
      exact referred.listed before old
    · rw [List.map_map]
      exact (List.map_congr_left fun request _ =>
        LockRequest.name_inLine _ request) ▸
        referred.single
    · intro other user
      -- The one request that is marked is that of the owner who joins.
      have marked : (∃ request ∈ objects.requests.map (·.inLine (asker, name)),
            request.owner = user ∧ request.object = other ∧
            request.joined = true) ↔
          (∃ request ∈ objects.requests, request.owner = user ∧
            request.object = other ∧
            request.joined = true) ∨ user = asker ∧ other = index := by
        constructor
        · rintro ⟨_, listed, own, at_, joined⟩
          obtain ⟨before, old, rfl⟩ := List.mem_map.mp listed
          by_cases same : before.name = (asker, name)
          · obtain rfl := referred.eq_of_name old among same
            rw [LockRequest.inLine, if_pos same] at own at_
            exact .inr ⟨own.symm, at_.symm⟩
          · rw [LockRequest.inLine, if_neg same] at own at_ joined
            exact .inl ⟨before, old, own, at_, joined⟩
        · rintro (⟨before, old, rfl, rfl, joined⟩ | ⟨rfl, rfl⟩)
          · refine ⟨_, List.mem_map_of_mem old, ?_⟩
            unfold LockRequest.inLine
            split <;> exact ⟨rfl, rfl, by simp [joined]⟩
          · exact ⟨_, List.mem_map_of_mem among,
              by simp [LockRequest.inLine, LockRequest.name]⟩
      change user ∈ ((objects.setObject _ _).memory other).users ↔ _
      rw [mem_setObject_users, marked, Lock.users_join, List.mem_append,
        List.mem_singleton, referred.used, referred.used]
      by_cases own : other = index <;> simp [own]

/-- Everything refers to the table's objects after somebody has
let go of one. -/
theorem leave (referred : objects.Referred) (owner : Owner) (key : String) :
    (objects.leave owner key).Referred := by
  unfold LockObjects.leave
  cases found : objects.request? owner key with
  | none => exact referred
  | some request =>
      obtain ⟨among, rfl, rfl⟩ := request?_eq_some found
      refine ⟨referred.distinct, ?_, referred.bounded, ?_, ?_, ?_⟩
      · intro entry listed
        exact (key_setObject (Lock.key_without _ _) entry.object).trans
          (referred.named entry listed)
      · exact fun other listed =>
          referred.listed other (List.mem_filter.mp listed).1
      · exact (List.filter_sublist.map _).nodup referred.single
      · intro other user
        change user ∈ ((objects.setObject _ _).memory other).users ↔ _
        rw [mem_setObject_users, Lock.users_without, List.mem_filter,
          referred.used, referred.used]
        constructor
        · rintro (⟨rfl, ⟨before, old, rfl, same, joined⟩, different⟩ |
            ⟨elsewhere, before, old, rfl, rfl, joined⟩)
          · refine ⟨before, List.mem_filter.mpr ⟨old, ?_⟩, rfl, same, joined⟩
            simp only [bne_iff_ne, ne_eq] at different ⊢
            exact fun named => different (Prod.mk.inj named).1
          · refine ⟨before, List.mem_filter.mpr ⟨old, ?_⟩, rfl, rfl, joined⟩
            simp only [bne_iff_ne, ne_eq]
            exact fun named =>
              elsewhere (congrArg _ (referred.eq_of_name old among named))
        · rintro ⟨before, listed, rfl, rfl, joined⟩
          obtain ⟨old, different⟩ := List.mem_filter.mp listed
          simp only [bne_iff_ne, ne_eq] at different ⊢
          by_cases same : before.object = request.object
          · refine .inl
              ⟨same, ⟨before, old, rfl, same, joined⟩, fun own => different ?_⟩
            exact Prod.ext own (referred.key_eq old among same)
          · exact .inr ⟨same, before, old, rfl, rfl, joined⟩

/-- Whoever asks for a lock refers to its object beside the table. -/
theorem one_lt_strongCount (referred : objects.Referred) {request : LockRequest}
    (listed : request ∈ objects.requests) :
    1 < objects.strongCount request.object := by
  have entries : 0 < objects.table.countP (·.object == request.object) :=
    List.countP_pos_iff.mpr
      ⟨request.entry, referred.listed request listed,
        by simp [LockRequest.entry]⟩
  have requests : 0 < objects.requests.countP (·.object == request.object) :=
    List.countP_pos_iff.mpr ⟨request, listed, by simp⟩
  unfold strongCount
  omega

/-- Everything refers to the table's objects after those that nobody uses
are forgotten. -/
theorem prune (referred : objects.Referred) (stored : List String) :
    (objects.prune stored).Referred := by
  have kept : (objects.prune stored).table.Sublist objects.table :=
    List.filter_sublist
  refine ⟨(kept.map _).nodup referred.distinct, fun entry listed => ?_,
    fun entry listed => ?_, ?_,
    referred.single, referred.used⟩
  · exact referred.named entry (kept.subset listed)
  · exact referred.bounded entry (kept.subset listed)
  · intro request listed
    have counted : 1 < objects.strongCount request.entry.object :=
      referred.one_lt_strongCount listed
    exact List.mem_filter.mpr
      ⟨referred.listed request listed, by simp [counted]⟩

/-- Every step keeps all references to the table's objects. -/
theorem step (referred : objects.Referred) (step : LockStep) :
    (objects.step step).Referred := by
  cases step with
  | refer owner key => exact referred.refer owner key
  | join owner key => exact referred.join owner key
  | leave owner key => exact referred.leave owner key
  | prune stored => exact referred.prune stored

/-- Any steps keep all references to the table's objects. -/
theorem run (referred : objects.Referred) (steps : List LockStep) :
    (objects.run steps).Referred := by
  induction steps generalizing objects with
  | nil => exact referred
  | cons step steps inductionHypothesis =>
      exact inductionHypothesis (referred.step step)

/-- A key has one guard at most, whichever objects there are. -/
theorem length_guards_le (referred : objects.Referred) (key : String) :
    (objects.guards key).length ≤ 1 := by
  have same :
      ∀ first ∈ objects.guards key, ∀ second ∈ objects.guards key,
        first = second := by
    intro first one second other
    simp only [guards, List.mem_filter, Bool.and_eq_true,
      beq_iff_eq] at one other
    obtain ⟨listed, rfl, held⟩ := one
    obtain ⟨listedSecond, named, heldSecond⟩ := other
    rw [referred.object_eq listedSecond listed named, held] at heldSecond
    exact referred.eq_of_name listed listedSecond
      (Prod.ext (Option.some.inj heldSecond) named.symm)
  have distinct : (objects.guards key).Nodup :=
    List.filter_sublist.nodup referred.single.of_map
  match guards : objects.guards key with
  | [] => exact Nat.zero_le 1
  | [_] => exact Nat.le_refl 1
  | first :: second :: rest =>
      rw [guards] at same distinct
      have equal := same first List.mem_cons_self second
        (List.mem_cons_of_mem _ List.mem_cons_self)
      simp [equal] at distinct

end Referred

end LockObjects
end PromptTuning
