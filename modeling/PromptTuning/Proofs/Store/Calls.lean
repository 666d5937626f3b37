import PromptTuning.Proofs.Store.Holding
import PromptTuning.Proofs.Store.Tables

/-!
# Calls of a store

Six operations write to a store: variables are registered, committed whole,
restored from a snapshot, or one is changed under its lock. What an operation
answers and what it writes depends on what the store shows alone. A store that
runs and the two tables answer every sequence of calls alike, and order and
contents stay in step throughout.
-/

namespace PromptTuning

namespace StoreView

/-- A change of the variable under a key: what is answered and what
is written. -/
def change (view : StoreView) (now : Timestamp) (key : String)
    (change : Change) :
    Except StoreError Variable × List Variable :=
  match view.find? key with
  | none => (.error (.notFound key), [])
  | some entry =>
      match change.apply entry with
      | .error reason => (.error reason, [])
      | .ok changed => (.ok (changed.touch now), [changed.touch now])

/-- What a call is answered and what it writes. -/
def respond (view : StoreView) (now : Timestamp) :
    (call : StoreCall) -> call.Answer × List Variable
  | .register key initial =>
      match view.find? key with
      | some _ => (false, [])
      | none =>
          (true,
            [{ Variable.create key now with instructions := initial }.touch
              now])
  | .append key prediction =>
      (view.change now key (.append prediction)).map
        (·.map fun entry => entry.predictions.length - 1) id
  | .attach key index reward =>
      if isValidReward reward then
        (view.change now key (.attach index reward)).map (·.map fun _ => ()) id
      else (.error (.invalidReward reward), [])
  | .update key content => view.change now key (.update content)
  | .replace entry =>
      match view.find? entry.key with
      | some stored =>
          ((), [{ entry with version := stored.version }.touch now])
      | none => ((), [entry.touch now])
  | .restore document =>
      match Store.readSnapshot document with
      | .error reason => (.error reason, [])
      | .ok entries => (.ok entries.length, entries)

variable {view : StoreView}

/-- A change writes nothing but the variable under its key. -/
theorem change_cases (inStep : view.Consistent) (now : Timestamp) (key : String)
    (change : Change) :
    (∃ reason, view.change now key change = (.error reason, [])) ∨
      ∃ stored written, view.find? key = some stored ∧ written.key = key ∧
        view.change now key change = (.ok written, [written]) := by
  cases found : view.find? key with
  | none => exact .inl ⟨.notFound key, by simp [StoreView.change, found]⟩
  | some stored =>
      cases applied : change.apply stored with
      | error reason =>
          exact .inl ⟨reason, by simp [StoreView.change, found, applied]⟩
      | ok changed =>
          have named := (Change.key_of_apply applied).trans
            (inStep.named key stored found)
          exact .inr ⟨stored, changed.touch now, rfl, named,
            by simp [StoreView.change, found, applied]⟩

/-- A call about one key writes at most once, and under that key. -/
theorem writes_of_key? (inStep : view.Consistent) (now : Timestamp)
    {call : StoreCall} {key : String} (about : call.key? = some key) :
    (view.respond now call).2 = [] ∨
      ∃ entry, (view.respond now call).2 = [entry] ∧ entry.key = key := by
  have changed (change : Change) : (view.change now key change).2 = [] ∨
      ∃ entry, (view.change now key change).2 = [entry] ∧ entry.key = key := by
    obtain ⟨reason, refused⟩ | ⟨stored, written, _, named, answered⟩ :=
      change_cases inStep now key change
    · exact .inl (by rw [refused])
    · exact .inr ⟨written, by rw [answered], named⟩
  cases call with
  | register name initial =>
      obtain rfl := Option.some.inj about
      unfold respond
      dsimp only
      split
      · exact .inl rfl
      · exact .inr ⟨_, rfl, rfl⟩
  | append name prediction =>
      obtain rfl := Option.some.inj about
      exact changed (.append prediction)
  | attach name index reward =>
      obtain rfl := Option.some.inj about
      unfold respond
      dsimp only
      split
      · exact changed (.attach index reward)
      · exact .inl rfl
  | update name content =>
      obtain rfl := Option.some.inj about
      exact changed (.update content)
  | replace entry =>
      obtain rfl := Option.some.inj about
      unfold respond
      dsimp only
      split <;> exact .inr ⟨_, rfl, rfl⟩
  | restore document => contradiction

end StoreView

namespace Tables

variable {tables : Tables}

/-- A change in its place is a write. -/
theorem modify_eq (inStep : tables.view.Consistent) (key : String)
    (change : Change) (now : Timestamp) :
    tables.modify key change now =
      (tables.view.change now key change).map id (List.foldl write tables) := by
  cases found : tables.contents[key]? with
  | none => simp [modify, StoreView.change, found]
  | some entry =>
      cases applied : change.apply entry with
      | error reason => simp [modify, StoreView.change, found, applied]
      | ok changed =>
          have named : changed.key = key :=
            (Change.key_of_apply applied).trans (inStep.named key entry found)
          subst named
          have written : tables.write (changed.touch now) = { tables with
              contents :=
                tables.contents.insert changed.key (changed.touch now) } := by
            simp [write, Variable.touch, found]
          simp [modify, StoreView.change, found, applied, written]

/-- A restored variable is written as it is. -/
theorem insert_restore (entry : Variable) (now : Timestamp) :
    tables.insert .restore entry now = (true, tables.write entry) := by
  simp [insert, Mode.admit]

/-- The tables answer a call as what they show tells, and write
what it tells. -/
theorem answer_eq (inStep : tables.view.Consistent) (now : Timestamp)
    (call : StoreCall) :
    tables.answer now call =
      (tables.view.respond now call).map id (List.foldl write tables) := by
  cases call with
  | register key initial =>
      cases found : tables.contents[key]? <;>
        simp [answer, StoreView.respond, insert, Mode.admit, Variable.create,
          found]
  | append key prediction =>
      simp [answer, modify_eq inStep, StoreView.respond, Prod.map_map]
  | attach key index reward =>
      cases valid : isValidReward reward <;>
        simp [answer, modify_eq inStep, StoreView.respond, valid, Prod.map_map]
  | update key content => exact modify_eq inStep key (.update content) now
  | replace entry =>
      cases found : tables.contents[entry.key]? <;>
        simp [answer, StoreView.respond, insert, Mode.admit, found]
  | restore document =>
      cases read : Store.readSnapshot document <;>
        simp [answer, restore, StoreView.respond, insert_restore, read]

end Tables

namespace Store

variable {store after : Store} {owner : Owner} {key : String}

/-- An insertion writes its variable. -/
theorem written_insert (inStep : store.view.Consistent) (entry : Variable) :
    StoreView.Written store.view [entry] (store.insert entry).view := by
  rw [view_insert]
  exact .single (wrote_put inStep entry)

/-- A registration answers and writes as every store shows it. -/
theorem written_register (inStep : store.view.Consistent) (key : String)
    (initial : Option Instructions) (now : Timestamp) :
    (store.register key initial now).1 =
      (store.view.respond now (.register key initial)).1 ∧
      StoreView.Written store.view
        (store.view.respond now (.register key initial)).2
        (store.register key initial now).2.view := by
  cases found : store.find? key with
  | some stored =>
      have present := contains_iff_find?.mpr ⟨stored, found⟩
      simp only [register, present, StoreView.respond, view_find?, found,
        if_true]
      exact ⟨trivial, .none _⟩
  | none =>
      have absent : store.contains key = false := by
        rw [Bool.eq_false_iff, ne_eq, contains_iff_mem_keys]
        exact find?_eq_none_iff.mp found
      simp only [register, absent, StoreView.respond, view_find?, found]
      exact ⟨rfl, written_insert inStep _⟩

/-- A commit writes as every store shows it. -/
theorem written_commit (inStep : store.view.Consistent) (entry : Variable)
    (now : Timestamp) :
    StoreView.Written store.view (store.view.respond now (.replace entry)).2
      (store.commit entry now).view := by
  cases found : store.find? entry.key <;>
    simp only [commit, StoreView.respond, view_find?, found] <;>
    exact written_insert inStep _

/-- A change is answered and written as the store shows it. -/
theorem written_modify (inStep : store.view.Consistent) (key : String)
    (change : Change) (now : Timestamp) :
    (store.modify key change now).1 = (store.view.change now key change).1 ∧
      StoreView.Written store.view (store.view.change now key change).2
        (store.modify key change now).2.view := by
  cases found : store.find? key with
  | none =>
      simp only [modify, StoreView.change, view_find?, found]
      exact ⟨trivial, .none _⟩
  | some entry =>
      cases applied : change.apply entry with
      | error reason =>
          simp only [modify, StoreView.change, view_find?, found, applied]
          exact ⟨trivial, .none _⟩
      | ok changed =>
          simp only [modify, StoreView.change, view_find?, found, applied]
          exact ⟨trivial, .single (wrote_put inStep (changed.touch now))⟩

/-- A lock that is granted changes nothing that a store shows. -/
theorem view_of_granted
    (granted : store.requestLock owner key = .granted after) :
    after.view = store.view := by
  obtain rfl | ⟨lock, _, rfl⟩ := granted_cases granted <;> rfl

end Store

namespace World

variable {σ : Type}

@[simp] theorem now_setStore (world : World σ) (id : StoreId) (store : Store) :
    (world.setStore id store).now = world.now := rfl

/-- Only the last store that replaces one matters. -/
theorem setStore_setStore (world : World σ) (id : StoreId)
    (first second : Store) :
    (world.setStore id first).setStore id second =
      world.setStore id second := by
  unfold setStore
  congr 1
  funext other
  by_cases same : other = id <;> simp [same]

/-- Replacing a store by itself changes nothing. -/
theorem setStore_self (world : World σ) (id : StoreId) :
    world.setStore id (world.stores id) = world := by
  unfold setStore
  congr 1
  funext other
  by_cases same : other = id <;> simp [same]

end World

namespace StoreCall

variable {σ : Type} {world : World σ} {id : StoreId}

/-- A call is answered and has written, and nobody holds or awaits a lock. -/
def Answered {α : Type} (world : World σ) (id : StoreId)
    (response : α × List Variable)
    (result : Option α × World σ) : Prop :=
  ∃ after, result = (some response.1, world.setStore id after) ∧
    StoreView.Written (world.stores id).view response.2 after.view ∧
    after.Unlocked

section Answered

variable (host : ModelHost σ) (owner : Owner) (limit : Nat)

/-- A call that writes nothing is answered where it stands. -/
theorem answered_nothing {α : Type} (unlocked : (world.stores id).Unlocked)
    (answer : α) :
    Answered world id (answer, []) (some answer, world) :=
  ⟨world.stores id, by rw [World.setStore_self], .none _, unlocked⟩

/-- A change under a free lock, whatever is made of its outcome. -/
theorem answered_modify
    {α : Type}
    (inStep : (world.stores id).view.Consistent)
    (unlocked : (world.stores id).Unlocked)
    (key : String)
    (change : Change)
    (shape : Except StoreError Variable -> α) :
    Answered world id
      (((world.stores id).view.change world.now key change).map
        shape fun x => x)
      (((Activity.modify id key change).bind fun outcome =>
        .done (shape outcome)).run
        host owner limit world) := by
  cases present : (world.stores id).contains key with
  | false =>
      have missing : (world.stores id).find? key = none := by
        rw [Store.find?_eq_none_iff, ← Store.contains_iff_mem_keys, present]
        exact Bool.false_ne_true
      have refused :
          (world.stores id).requestLock owner key =
            .refused (.notFound key) := by
        rw [Store.requestLock, present, if_neg Bool.false_ne_true]
      simpa [Activity.modify, Activity.withLock, Activity.bind, Activity.run,
        refused, StoreView.change, missing] using
        answered_nothing unlocked (shape (.error (.notFound key)))
  | true =>
      have free : (world.stores id).IsFree key := fun lock found =>
        unlocked lock (List.mem_of_find?_eq_some found)
      obtain ⟨locked, granted, _⟩ :=
        Store.requestLock_of_isFree present free owner
      have shown := Store.view_of_granted granted
      obtain ⟨answered, written⟩ :=
        Store.written_modify (shown ▸ inStep) key change world.now
      rw [shown] at answered written
      refine ⟨(locked.modify key change world.now).2.releaseLock owner key, ?_,
        ?_, ?_⟩
      · simp only [Activity.modify, Activity.withLock, Activity.bind,
          Activity.run, granted]
        change Activity.run host owner limit
          (.act (.modify id key change) fun outcome =>
            .act (.unlock id key) fun _ =>
              .done (shape outcome)) (world.setStore id locked) = _
        simp [Activity.run, World.perform, World.setStore_setStore, answered]
      · exact written
      · exact Store.unlocked_releaseLock unlocked granted
          (Store.locks_modify locked key change _)

/-- Every call is answered as the store shows and writes what that tells. -/
theorem answered_run
    (inStep : (world.stores id).view.Consistent)
    (unlocked : (world.stores id).Unlocked)
    (call : StoreCall) :
    Answered world id ((world.stores id).view.respond world.now call)
      (call.run host owner limit id world) := by
  cases call with
  | register key initial =>
      obtain ⟨created, written⟩ :=
        Store.written_register inStep key initial world.now
      refine ⟨_, ?_, written,
        unlocked.of_subset (Store.locks_register _ key initial world.now)⟩
      rw [← created]
      rfl
  | append key prediction =>
      exact answered_modify host owner limit inStep unlocked key
        (.append prediction) _
  | attach key index reward =>
      cases valid : isValidReward reward with
      | true =>
          simp only [run, Activity.attach, StoreView.respond, valid, if_true]
          exact answered_modify host owner limit inStep unlocked key
            (.attach index reward) _
      | false =>
          simp only [run, Activity.attach, StoreView.respond, valid]
          exact answered_nothing unlocked _
  | update key content =>
      have body : Activity.update id key content =
          (Activity.modify id key (.update content)).bind fun outcome =>
            .done outcome :=
        (Activity.bind_pure _).symm
      rw [run, body]
      exact answered_modify host owner limit inStep unlocked key
        (.update content) fun outcome => outcome
  | replace entry =>
      exact ⟨_, rfl, Store.written_commit inStep entry world.now,
        unlocked.of_subset (Store.locks_commit _ entry world.now)⟩
  | restore document =>
      cases read : Store.readSnapshot document with
      | error reason =>
          simp only [run, Store.restore, StoreView.respond, read]
          exact answered_nothing unlocked _
      | ok entries =>
          simp only [run, Store.restore, StoreView.respond, read]
          exact ⟨_, rfl, Store.written_putAll inStep entries,
            unlocked.of_subset (Store.locks_restoreAll _ entries)⟩

end Answered

/-- A store of the world shows what tables of a capacity show, whose order and
contents are in step, and nobody holds or awaits a lock of it. -/
structure InStep (world : World σ) (id : StoreId) (capacity : Nat)
    (tables : Tables) : Prop where
  shown : (world.stores id).view = tables.view
  bound : tables.view.capacity = max capacity 1
  consistent : tables.view.Consistent
  unlocked : (world.stores id).Unlocked

namespace InStep

variable {capacity : Nat} {tables : Tables}

/-- An empty store and empty tables are in step. -/
theorem withCapacity (world : World σ) (id : StoreId) (capacity : Nat) :
    InStep (world.setStore id (.withCapacity capacity)) id capacity
      (.withCapacity capacity) := by
  have shown :
      (Store.withCapacity capacity).view =
        (Tables.withCapacity capacity).view := by
    refine StoreView.ext rfl ?_ rfl ?_
    · simp [Store.withCapacity, Tables.withCapacity]
    · funext key
      simp [Store.withCapacity, Tables.withCapacity, Store.find?]
  refine ⟨?_, rfl, Tables.consistent_withCapacity capacity, ?_⟩ <;>
    rw [World.stores_setStore_self]
  · exact shown
  · exact List.forall_mem_nil _

/-- A store and tables in step are so at any moment. -/
theorem atMoment (inStep : InStep world id capacity tables) (now : Timestamp) :
    InStep { world with now := now } id capacity tables :=
  ⟨inStep.shown, inStep.bound, inStep.consistent, inStep.unlocked⟩

/-- A call is answered alike by the store and by the tables, both write the
same, and both remain in step. -/
theorem step
    (inStep : InStep world id capacity tables)
    (host : ModelHost σ)
    (owner : Owner)
    (limit : Nat)
    (call : StoreCall) :
    (call.run host owner limit id world).1 =
      some (tables.answer world.now call).1 ∧
      StoreView.Written tables.view (tables.view.respond world.now call).2
        (tables.answer world.now call).2.view ∧
      InStep (call.run host owner limit id world).2 id capacity
        (tables.answer world.now call).2 := by
  have written := Tables.written_writeAll inStep.consistent
    (tables.view.respond world.now call).2
  have told := Tables.answer_eq inStep.consistent world.now call
  have consistent : (world.stores id).view.Consistent := by
    rw [inStep.shown]
    exact inStep.consistent
  obtain ⟨after, ran, writtenByRun, unlocked⟩ :=
    answered_run host owner limit consistent inStep.unlocked call
  rw [inStep.shown] at ran writtenByRun
  -- What was shown before determines what is shown now, so the two cannot part.
  have shown := writtenByRun.unique written
  rw [ran, told]
  refine ⟨rfl, written, ?_, written.capacity_eq.trans inStep.bound,
    written.consistent inStep.consistent, ?_⟩ <;>
    rw [World.stores_setStore_self]
  · exact shown
  · exact unlocked

/-- Whatever calls are made, the store and the tables stay in step. -/
theorem steps
    (inStep : InStep world id capacity tables)
    (host : ModelHost σ)
    (owner : Owner)
    (limit : Nat)
    (calls : List (Timestamp × StoreCall)) :
    InStep (runAll host owner limit id world calls) id capacity
      (tables.answerAll calls) := by
  induction calls generalizing world tables with
  | nil => exact inStep
  | cons call calls inductionHypothesis =>
      exact inductionHypothesis
        ((inStep.atMoment call.1).step host owner limit call.2).2.2

end InStep

/-- Whatever calls are made of an empty store, it shows what the tables show
after the same calls: keys without duplicates, which are those of the variables
in the contents, each variable under its own key, and at most as many as the
capacity. The next call, whichever it is, is answered alike, and each of its
writes leaves a present key where it is or puts an absent one at the end, once
the front key has left a full store. Only a restoration writes more than once or
under another key than its own. -/
theorem order_and_contents_stay_in_step
    (host : ModelHost σ)
    (owner : Owner)
    (limit : Nat)
    (world : World σ)
    (id : StoreId)
    (capacity : Nat)
    (calls : List (Timestamp × StoreCall)) :
    let reached := runAll host owner limit id
      (world.setStore id (.withCapacity capacity)) calls
    let tables := (Tables.withCapacity capacity).answerAll calls
    (reached.stores id).view = tables.view ∧
      tables.view.capacity = max capacity 1 ∧
      tables.view.Consistent ∧
      ∀ (now : Timestamp) (call : StoreCall),
        let writes := (tables.view.respond now call).2
        (call.run host owner limit id { reached with now := now }).1 =
            some (tables.answer now call).1 ∧
          StoreView.Written tables.view writes (tables.answer now call).2.view ∧
          ∀ key, call.key? = some key ->
            writes = [] ∨ ∃ entry, writes = [entry] ∧ entry.key = key := by
  intro reached tables
  have inStep : InStep reached id capacity tables :=
    (InStep.withCapacity world id capacity).steps host owner limit calls
  refine ⟨inStep.shown, inStep.bound, inStep.consistent, fun now call => ?_⟩
  obtain ⟨alike, written, _⟩ := (inStep.atMoment now).step host owner limit call
  exact ⟨alike, written, fun key about =>
    StoreView.writes_of_key? inStep.consistent now about⟩

/-- Where there is room for two keys, the third one drops the first. -/
example (now : Timestamp) :
    let first := ((Store.withCapacity 2).register "a" none now).2
    let second := (first.register "b" none now).2
    (second.register "c" none now).2.keys = ["b", "c"] := by
  rfl

end StoreCall
end PromptTuning
