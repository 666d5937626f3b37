import PromptTuning.Proofs.Concurrency.Service

/-!
# One write or none

A call of a store is given up while it waits for a lock, is declined, or
commits. Only a commit changes what the store shows, and it writes one variable
under the key that the call is about: the fields that the call names are new,
the version goes on from the stored one, and all other variables stay but for
the oldest, which makes room for an absent key in a full store.
-/

namespace PromptTuning

variable {σ : Type}

namespace Store

variable {store after : Store} {owner : Owner} {key : String}

/-- A lock is refused only where its key is not stored. -/
theorem requestLock_eq_refused {reason : StoreError}
    (refused : store.requestLock owner key = .refused reason) :
    store.find? key = none ∧ reason = .notFound key := by
  cases present : store.contains key with
  | false =>
      rw [requestLock, present, if_neg Bool.false_ne_true,
        Grant.refused.injEq] at refused
      rw [find?_eq_none_iff, ← contains_iff_mem_keys, present]
      exact ⟨Bool.false_ne_true, refused.symm⟩
  | true =>
      obtain ⟨other, requested⟩ := requested_of_present present owner
      cases requested with
      | granted answered => simp [answered] at refused
      | queued _ answered => simp [answered] at refused

/-- A request is queued only at a lock that is in use. -/
theorem inUse_of_queued (queued : store.requestLock owner key = .queued after) :
    ∃ lock, store.lock? key = some lock ∧ lock.inUse = true := by
  by_contra nobody
  have free : store.IsFree key := fun lock found =>
    Bool.eq_false_iff.mpr fun used => nobody ⟨lock, found, used⟩
  cases requested_of_requestLock (.inr queued) with
  | granted request =>
      rw [queued] at request
      contradiction
  | queued lock request found =>
      have unused := free lock found
      unfold requestLock at request
      split at request <;> simp [found, unused] at request

end Store

/-- What is left of an activity whose owner has been handed the lock that
it asked for. -/
def Activity.locked {α : Type} : Activity α -> Activity α
  | .lock _ _ resume => resume (.ok ())
  | rest => rest

namespace StoreCall

/-- A call that waits for the lock of its key, which somebody else holds. -/
def Waits (call : StoreCall) (store : Store) : Prop :=
  ∃ key lock,
    call.key? = some key ∧ store.lock? key = some lock ∧ lock.inUse = true

/-- A call that changes nothing: it registers a key that is present, or it is
answered with the error that tells what is wrong with it. -/
inductive Declined (store : Store) : (call : StoreCall) -> call.Answer -> Prop
  | present (key : String) (initial : Option Instructions)
      (stored : key ∈ store.keys) :
      Declined store (.register key initial) false
  | appendAbsent (key : String) (prediction : Prediction)
      (absent : key ∉ store.keys) :
      Declined store (.append key prediction) (.error (.notFound key))
  | attachInvalid
      (key : String)
      (index : Nat)
      (reward : Double)
      (invalid : isValidReward reward = false) :
      Declined store (.attach key index reward) (.error (.invalidReward reward))
  | attachAbsent
      (key : String)
      (index : Nat)
      (reward : Double)
      (valid : isValidReward reward = true)
      (absent : key ∉ store.keys) :
      Declined store (.attach key index reward) (.error (.notFound key))
  | attachOutside
      (key : String)
      (index : Nat)
      (reward : Double)
      (stored : Variable)
      (valid : isValidReward reward = true)
      (found : store.find? key = some stored)
      (outside : stored.predictions.length ≤ index) :
      Declined store (.attach key index reward)
        (.error (.indexOutOfRange index stored.predictions.length))
  | updateAbsent (key : String) (content : VariableUpdate)
      (absent : key ∉ store.keys) :
      Declined store (.update key content) (.error (.notFound key))
  | unread
      (document : Json)
      (reason : StoreError)
      (refused : Store.readSnapshot document = .error reason) :
      Declined store (.restore document) (.error reason)

/-- What a call about one key turns the variable stored there into, if there is
one, and what it answers. -/
inductive Commits (now : Timestamp) :
    (call : StoreCall) -> Option Variable -> Variable -> call.Answer -> Prop
  | registered (key : String) (initial : Option Instructions) :
      Commits now (.register key initial) none
        ⟨key, [], initial, [], .unbuilt, 1, now⟩ true
  | appended (key : String) (prediction : Prediction) (stored : Variable) :
      Commits now (.append key prediction) (some stored)
        { stored with
          predictions := stored.predictions ++ [prediction]
          version := stored.version + 1
          updatedAt := now }
        (.ok stored.predictions.length)
  | attached
      (key : String)
      (index : Nat)
      (reward : Double)
      (stored : Variable)
      (valid : isValidReward reward = true)
      (recorded : index < stored.predictions.length) :
      Commits now (.attach key index reward) (some stored)
        { stored with
          predictions :=
            stored.predictions.set index
              { stored.predictions[index] with reward := some reward }
          version := stored.version + 1
          updatedAt := now }
        (.ok ())
  | updated (key : String) (content : VariableUpdate)
      (stored written : Variable)
      (same : written =
        { stored with
          predictions := content.predictions.getD stored.predictions
          instructions := content.instructions.getD stored.instructions
          candidates := content.candidates.getD stored.candidates
          phase := content.phase.getD stored.phase
          version := stored.version + 1
          updatedAt := now }) :
      Commits now (.update key content) (some stored) written (.ok written)
  | replaced (entry stored : Variable) :
      Commits now (.replace entry) (some stored)
        { entry with version := stored.version + 1, updatedAt := now } ()
  | added (entry : Variable) :
      Commits now (.replace entry) none
        { entry with version := entry.version + 1, updatedAt := now } ()

/-- What becomes of a call and of what its store shows. -/
inductive Effect (now : Timestamp) (before : Store) (call : StoreCall) :
    Option call.Answer -> StoreView -> Prop
  | waited (waits : call.Waits before) : Effect now before call none before.view
  | declined {answer : call.Answer} (declined : call.Declined before answer) :
      Effect now before call (some answer) before.view
  | committed
      {answer : call.Answer}
      {after : StoreView}
      (entry : Variable)
      (about : call.key? = some entry.key)
      (commits : Commits now call (before.find? entry.key) entry answer)
      (wrote : before.view.Wrote entry after) :
      Effect now before call (some answer) after
  | restored
      {answer : call.Answer}
      {after : StoreView}
      (document : Json)
      (entries : List Variable)
      (asked : call = .restore document)
      (accepted : Store.readSnapshot document = .ok entries)
      (written : StoreView.Written before.view entries after) :
      Effect now before call (some answer) after

/-- What a store shows tells that a call is declined, or the one variable
that it writes. -/
inductive Tells (now : Timestamp) (store : Store) (call : StoreCall) :
    call.Answer × List Variable -> Prop
  | declined {answer : call.Answer} (declined : call.Declined store answer) :
      Tells now store call (answer, [])
  | commits
      {answer : call.Answer}
      (entry : Variable)
      (about : call.key? = some entry.key)
      (commits : Commits now call (store.find? entry.key) entry answer) :
      Tells now store call (answer, [entry])
  | restores
      {answer : call.Answer}
      (document : Json)
      (entries : List Variable)
      (asked : call = .restore document)
      (accepted : Store.readSnapshot document = .ok entries) :
      Tells now store call (answer, entries)

section Tells

variable {store : Store}

/-- A change finds nothing under its key, is refused, or writes the
changed variable. -/
theorem change_cases (store : Store) (now : Timestamp) (key : String)
    (change : Change) :
    (key ∉ store.keys ∧
      store.view.change now key change = (.error (.notFound key), [])) ∨
      ∃ stored, store.find? key = some stored ∧
        ((∃ reason, change.apply stored = .error reason ∧
            store.view.change now key change = (.error reason, [])) ∨
          ∃ changed, change.apply stored = .ok changed ∧ changed.key = key ∧
            store.view.change now key change =
              (.ok (changed.touch now), [changed.touch now])) := by
  cases found : store.find? key with
  | none =>
      exact .inl
        ⟨Store.find?_eq_none_iff.mp found, by simp [StoreView.change, found]⟩
  | some stored =>
      refine .inr ⟨stored, rfl, ?_⟩
      cases applied : change.apply stored with
      | error reason =>
          exact .inl ⟨reason, rfl, by simp [StoreView.change, found, applied]⟩
      | ok changed =>
          have named :=
            (Change.key_of_apply applied).trans (Store.key_of_find? found)
          exact .inr
            ⟨changed, rfl, named, by simp [StoreView.change, found, applied]⟩

/-- What an append is answered and writes is told by what is stored. -/
theorem tells_append (now : Timestamp) (key : String)
    (prediction : Prediction) :
    Tells now store (.append key prediction)
      (store.view.respond now (.append key prediction)) := by
  obtain ⟨absent, answered⟩ |
      ⟨stored, found, ⟨_, refused, _⟩ | ⟨changed, applied, rfl, answered⟩⟩ :=
    change_cases store now key (.append prediction)
  · rw [StoreView.respond, answered]
    exact .declined (.appendAbsent key prediction absent)
  · contradiction
  · obtain rfl := Except.ok.inj applied
    have commits : Commits now _ (some stored) _ _ :=
      .appended stored.key prediction stored
    rw [← found] at commits
    rw [StoreView.respond, answered]
    refine .commits _ rfl ?_
    simpa [Variable.touch, Except.map] using commits

/-- What an attached reward is answered and writes is told by what is stored. -/
theorem tells_attach (now : Timestamp) (key : String) (index : Nat)
    (reward : Double) :
    Tells now store (.attach key index reward)
      (store.view.respond now (.attach key index reward)) := by
  cases valid : isValidReward reward with
  | false =>
      rw [StoreView.respond, valid, if_neg Bool.false_ne_true]
      exact .declined (.attachInvalid key index reward valid)
  | true =>
      rw [StoreView.respond, valid, if_pos rfl]
      obtain ⟨absent, answered⟩ |
          ⟨stored, found,
            ⟨reason, refused, answered⟩ | ⟨changed, applied, rfl, answered⟩⟩ :=
        change_cases store now key (.attach index reward)
      · rw [answered]
        exact .declined (.attachAbsent key index reward valid absent)
      · rw [Change.apply] at refused
        split at refused
        · contradiction
        · rename_i outside
          obtain rfl := Except.error.inj refused
          rw [answered]
          exact .declined
            (.attachOutside key index reward stored valid found
              (Nat.not_lt.mp outside))
      · rw [Change.apply] at applied
        split at applied
        case isFalse => contradiction
        rename_i recorded
        obtain rfl := Except.ok.inj applied
        have commits : Commits now _ (some stored) _ _ :=
          .attached stored.key index reward stored valid recorded
        rw [← found] at commits
        rw [answered]
        refine .commits _ rfl ?_
        have modified : stored.predictions.modify index (·.withReward reward) =
            stored.predictions.set index
              { stored.predictions[index] with reward := some reward } := by
          rw [List.modify_eq_set_get _ recorded]
          rfl
        simpa [Variable.touch, Except.map, modified] using commits

/-- What an update is answered and writes is told by what is stored. -/
theorem tells_update (now : Timestamp) (key : String)
    (content : VariableUpdate) :
    Tells now store (.update key content)
      (store.view.respond now (.update key content)) := by
  obtain ⟨absent, answered⟩ |
      ⟨stored, found, ⟨_, refused, _⟩ | ⟨changed, applied, rfl, answered⟩⟩ :=
    change_cases store now key (.update content)
  · rw [StoreView.respond, answered]
    exact .declined (.updateAbsent key content absent)
  · contradiction
  · obtain rfl := Except.ok.inj applied
    rw [StoreView.respond, answered]
    refine .commits _ rfl ?_
    change Commits _ _ (store.find? (stored.apply content).key) _ _
    rw [found]
    exact .updated _ content stored _ rfl

/-- What a store shows tells what becomes of a call. -/
theorem tells_respond (store : Store) (now : Timestamp) (call : StoreCall) :
    Tells now store call (store.view.respond now call) := by
  cases call with
  | append key prediction => exact tells_append now key prediction
  | attach key index reward => exact tells_attach now key index reward
  | update key content => exact tells_update now key content
  | register key initial =>
      cases found : store.find? key with
      | some stored =>
          have present :=
            Store.contains_iff_mem_keys.mp (Store.contains_of_find? found)
          simp only [StoreView.respond, Store.view_find?, found]
          exact .declined (.present key initial present)
      | none =>
          simp only [StoreView.respond, Store.view_find?, found]
          refine .commits _ rfl ?_
          change Commits _ _ (store.find? key) _ _
          rw [found]
          exact .registered key initial
  | replace entry =>
      cases found : store.find? entry.key with
      | some stored =>
          simp only [StoreView.respond, Store.view_find?, found]
          refine .commits _ rfl ?_
          change Commits _ _ (store.find? entry.key) _ _
          rw [found]
          exact .replaced entry stored
      | none =>
          simp only [StoreView.respond, Store.view_find?, found]
          refine .commits _ rfl ?_
          change Commits _ _ (store.find? entry.key) _ _
          rw [found]
          exact .added entry
  | restore document =>
      cases read : Store.readSnapshot document with
      | error reason =>
          simp only [StoreView.respond, read]
          exact .declined (.unread document reason read)
      | ok entries =>
          simp only [StoreView.respond, read]
          exact .restores document entries rfl read

end Tells

/-- A call is given up while it waits, or is answered and has written. -/
inductive Ran {α : Type} (before : StoreView) (id : StoreId) (waits : Prop)
    (response : α × List Variable) : Option α × World σ -> Prop
  | waited {after : World σ} (waiting : waits)
      (same : (after.stores id).view = before) :
      Ran before id waits response (none, after)
  | answered {after : World σ}
      (written : StoreView.Written before response.2 (after.stores id).view) :
      Ran before id waits response (some response.1, after)

/-- What ran as the store told has the effect that the store tells. -/
theorem Ran.effect
    {before : Store}
    {id : StoreId}
    {waits : Prop}
    {now : Timestamp}
    {call : StoreCall}
    {result : Option call.Answer × World σ}
    (ran : Ran before.view id waits (before.view.respond now call) result)
    (waiting : waits -> call.Waits before) :
    Effect now before call result.1 (result.2.stores id).view := by
  have tells := tells_respond before now call
  cases ran with
  | waited waits same =>
      rw [same]
      exact .waited (waiting waits)
  | answered written =>
      generalize before.view.respond now call = response at tells written
      cases tells with
      | declined declined =>
          rw [written.eq_of_nil]
          exact .declined declined
      | commits entry about commits =>
          exact .committed entry about commits written.wrote_of_single
      | restores document entries asked accepted =>
          exact .restored document entries asked accepted written

/-- A call that does not wait is answered. -/
theorem Ran.answers
    {α : Type}
    {before : StoreView}
    {id : StoreId}
    {response : α × List Variable}
    {result : Option α × World σ}
    (ran : Ran before id False response result) : result.1.isSome = true := by
  cases ran with
  | waited waits _ => exact waits.elim
  | answered _ => rfl

/-- Go on with a call whose owner has been handed the lock that it
waited for. -/
def resume (host : ModelHost σ) (owner : Owner) (limit : Nat) (id : StoreId)
    (world : World σ) :
    (call : StoreCall) -> Option call.Answer × World σ
  | .append key prediction =>
      (Activity.append id key prediction).locked.run host owner limit world
  | .attach key index reward =>
      (Activity.attach id key index reward).locked.run host owner limit world
  | .update key content =>
      (Activity.update id key content).locked.run host owner limit world
  | call => call.run host owner limit id world

section Ran

variable
  {world : World σ}
  {id : StoreId}
  (host : ModelHost σ)
  (owner : Owner)
  (limit : Nat)

/-- A change by the holder of the lock, whatever is made of its outcome. -/
theorem ran_locked
    {α : Type}
    {waits : Prop}
    (inStep : (world.stores id).view.Consistent)
    (key : String)
    (change : Change)
    (shape : Except StoreError Variable -> α) :
    Ran (world.stores id).view id waits
      (((world.stores id).view.change world.now key change).map
        shape fun written => written)
      (((Activity.modify id key change).bind fun outcome =>
        .done (shape outcome)).locked.run
        host owner limit world) := by
  obtain ⟨answer, written⟩ := Store.written_modify inStep key change world.now
  change Ran _ id waits _ (Activity.run host owner limit
    (.act (.modify id key change) fun outcome => .act (.unlock id key) fun _ =>
      .done (shape outcome)) world)
  simp only [Activity.run, World.perform, World.stores_setStore_self,
    World.setStore_setStore]
  rw [answer]
  refine .answered ?_
  rw [World.stores_setStore_self]
  exact written

/-- A change under the lock of its key, whatever is made of its outcome. -/
theorem ran_modify
    {α : Type}
    {waits : Prop}
    (inStep : (world.stores id).view.Consistent)
    (key : String)
    (waiting : ∀ lock,
      (world.stores id).lock? key = some lock -> lock.inUse = true -> waits)
    (change : Change)
    (shape : Except StoreError Variable -> α) :
    Ran (world.stores id).view id waits
      (((world.stores id).view.change world.now key change).map
        shape fun written => written)
      (((Activity.modify id key change).bind fun outcome =>
        .done (shape outcome)).run
        host owner limit world) := by
  cases request : (world.stores id).requestLock owner key with
  | refused reason =>
      obtain ⟨missing, rfl⟩ := Store.requestLock_eq_refused request
      simp only [Activity.modify, Activity.withLock, Activity.bind,
        Activity.run, request, StoreView.change, Store.view_find?, missing]
      exact .answered (.none _)
  | queued after =>
      obtain ⟨lock, found, used⟩ := Store.inUse_of_queued request
      simp only [Activity.modify, Activity.withLock, Activity.bind,
        Activity.run, request]
      exact .waited (waiting lock found used) rfl
  | granted locked =>
      have shown :
          ((world.setStore id locked).stores id).view =
            (world.stores id).view := by
        rw [World.stores_setStore_self, Store.view_of_granted request]
      have ran : Ran _ id waits _ _ :=
        ran_locked host owner limit (shown ▸ inStep) key change shape
      rw [shown, World.now_setStore] at ran
      simp only [Activity.modify, Activity.withLock, Activity.bind,
        Activity.run, request]
      exact ran

/-- A registration runs as every store shows it, without waiting. -/
theorem ran_register {waits : Prop} (inStep : (world.stores id).view.Consistent)
    (key : String) (initial : Option Instructions) :
    Ran (world.stores id).view id waits
      ((world.stores id).view.respond world.now (.register key initial))
      ((register key initial).run host owner limit id world) := by
  obtain ⟨created, written⟩ :=
    Store.written_register inStep key initial world.now
  simp only [run, Activity.perform, Activity.run, World.perform]
  rw [created]
  refine .answered ?_
  rw [World.stores_setStore_self]
  exact written

/-- A commit runs as every store shows it, without waiting. -/
theorem ran_replace {waits : Prop} (inStep : (world.stores id).view.Consistent)
    (entry : Variable) :
    Ran (world.stores id).view id waits
      ((world.stores id).view.respond world.now (.replace entry))
      ((replace entry).run host owner limit id world) := by
  simp only [run, Activity.perform, Activity.run, World.perform]
  refine .answered ?_
  rw [World.stores_setStore_self]
  exact Store.written_commit inStep entry world.now

/-- A restoration runs as every store shows it, without waiting. -/
theorem ran_restore {waits : Prop} (inStep : (world.stores id).view.Consistent)
    (document : Json) :
    Ran (world.stores id).view id waits
      ((world.stores id).view.respond world.now (.restore document))
      ((restore document).run host owner limit id world) := by
  cases read : Store.readSnapshot document with
  | error reason =>
      simp only [run, Store.restore, StoreView.respond, read]
      exact .answered (.none _)
  | ok entries =>
      simp only [run, Store.restore, StoreView.respond, read]
      refine .answered ?_
      rw [World.stores_setStore_self]
      exact Store.written_putAll inStep entries

theorem update_eq_bind (key : String) (content : VariableUpdate) :
    Activity.update id key content =
      (Activity.modify id key (.update content)).bind fun outcome =>
        .done outcome :=
  (Activity.bind_pure _).symm

/-- Every call is given up while it waits for a lock, or it is answered as the
store shows and writes what that tells. -/
theorem ran_run (inStep : (world.stores id).view.Consistent)
    (call : StoreCall) :
    Ran (world.stores id).view id (call.Waits (world.stores id))
      ((world.stores id).view.respond world.now call)
      (call.run host owner limit id world) := by
  have waits {key : String} (about : call.key? = some key) (lock : Lock)
      (found : (world.stores id).lock? key = some lock)
      (used : lock.inUse = true) :
        call.Waits (world.stores id) := ⟨key, lock, about, found, used⟩
  cases call with
  | register key initial =>
      exact ran_register host owner limit inStep key initial
  | replace entry => exact ran_replace host owner limit inStep entry
  | restore document => exact ran_restore host owner limit inStep document
  | append key prediction =>
      exact ran_modify host owner limit inStep key (waits rfl)
        (.append prediction) _
  | attach key index reward =>
      cases valid : isValidReward reward with
      | true =>
          simp only [run, Activity.attach, StoreView.respond, valid, if_true]
          exact ran_modify host owner limit inStep key (waits rfl)
            (.attach index reward) _
      | false =>
          simp only [run, Activity.attach, StoreView.respond, valid]
          exact .answered (.none _)
  | update key content =>
      rw [run, update_eq_bind]
      exact ran_modify host owner limit inStep key (waits rfl) (.update content)
        fun outcome => outcome

/-- A call that has waited for its lock is answered as the store
shows by then. -/
theorem ran_resume (inStep : (world.stores id).view.Consistent)
    (call : StoreCall) :
    Ran (world.stores id).view id False
      ((world.stores id).view.respond world.now call)
      (call.resume host owner limit id world) := by
  cases call with
  | register key initial =>
      exact ran_register host owner limit inStep key initial
  | replace entry => exact ran_replace host owner limit inStep entry
  | restore document => exact ran_restore host owner limit inStep document
  | append key prediction =>
      exact ran_locked host owner limit inStep key (.append prediction) _
  | attach key index reward =>
      cases valid : isValidReward reward with
      | true =>
          simp only [resume, Activity.attach, StoreView.respond, valid, if_true]
          exact ran_locked host owner limit inStep key (.attach index reward) _
      | false =>
          simp only [resume, Activity.attach, StoreView.respond, valid]
          exact .answered (.none _)
  | update key content =>
      rw [resume, update_eq_bind]
      exact ran_locked host owner limit inStep key
        (.update content) fun outcome => outcome

end Ran

/-- Whatever happened to a store that was empty, a call of it changes nothing
unless it commits, and what it then changes is the variable under its own key
and, to make room for it, the oldest one. A call may wait for the lock of its
key, and the same holds when it goes on with it. -/
theorem call_commits_once_or_changes_nothing
    (setting : Setting σ)
    (start : World σ)
    (capacity : Nat)
    (turns : List Turn)
    (now : Timestamp)
    (owner : Owner)
    (limit : Nat)
    (call : StoreCall) :
    let store := setting.reached start capacity turns
    let world :=
      { (setting.serving start capacity turns).world with now := now }
    let result := call.run setting.host owner limit setting.store world
    let resumed := call.resume setting.host owner limit setting.store world
    Effect now store call result.1 (result.2.stores setting.store).view ∧
      resumed.1.isSome = true ∧
      Effect now store call resumed.1
        (resumed.2.stores setting.store).view := by
  intro store world result resumed
  have inStep : (world.stores setting.store).view.Consistent :=
    setting.consistent_reached start capacity turns
  have ran := ran_run setting.host owner limit inStep call
  have answered := ran_resume setting.host owner limit inStep call
  exact ⟨ran.effect id, answered.answers, answered.effect False.elim⟩

end StoreCall
end PromptTuning
