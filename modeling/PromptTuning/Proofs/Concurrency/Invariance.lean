import PromptTuning.Proofs.Concurrency.Alike
import PromptTuning.Proofs.Concurrency.Service

/-!
# What holds of every stored variable

A property of variables holds of every variable of a store in service if
whatever is written has it: what the operations of clients write, given that
what they read has it, what is registered and committed, and what is restored.
Other clients may act between any two steps, and a client that is dropped writes
no more.
-/

namespace PromptTuning

variable {σ : Type} {valid : Variable -> Prop}

namespace Store

/-- Whether a property holds of every stored variable. -/
def All (valid : Variable -> Prop) (store : Store) : Prop :=
  ∀ entry ∈ store.entries, valid entry

namespace All

variable {store : Store} {entry : Variable}

/-- An empty store has no invalid variable. -/
theorem withCapacity (capacity : Nat) :
    (Store.withCapacity capacity).All valid := nofun

/-- A variable that is found is one of those that are valid. -/
theorem of_find? {key : String} (all : store.All valid)
    (found : store.find? key = some entry) :
    valid entry :=
  all entry (List.mem_of_find?_eq_some found)

/-- A valid variable that is put in leaves all valid. -/
theorem put (all : store.All valid) (own : valid entry) :
    (store.put entry).All valid := by
  intro stored listed
  by_cases present : store.contains entry.key = true
  · rw [entries_put present] at listed
    obtain ⟨old, before, rfl⟩ := List.mem_map.mp listed
    split
    · exact own
    · exact all old before
  · rw [contains_iff_mem_keys] at present
    rw [entries_put_of_absent present, List.mem_append,
      List.mem_singleton] at listed
    obtain before | rfl := listed
    · refine all stored ?_
      split at before
      · exact List.mem_of_mem_tail before
      · exact before
    · exact own

/-- Valid variables that are put in one by one leave all valid. -/
theorem putAll {entries : List Variable} (all : store.All valid)
    (written : ∀ entry ∈ entries, valid entry) :
    (entries.foldl Store.put store).All valid := by
  induction entries generalizing store with
  | nil => exact all
  | cons entry entries inductionHypothesis =>
      obtain ⟨first, others⟩ := List.forall_mem_cons.mp written
      exact inductionHypothesis (all.put first) others

/-- A valid variable that is inserted leaves all valid. -/
theorem insert (all : store.All valid) (own : valid entry) :
    (store.insert entry).All valid := by
  unfold Store.insert
  split <;> exact all.put own

/-- A registration leaves all valid if a new variable is. -/
theorem register
    {key : String}
    {initial : Option Instructions}
    {now : Timestamp}
    (all : store.All valid)
    (own : valid
      (({ Variable.create key now with instructions := initial } :
        Variable).touch now)) :
    (store.register key initial now).2.All valid := by
  unfold Store.register
  split
  · exact all
  · exact all.insert own

/-- A commit leaves all valid if its variable is, with whatever version. -/
theorem commit
    {now : Timestamp}
    (all : store.All valid)
    (own :
      ∀ version, valid { entry with version := version, updatedAt := now }) :
    (store.commit entry now).All valid := by
  unfold Store.commit
  cases store.find? entry.key <;> exact all.insert (own _)

/-- A change that keeps variables valid leaves all valid. -/
theorem modify
    {key : String}
    {change : Change}
    {now : Timestamp}
    (all : store.All valid)
    (own : ∀ stored changed, valid stored ->
      change.apply stored = .ok changed ->
      valid (changed.touch now)) :
    (∀ changed,
      (store.modify key change now).1 = .ok changed -> valid changed) ∧
      (store.modify key change now).2.All valid := by
  unfold Store.modify
  cases found : store.find? key with
  | none => exact ⟨nofun, all⟩
  | some stored =>
      cases applied : change.apply stored with
      | error reason =>
          simp only [applied]
          exact ⟨nofun, all⟩
      | ok changed =>
          have kept := own stored changed (all.of_find? found) applied
          simp only [applied]
          exact ⟨fun _ same => Except.ok.inj same ▸ kept, all.put kept⟩

/-- A request for a lock leaves all variables valid. -/
theorem requestLock
    {owner : Owner}
    {key : String}
    {after : Store}
    (all : store.All valid)
    (request : store.requestLock owner key = .granted after ∨
      store.requestLock owner key = .queued after) :
    after.All valid := by
  unfold All
  rw [(requested_of_requestLock request).entries_eq]
  exact all

end All
end Store

namespace Action

/-- Whether what an action writes has a property, given that what it
changes had it. -/
def Keeps (valid : Variable -> Prop) : Action -> Prop
  | .register _ key initial =>
      ∀ now, valid
        (({ Variable.create key now with instructions := initial } :
          Variable).touch now)
  | .modify _ _ change =>
      ∀ stored changed now, valid stored -> change.apply stored = .ok changed ->
        valid (changed.touch now)
  | .commit _ entry =>
      ∀ version now, valid { entry with version := version, updatedAt := now }
  | _ => True

/-- Whether what an action reads from one of the stores has a property. -/
def Tells (id : StoreId) (valid : Variable -> Prop) :
    (action : Action) -> action.Answer -> Prop
  | .read store _, answer => store = id -> ∀ entry ∈ answer, valid entry
  | _, _ => True

end Action

namespace World

variable {world : World σ} {id : StoreId}

/-- Variables stay valid in a world if they do so in the store that
is replaced. -/
theorem all_setStore
    {other : StoreId}
    {after : Store}
    (all : (world.stores id).All valid)
    (kept : other = id -> after.All valid) :
    ((world.setStore other after).stores id).All valid := by
  by_cases same : id = other
  · subst same
    rw [stores_setStore_self]
    exact kept rfl
  · rw [stores_setStore_of_ne world same]
    exact all

/-- An action that writes what has a property reads such variables and leaves
such a store. -/
theorem all_perform
    {action : Action}
    (all : (world.stores id).All valid)
    (keeps : action.Keeps valid)
    (owner : Owner) :
    action.Tells id valid (world.perform owner action).1 ∧
      ((world.perform owner action).2.stores id).All valid := by
  cases action with
  | keys store => exact ⟨trivial, all⟩
  | read store key =>
      refine ⟨?_, all⟩
      rintro rfl entry found
      exact all.of_find? found
  | register store key initial =>
      refine ⟨trivial, all_setStore all ?_⟩
      rintro rfl
      exact all.register (keeps world.now)
  | modify store key change =>
      refine ⟨trivial, all_setStore all ?_⟩
      rintro rfl
      exact (all.modify fun stored changed => keeps stored changed world.now).2
  | commit store entry =>
      refine ⟨trivial, all_setStore all ?_⟩
      rintro rfl
      exact all.commit fun version => keeps version world.now
  | unlock store key =>
      refine ⟨trivial, all_setStore all ?_⟩
      rintro rfl
      exact all
  | program optimizer =>
      refine ⟨trivial, ?_⟩
      change ((world.useProgram optimizer).2.stores id).All valid
      rw [stores_useProgram]
      exact all
  | notify event => exact ⟨trivial, all⟩

end World

/-- An activity that writes only what has a property, as long as what it
reads has it. -/
inductive Activity.Keeps {α : Type} (id : StoreId) (valid : Variable -> Prop)
    (post : α -> Prop) :
    Activity α -> Prop
  | done {result : α} (fits : post result) : Keeps id valid post (.done result)
  | act
      {action : Action}
      {resume : action.Answer -> Activity α}
      (keeps : action.Keeps valid)
      (resumed : ∀ answer,
        action.Tells id valid answer -> Keeps id valid post (resume answer)) :
      Keeps id valid post (.act action resume)
  | lock
      {store : StoreId}
      {key : String}
      {resume : Except StoreError Unit -> Activity α}
      (resumed : ∀ outcome, Keeps id valid post (resume outcome)) :
      Keeps id valid post (.lock store key resume)
  | generate
      {model : LanguageModel}
      {request : GenerationRequest}
      {resume : Except LanguageModelError Value -> Activity α}
      (resumed : ∀ reply, Keeps id valid post (resume reply)) :
      Keeps id valid post (.generate model request resume)

namespace Activity.Keeps

variable {α β : Type} {id : StoreId} {post : α -> Prop} {onward : β -> Prop}

/-- An activity keeps variables valid if both of its parts do. -/
theorem bind
    {activity : Activity α}
    {next : α -> Activity β}
    (keeps : activity.Keeps id valid post)
    (continued : ∀ result, post result -> (next result).Keeps id valid onward) :
    (activity.bind next).Keeps id valid onward := by
  induction keeps with
  | done fits => exact continued _ fits
  | act keeps _ inductionHypothesis => exact .act keeps inductionHypothesis
  | lock _ inductionHypothesis => exact .lock inductionHypothesis
  | generate _ inductionHypothesis => exact .generate inductionHypothesis

/-- What only looks writes nothing. -/
theorem ofAlike
    {uses : Optimizer -> Prop}
    {related : α -> β -> Prop}
    {activity : Activity α}
    {other : Activity β}
    (alike : Activity.Alike uses related activity other)
    (fits : ∀ first second, related first second -> post first) :
    activity.Keeps id valid post := by
  induction alike with
  | done results => exact .done (fits _ _ results)
  | read _ inductionHypothesis =>
      exact .act trivial fun answer _ => inductionHypothesis answer answer
  | program _ _ inductionHypothesis =>
      exact .act trivial fun answer _ => inductionHypothesis answer
  | generate _ inductionHypothesis => exact .generate inductionHypothesis

/-- The lock around an activity writes nothing. -/
theorem withLock
    {ε : Type}
    {store : StoreId}
    {key : String}
    {refusal : StoreError -> ε}
    {body : Activity (Except ε α)}
    (keeps : body.Keeps id valid fun _ => True) :
    (Activity.withLock store key refusal body).Keeps id
      valid fun _ => True := by
  refine .lock fun outcome => ?_
  cases outcome with
  | error reason => exact .done trivial
  | ok _ => exact keeps.bind fun _ _ => .act trivial fun _ _ => .done trivial

end Activity.Keeps

namespace Progress

variable {α : Type} {id : StoreId}

/-- What is left of an activity that writes only what has a property. -/
def Keeps (id : StoreId) (valid : Variable -> Prop) : Progress α -> Prop
  | .active rest => rest.Keeps id valid fun _ => True
  | .waiting _ _ resume =>
      ∀ outcome, (resume outcome).Keeps id valid fun _ => True

/-- One step leaves a store of variables that have the property. -/
theorem all_step
    {world : World σ}
    {progress : Progress α}
    (all : (world.stores id).All valid)
    (keeps : progress.Keeps id valid)
    (host : ModelHost σ)
    (owner : Owner) :
    (progress.step host owner world).1.Keeps id valid ∧
      ((progress.step host owner world).2.stores id).All valid := by
  have requested {store : StoreId} {key : String} {after : Store}
      (request : (world.stores store).requestLock owner key = .granted after ∨
        (world.stores store).requestLock owner key = .queued after) :
      ((world.setStore store after).stores id).All valid := by
    refine World.all_setStore all ?_
    rintro rfl
    exact all.requestLock request
  have goes := progress.goesOn_step host owner world
  generalize progress.step host owner world = next at goes ⊢
  cases goes with
  | through | waits => exact ⟨keeps, all⟩
  | resumed => exact ⟨keeps _, all⟩
  | acted action resume =>
      cases keeps with
      | act keeps resumed =>
          obtain ⟨told, kept⟩ := World.all_perform all keeps owner
          exact ⟨resumed _ told, kept⟩
  | replied =>
      cases keeps with
      | generate resumed => exact ⟨resumed _, all⟩
  | refused =>
      cases keeps with
      | lock resumed => exact ⟨resumed _, all⟩
  | granted after request =>
      cases keeps with
      | lock resumed => exact ⟨resumed _, requested (.inl request)⟩
  | queued after request =>
      cases keeps with
      | lock resumed => exact ⟨resumed, requested (.inr request)⟩

end Progress

/-- Whether what a turn brings in or sets going writes only what has
a property. -/
def Turn.Keeps (setting : Setting σ) (valid : Variable -> Prop) : Turn -> Prop
  | .move (.begin operation) =>
      (setting.body operation).Keeps setting.store valid fun _ => True
  | .move _ => True
  | .register key initial =>
      ∀ now, valid
        (({ Variable.create key now with instructions := initial } :
          Variable).touch now)
  | .replace entry =>
      ∀ version now, valid { entry with version := version, updatedAt := now }
  | .restore document => ∀ entries, Store.readSnapshot document = .ok entries ->
      ∀ entry ∈ entries, valid entry

namespace Pool

variable {setting : Setting σ} {pool : Pool σ}

/-- The stored variables have a property, and what the clients have left to
do keeps it. -/
structure Keeps (setting : Setting σ) (valid : Variable -> Prop)
    (pool : Pool σ) : Prop where
  stored : (pool.world.stores setting.store).All valid
  working : ∀ client ∈ pool.clients, ∀ progress ∈ client.progress,
    progress.Keeps setting.store valid

/-- Clients keep variables valid in a store that is replaced by a valid one. -/
theorem Keeps.withStore {after : Store} (keeps : pool.Keeps setting valid)
    (all : after.All valid) :
    (pool.withStore setting after).Keeps setting valid := by
  refine ⟨?_, keeps.working⟩
  rw [Pool.withStore, World.stores_setStore_self]
  exact all

/-- After a move clients still keep variables valid. -/
theorem Keeps.of_moves
    {move : Move}
    {after : Pool σ}
    (keeps : pool.Keeps setting valid)
    (brought : Turn.Keeps setting valid (.move move))
    (moves : pool.Moves setting move after) :
    after.Keeps setting valid := by
  have stepped (owner : Owner) (progress : Progress Response)
      (own : progress.Keeps setting.store valid) :=
    Progress.all_step keeps.stored own setting.host owner
  refine ⟨?_, moves.working keeps.working ?_ fun owner progress own =>
    (stepped owner progress own).1⟩
  · cases moves with
    | proceeded operation since replies progress found =>
        exact (stepped _ _
          (keeps.working _ (List.mem_of_getElem? found) progress rfl)).2
    | _ => exact keeps.stored
  · rintro operation rfl
    exact brought

/-- After a turn that brings in valid variables, clients still keep
them valid. -/
theorem Keeps.take (keeps : pool.Keeps setting valid) (turn : Turn)
    (brought : turn.Keeps setting valid) :
    (pool.take setting turn).Keeps setting valid := by
  have takes := takes_take setting pool turn
  generalize pool.take setting turn = after at takes ⊢
  cases takes with
  | moved moves => exact keeps.of_moves brought moves
  | registered key initial =>
      exact keeps.withStore (keeps.stored.register (brought _))
  | replaced entry =>
      exact keeps.withStore
        (keeps.stored.commit fun version => brought version _)
  | restored entries read =>
      exact keeps.withStore (keeps.stored.putAll (brought entries read))
  | refused => exact keeps

/-- Through any turns that bring in valid variables, clients keep them valid. -/
theorem Keeps.serve (keeps : pool.Keeps setting valid) (turns : List Turn)
    (brought : ∀ turn ∈ turns, turn.Keeps setting valid) :
    (pool.serve setting turns).Keeps setting valid := by
  induction turns generalizing pool with
  | nil => exact keeps
  | cons turn turns inductionHypothesis =>
      obtain ⟨first, others⟩ := List.forall_mem_cons.mp brought
      exact inductionHypothesis (keeps.take turn first) others

end Pool

/-- A property that every turn keeps holds of every variable that is stored
in the end. -/
theorem Setting.all_reached
    (setting : Setting σ)
    (start : World σ)
    (capacity : Nat)
    {turns : List Turn}
    (brought : ∀ turn ∈ turns, turn.Keeps setting valid) :
    (setting.reached start capacity turns).All valid := by
  refine (Pool.Keeps.serve ⟨?_, List.forall_mem_nil _⟩ turns brought).stored
  rw [Pool.ofWorld, World.stores_setStore_self]
  exact .withCapacity capacity

end PromptTuning
