import PromptTuning.Proofs.Concurrency.Pool
import PromptTuning.Proofs.Store.Calls

/-!
# A store in service

Clients work on a store in any order, each may wait or be dropped wherever it
stands, and between their steps variables are registered, committed whole and
restored. No set of keys is fixed here. Every turn writes a list of variables,
one after the other, the way every store shows it. So whatever happens to a
store that was empty, its order and its contents are in step.
-/

namespace PromptTuning

variable {σ : Type}

namespace Store

variable {store after : Store} {owner : Owner} {key : String}

/-- A lock that is queued for changes nothing that a store shows. -/
theorem view_of_queued (queued : store.requestLock owner key = .queued after) :
    after.view = store.view := by
  unfold requestLock at queued
  split at queued
  case isFalse => contradiction
  split at queued
  · contradiction
  · split at queued
    · obtain rfl := Grant.queued.inj queued
      rfl
    · contradiction

end Store

namespace World

variable {world : World σ} {id : StoreId}

/-- The variables that an action writes to a store. -/
def writes (world : World σ) (id : StoreId) : Action -> List Variable
  | .register store key initial =>
      if store = id then
        ((world.stores id).view.respond world.now (.register key initial)).2
      else []
  | .modify store key change =>
      if store = id then ((world.stores id).view.change world.now key change).2
      else []
  | .commit store entry =>
      if store = id then
        ((world.stores id).view.respond world.now (.replace entry)).2 else []
  | _ => []

/-- A store that is replaced writes what the new one shows, any other
writes nothing. -/
theorem written_setStore
    {other : StoreId}
    {after : Store}
    {entries : List Variable}
    (written : other = id ->
      StoreView.Written (world.stores other).view entries after.view) :
    StoreView.Written (world.stores id).view
      (if other = id then entries else [])
      ((world.setStore other after).stores id).view := by
  by_cases same : other = id
  · subst same
    rw [if_pos rfl, stores_setStore_self]
    exact written rfl
  · rw [if_neg same, stores_setStore_of_ne world (Ne.symm same)]
    exact .none _

/-- Replacing a store by one that shows the same changes nothing
that is shown. -/
theorem view_setStore
    {other : StoreId}
    {after : Store}
    (same : after.view = (world.stores other).view) :
    ((world.setStore other after).stores id).view = (world.stores id).view := by
  by_cases own : id = other
  · subst own
    rw [stores_setStore_self, same]
  · rw [stores_setStore_of_ne world own]

/-- Looking for a program leaves all stores alone. -/
theorem stores_useProgram (world : World σ) (optimizer : Optimizer) :
    (world.useProgram optimizer).2.stores = world.stores := by
  unfold useProgram
  cases world.programs optimizer.id with
  | some program => rfl
  | none => cases optimizer.buildProgram <;> rfl

/-- An action writes as every store shows it. -/
theorem written_perform
    (inStep : (world.stores id).view.Consistent)
    (owner : Owner)
    (action : Action) :
    StoreView.Written (world.stores id).view (world.writes id action)
      ((world.perform owner action).2.stores id).view := by
  cases action with
  | keys store => exact .none _
  | read store key => exact .none _
  | register store key initial =>
      refine written_setStore fun same => ?_
      subst same
      exact (Store.written_register inStep key initial world.now).2
  | modify store key change =>
      refine written_setStore fun same => ?_
      subst same
      exact (Store.written_modify inStep key change world.now).2
  | commit store entry =>
      refine written_setStore fun same => ?_
      subst same
      exact Store.written_commit inStep entry world.now
  | unlock store key =>
      have released : ((world.stores store).releaseLock owner key).view =
          (world.stores store).view := rfl
      have same : ((world.perform owner (.unlock store key)).2.stores id).view =
          (world.stores id).view := view_setStore released
      rw [same]
      exact .none _
  | program optimizer =>
      change StoreView.Written _ []
        ((world.useProgram optimizer).2.stores id).view
      rw [stores_useProgram]
      exact .none _
  | notify event => exact .none _

end World

namespace Progress

variable {α : Type}

/-- The variables that the next step of an activity writes to a store. -/
def writes (world : World σ) (id : StoreId) : Progress α -> List Variable
  | .active (.act action _) => world.writes id action
  | _ => []

/-- A step of an activity writes as every store shows it. -/
theorem written_step
    {world : World σ}
    {id : StoreId}
    (inStep : (world.stores id).view.Consistent)
    (host : ModelHost σ)
    (owner : Owner)
    (progress : Progress α) :
    StoreView.Written (world.stores id).view (progress.writes world id)
      ((progress.step host owner world).2.stores id).view := by
  have goes := progress.goesOn_step host owner world
  generalize progress.step host owner world = next at goes ⊢
  cases goes with
  | acted action resume => exact World.written_perform inStep owner action
  | granted after request =>
      rw [World.view_setStore (Store.view_of_granted request)]
      exact .none _
  | queued after request =>
      rw [World.view_setStore (Store.view_of_queued request)]
      exact .none _
  | _ => exact .none _

end Progress

namespace Pool

variable {setting : Setting σ} {pool : Pool σ}

/-- What a turn makes of a pool, one case for each way that it can go. -/
inductive Takes (setting : Setting σ) (pool : Pool σ) : Turn -> Pool σ -> Prop
  | moved {move : Move} {after : Pool σ}
      (moves : pool.Moves setting move after) :
      Takes setting pool (.move move) after
  | registered (key : String) (initial : Option Instructions) :
      Takes setting pool (.register key initial)
        (pool.withStore setting
          ((pool.world.stores setting.store).register key initial
            pool.world.now).2)
  | replaced (entry : Variable) :
      Takes setting pool (.replace entry)
        (pool.withStore setting
          ((pool.world.stores setting.store).commit entry pool.world.now))
  | restored
      {document : Json}
      (entries : List Variable)
      (read : Store.readSnapshot document = .ok entries) :
      Takes setting pool (.restore document)
        (pool.withStore setting
          ((pool.world.stores setting.store).restoreAll entries))
  | refused
      {document : Json}
      (reason : StoreError)
      (read : Store.readSnapshot document = .error reason) :
      Takes setting pool (.restore document) pool

/-- Every turn goes one of these ways. -/
theorem takes_take (setting : Setting σ) (pool : Pool σ) (turn : Turn) :
    pool.Takes setting turn (pool.take setting turn) := by
  cases turn with
  | move move => exact .moved (moves_step setting pool move)
  | register key initial => exact .registered key initial
  | replace entry => exact .replaced entry
  | restore document =>
      cases read : Store.readSnapshot document with
      | error reason =>
          simp only [take, Store.restore, read]
          exact .refused reason read
      | ok entries =>
          simp only [take, Store.restore, read]
          exact .restored entries read

/-- A property of what clients have left to do stays with all of them if it
holds of what a new client has to do and every step keeps it. -/
theorem Takes.working
    {turn : Turn}
    {after : Pool σ}
    {fits : Progress Response -> Prop}
    (takes : pool.Takes setting turn after)
    (working :
      ∀ client ∈ pool.clients, ∀ progress ∈ client.progress, fits progress)
    (begun : ∀ operation, turn = .move (.begin operation) ->
      fits (.active (setting.body operation)))
    (stepped : ∀ owner progress, fits progress ->
      fits (progress.step setting.host owner pool.world).1) :
    ∀ client ∈ after.clients, ∀ progress ∈ client.progress, fits progress := by
  cases takes with
  | moved moves =>
      exact moves.working working
        (fun operation same => begun operation (congrArg _ same)) stepped
  | _ => exact working

/-- Turns are served one after another. -/
theorem serve_concat (setting : Setting σ) (turns : List Turn) (turn : Turn)
    (pool : Pool σ) :
    pool.serve setting (turns ++ [turn]) =
      (pool.serve setting turns).take setting turn := by
  rw [serve, List.foldl_append]
  rfl

/-- The variables that a turn writes to the store. -/
def writes (setting : Setting σ) (pool : Pool σ) : Turn -> List Variable
  | .move (.proceed id) =>
      ((pool.clients[id]?.bind (·.progress)).map
        (·.writes pool.world setting.store)).getD []
  | .move _ => []
  | .register key initial =>
      ((pool.world.stores setting.store).view.respond pool.world.now
        (.register key initial)).2
  | .replace entry =>
      ((pool.world.stores setting.store).view.respond pool.world.now
        (.replace entry)).2
  | .restore document =>
      ((pool.world.stores setting.store).view.respond pool.world.now
        (.restore document)).2

/-- A turn writes as every store shows it. -/
theorem written_take
    (inStep : (pool.world.stores setting.store).view.Consistent)
    (turn : Turn) :
    StoreView.Written (pool.world.stores setting.store).view
      (pool.writes setting turn)
      ((pool.take setting turn).world.stores setting.store).view := by
  have stored {entries : List Variable} {after : Store}
      (written : StoreView.Written (pool.world.stores setting.store).view
        entries after.view) :
      StoreView.Written (pool.world.stores setting.store).view entries
        ((pool.withStore setting after).world.stores setting.store).view := by
    rw [withStore, World.stores_setStore_self]
    exact written
  have taken := takes_take setting pool turn
  generalize pool.take setting turn = after at taken ⊢
  cases taken with
  | moved moves =>
      cases moves with
      | proceeded operation since replies progress found =>
          simp only [writes, found]
          exact progress.written_step inStep setting.host _
      | idle nothing =>
          simp only [writes, nothing]
          exact .none _
      | _ => exact .none _
  | registered key initial =>
      exact stored (Store.written_register inStep key initial pool.world.now).2
  | replaced entry =>
      exact stored (Store.written_commit inStep entry pool.world.now)
  | restored entries read =>
      simp only [writes, StoreView.respond, read]
      exact stored (Store.written_putAll inStep entries)
  | refused reason read =>
      simp only [writes, StoreView.respond, read]
      exact .none _

/-- Whatever happens to a store, its order and its contents stay in step. -/
theorem consistent_serve
    (inStep : (pool.world.stores setting.store).view.Consistent)
    (turns : List Turn) :
    ((pool.serve setting turns).world.stores
      setting.store).view.Consistent := by
  induction turns generalizing pool with
  | nil => exact inStep
  | cons turn turns inductionHypothesis =>
      exact inductionHypothesis ((written_take inStep turn).consistent inStep)

/-- Whatever happens to a store, it has the room that it had. -/
theorem capacity_serve
    (inStep : (pool.world.stores setting.store).view.Consistent)
    (turns : List Turn) :
    ((pool.serve setting turns).world.stores setting.store).capacity =
      (pool.world.stores setting.store).capacity := by
  induction turns generalizing pool with
  | nil => rfl
  | cons turn turns inductionHypothesis =>
      have written := written_take inStep turn
      exact (inductionHypothesis (written.consistent inStep)).trans
        written.capacity_eq

end Pool

namespace Setting

variable (setting : Setting σ) (start : World σ) (capacity : Nat)
  (turns : List Turn)

/-- Order and contents of a store in service are in step. -/
theorem consistent_reached :
    (setting.reached start capacity turns).view.Consistent := by
  refine Pool.consistent_serve ?_ turns
  rw [Pool.ofWorld, World.stores_setStore_self]
  exact Store.consistent_withCapacity capacity

/-- A store in service has the room that it was opened with. -/
theorem capacity_reached :
    (setting.reached start capacity turns).capacity = max capacity 1 := by
  refine (Pool.capacity_serve ?_ turns).trans ?_ <;>
    rw [Pool.ofWorld, World.stores_setStore_self]
  · exact Store.consistent_withCapacity capacity
  · rfl

/-- A setting whose language models refuse every request. -/
def refusing : Setting Unit :=
  ⟨⟨fun _ _ => 0, fun _ _ state => (.error (.response "busy"), state)⟩, 0,
    fun id => .standard id none⟩

end Setting

/-- A world in which nothing has happened yet. -/
def World.fresh : World Unit :=
  ⟨fun _ => .withCapacity 1, fun _ => none, (), ⟨[], []⟩, 0, default⟩

end PromptTuning
