import PromptTuning.Optimizer.Optimize

/-!
# The shared world

The world holds what activities share: stores, the generation programs already
built, the state of the language models, the observers and the clock. Language
models are hosted by an arbitrary machine, so that a statement about activities
is a statement about every behaviour of the models.
-/

namespace PromptTuning

/-- How long the single requests to models take, which is no longer than the
delay of the model. -/
class Pace {σ : Type} (delay : σ -> LanguageModel -> Nat) where
  wait : σ -> LanguageModel -> GenerationRequest -> Nat
  wait_le : ∀ state model request, wait state model request ≤ delay state model

/-- All requests to a model take equally long unless a host says otherwise. -/
instance {σ : Type} (delay : σ -> LanguageModel -> Nat) : Pace delay where
  wait state model _ := delay state model
  wait_le _ _ _ := Nat.le_refl _

/-- How language models behave: how long they take and what they answer. -/
structure ModelHost (σ : Type) where
  /-- Milliseconds until a request is handled, at most. -/
  delay : σ -> LanguageModel -> Nat
  [pace : Pace delay]
  /-- The answer to a request at the moment it is handled. -/
  handle :
    LanguageModel -> GenerationRequest -> σ ->
    Except LanguageModelError Value × σ

/-- Milliseconds until a request is handled. -/
def ModelHost.wait
    {σ : Type}
    (host : ModelHost σ)
    (state : σ)
    (model : LanguageModel)
    (request : GenerationRequest) :
    Nat :=
  host.pace.wait state model request

theorem ModelHost.wait_le
    {σ : Type}
    (host : ModelHost σ)
    (state : σ)
    (model : LanguageModel)
    (request : GenerationRequest) :
    host.wait state model request ≤ host.delay state model :=
  host.pace.wait_le state model request

/-- The state that activities share. -/
structure World (σ : Type) where
  stores : StoreId -> Store
  /-- The generation programs that are built or were supplied. -/
  programs : OptimizerId -> Option Module
  models : σ
  observers : Observers
  /-- Milliseconds since the start. -/
  clock : Nat
  /-- The date that committed writes are stamped with. -/
  now : Timestamp

namespace World

variable {σ : Type}

/-- The world with one store replaced. -/
def setStore (world : World σ) (id : StoreId) (store : Store) : World σ :=
  { world with
    stores := fun other => if other = id then store else world.stores other }

@[simp] theorem stores_setStore_self (world : World σ) (id : StoreId)
    (store : Store) :
    (world.setStore id store).stores id = store := by
  simp [setStore]

@[simp] theorem stores_setStore_of_ne
    (world : World σ)
    {id other : StoreId}
    (different : other ≠ id)
    (store : Store) :
    (world.setStore id store).stores other = world.stores other := by
  simp [setStore, different]

/-- The world with the generation program of one optimizer set. -/
def setProgram (world : World σ) (id : OptimizerId) (program : Module) :
    World σ :=
  { world with
    programs := fun other =>
      if other = id then some program else world.programs other }

/-- The generation program of an optimizer, built if it is not there yet. -/
def useProgram (world : World σ) (optimizer : Optimizer) :
    Except BuildError Module × World σ :=
  match world.programs optimizer.id with
  | some program => (.ok program, world)
  | none =>
      match optimizer.buildProgram with
      | .error cause => (.error cause, world)
      | .ok program => (.ok program, world.setProgram optimizer.id program)

/-- Perform an action on behalf of a task. -/
def perform (world : World σ) (owner : Owner) :
    (action : Action) -> action.Answer × World σ
  | .keys store => ((world.stores store).keys, world)
  | .read store key => ((world.stores store).find? key, world)
  | .register store key initial =>
      let (created, after) :=
        (world.stores store).register key initial world.now
      (created, world.setStore store after)
  | .modify store key change =>
      let (outcome, after) := (world.stores store).modify key change world.now
      (outcome, world.setStore store after)
  | .commit store entry =>
      ((), world.setStore store ((world.stores store).commit entry world.now))
  | .unlock store key =>
      ((), world.setStore store ((world.stores store).releaseLock owner key))
  | .program optimizer => world.useProgram optimizer
  | .notify event =>
      ((), { world with observers := world.observers.notify event })

/-- Let go of every lock that a task holds or awaits. -/
def abandon (world : World σ) (owner : Owner) : World σ :=
  { world with stores := fun id => (world.stores id).releaseAll owner }

/-- The world at a later moment. -/
def atClock (world : World σ) (clock : Nat) : World σ :=
  { world with clock := clock }

/-- Have a language model handle a request. -/
def ask (host : ModelHost σ) (world : World σ) (model : LanguageModel)
    (request : GenerationRequest) :
    Except LanguageModelError Value × World σ :=
  let (answer, models) := host.handle model request world.models
  (answer, { world with models := models })

end World

end PromptTuning
