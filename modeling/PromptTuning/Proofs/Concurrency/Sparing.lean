import PromptTuning.Concurrency.World
import PromptTuning.Proofs.Store.Entries

/-!
# What actions leave alone

Few actions write variables. All others leave the variables of every store as
they are, whatever they do to locks, to programs or to the state of the language
models.
-/

namespace PromptTuning

variable {σ : Type}

/-- Whether an action may write variables. -/
def Action.writes : Action -> Bool
  | .register _ _ _ | .modify _ _ _ | .commit _ _ => true
  | _ => false

namespace World

/-- The same keys in the same order, and the same variable under every
key but one. -/
structure Spares (store : StoreId) (key : String) (before after : World σ) :
    Prop where
  keys : ∀ id, (after.stores id).keys = (before.stores id).keys
  others : ∀ id other, id ≠ store ∨ other ≠ key ->
    (after.stores id).find? other = (before.stores id).find? other

namespace Spares

variable {store : StoreId} {key : String} {before between after : World σ}

/-- A world spares everything of itself. -/
theorem refl (store : StoreId) (key : String) (world : World σ) :
    Spares store key world world :=
  ⟨fun _ => rfl, fun _ _ _ => rfl⟩

/-- What two changes spare one after the other, both together spare. -/
theorem trans
    (first : Spares store key before between)
    (second : Spares store key between after) :
    Spares store key before after where
  keys id := (second.keys id).trans (first.keys id)
  others id other elsewhere :=
    (second.others id other elsewhere).trans (first.others id other elsewhere)

end Spares

/-- The same variables in every store. -/
def SameEntries (before after : World σ) : Prop :=
  ∀ id, (after.stores id).entries = (before.stores id).entries

namespace SameEntries

variable {before after : World σ}

/-- A world has the variables that it has. -/
theorem refl (world : World σ) : SameEntries world world := fun _ => rfl

/-- Variables that stay the same twice stay the same. -/
theorem trans {final : World σ} (first : SameEntries before after)
    (second : SameEntries after final) : SameEntries before final :=
  fun id => (second id).trans (first id)

/-- The same variables are found under the same keys. -/
theorem find?_eq (same : SameEntries before after) (id : StoreId)
    (key : String) :
    (after.stores id).find? key = (before.stores id).find? key := by
  rw [Store.find?, Store.find?, same id]

/-- Where all variables stay the same, all but any one do. -/
theorem spares (same : SameEntries before after) (store : StoreId)
    (key : String) :
    Spares store key before after where
  keys id := by rw [Store.keys, Store.keys, same id]
  others id other _ := same.find?_eq id other

end SameEntries

/-- Replacing a store by one with its variables changes no variable. -/
theorem sameEntries_setStore {world : World σ} {id : StoreId} {store : Store}
    (entries : store.entries = (world.stores id).entries) :
    SameEntries world (world.setStore id store) := by
  intro other
  by_cases same : other = id
  · subst same
    rw [stores_setStore_self, entries]
  · rw [stores_setStore_of_ne world same]

/-- Looking for a program changes no variable. -/
theorem sameEntries_useProgram (world : World σ) (optimizer : Optimizer) :
    SameEntries world (world.useProgram optimizer).2 := by
  intro id
  unfold useProgram
  cases world.programs optimizer.id with
  | some program => rfl
  | none => cases optimizer.buildProgram <;> rfl

/-- Asking a language model changes no variable. -/
theorem sameEntries_ask
    (host : ModelHost σ)
    (world : World σ)
    (model : LanguageModel)
    (request : GenerationRequest) :
    SameEntries world (world.ask host model request).2 := fun _ => rfl

/-- Letting go of a lock changes no variable. -/
theorem sameEntries_unlock (world : World σ) (owner : Owner) (store : StoreId)
    (key : String) :
    SameEntries world (world.perform owner (.unlock store key)).2 :=
  sameEntries_setStore rfl

/-- An action that does not write changes no variable. -/
theorem sameEntries_perform
    (world : World σ)
    (owner : Owner)
    {action : Action}
    (looks : action.writes = false) :
    SameEntries world (world.perform owner action).2 := by
  cases action with
  | keys store => exact fun _ => rfl
  | read store key => exact fun _ => rfl
  | register store key initial => contradiction
  | modify store key change => contradiction
  | commit store entry => contradiction
  | unlock store key => exact world.sameEntries_unlock owner store key
  | program optimizer => exact world.sameEntries_useProgram optimizer
  | notify event => exact fun _ => rfl

/-- Dropping an activity changes no variable. -/
theorem sameEntries_abandon (world : World σ) (owner : Owner) :
    SameEntries world (world.abandon owner) := fun _ => rfl

/-- A commit in the world is a commit to its store. -/
theorem stores_commit (world : World σ) (owner : Owner) (store : StoreId)
    (entry : Variable) :
    (world.perform owner (.commit store entry)).2.stores store =
      (world.stores store).commit entry world.now :=
  world.stores_setStore_self store _

/-- Letting go of a lock in the world is letting go of it in its store. -/
theorem stores_unlock (world : World σ) (owner : Owner) (store : StoreId)
    (key : String) :
    (world.perform owner (.unlock store key)).2.stores store =
      (world.stores store).releaseLock owner key :=
  world.stores_setStore_self store _

/-- A change in the world is a change of its store. -/
theorem stores_modify
    (world : World σ)
    (owner : Owner)
    (store : StoreId)
    (key : String)
    (change : Change) :
    (world.perform owner (.modify store key change)).2.stores store =
      ((world.stores store).modify key change world.now).2 :=
  world.stores_setStore_self store _

/-- Time stands still while an action is performed. -/
theorem clock_perform (world : World σ) (owner : Owner) (action : Action) :
    (world.perform owner action).2.clock = world.clock := by
  cases action with
  | program optimizer =>
      change (world.useProgram optimizer).2.clock = world.clock
      unfold useProgram
      cases world.programs optimizer.id with
      | some program => rfl
      | none => cases optimizer.buildProgram <;> rfl
  | keys store => rfl
  | read store key => rfl
  | register store key initial => rfl
  | modify store key change => rfl
  | commit store entry => rfl
  | unlock store key => rfl
  | notify event => rfl

end World

end PromptTuning
