import PromptTuning.Module.Basic
import PromptTuning.Optimizer.Basic
import PromptTuning.Store.Locking
import PromptTuning.Trainer.Event

/-!
# Activities

An activity is a computation that can be interrupted. It acts on the shared
world one indivisible action at a time, and it waits in two places only: for the
lock of a key and for the answer of a language model. Between any two steps
other activities may act, and an activity may be abandoned wherever it stands.
-/

namespace PromptTuning

/-- An indivisible action on the shared world. -/
inductive Action
  | keys (store : StoreId)
  | read (store : StoreId) (key : String)
  | register (store : StoreId) (key : String) (initial : Option Instructions)
  | modify (store : StoreId) (key : String) (change : Change)
  | commit (store : StoreId) (entry : Variable)
  | unlock (store : StoreId) (key : String)
  /-- Use the generation program of an optimizer, which is built
  on first use. -/
  | program (optimizer : Optimizer)
  | notify (event : Event)

namespace Action

/-- What an action answers. -/
abbrev Answer : Action -> Type
  | .keys _ => List String
  | .read _ _ => Option Variable
  | .register _ _ _ => Bool
  | .modify _ _ _ => Except StoreError Variable
  | .commit _ _ => Unit
  | .unlock _ _ => Unit
  | .program _ => Except BuildError Module
  | .notify _ => Unit

end Action

/-- A computation that acts on the world and may have to wait. -/
inductive Activity (α : Type)
  | done (result : α)
  | act (action : Action) (resume : action.Answer -> Activity α)
  | lock
      (store : StoreId)
      (key : String)
      (resume : Except StoreError Unit -> Activity α)
  | generate
      (model : LanguageModel)
      (request : GenerationRequest)
      (resume : Except LanguageModelError Value -> Activity α)

namespace Activity

/-- Run an activity and go on with its result. -/
def bind {α β : Type} (next : α -> Activity β) : Activity α -> Activity β
  | .done result => next result
  | .act action resume => .act action fun answer => (resume answer).bind next
  | .lock store key resume =>
      .lock store key fun outcome => (resume outcome).bind next
  | .generate model request resume =>
      .generate model request fun outcome => (resume outcome).bind next

instance : Monad Activity where
  pure := .done
  bind activity next := activity.bind next

@[simp] theorem bind_done {α β : Type} (next : α -> Activity β) (result : α) :
    (done result).bind next = next result := rfl

theorem bind_pure {α : Type} (activity : Activity α) :
    activity.bind done = activity := by
  induction activity with
  | done => rfl
  | act action resume ih => simp only [bind, ih]
  | lock store key resume ih => simp only [bind, ih]
  | generate model request resume ih => simp only [bind, ih]

theorem bind_assoc
    {α β γ : Type}
    (activity : Activity α)
    (first : α -> Activity β)
    (second : β -> Activity γ) :
    (activity.bind first).bind second =
      activity.bind fun result => (first result).bind second := by
  induction activity with
  | done => rfl
  | act action resume ih => simp only [bind, ih]
  | lock store key resume ih => simp only [bind, ih]
  | generate model request resume ih => simp only [bind, ih]

instance : LawfulMonad Activity :=
  LawfulMonad.mk' Activity bind_pure (fun result next => bind_done next result)
    bind_assoc

/-- Perform one action. -/
def perform (action : Action) : Activity action.Answer :=
  .act action .done

/-- Hold the lock of a key while an activity runs. -/
def withLock
    {ε α : Type}
    (store : StoreId)
    (key : String)
    (refusal : StoreError -> ε)
    (body : Activity (Except ε α)) :
    Activity (Except ε α) :=
  .lock store key fun
    | .error reason => .done (.error (refusal reason))
    | .ok _ => do
        let result ← body
        perform (.unlock store key)
        return result

/-- Change one stored variable under its lock. -/
def modify (store : StoreId) (key : String) (change : Change) :
    Activity (Except StoreError Variable) :=
  withLock store key id (perform (.modify store key change))

/-- Append a prediction to a stored variable; answers its index. -/
def append (store : StoreId) (key : String) (prediction : Prediction) :
    Activity (Except StoreError Nat) := do
  return (← modify store key (.append prediction)).map fun entry =>
    entry.predictions.length - 1

/-- Attach a reward to a recorded prediction; an invalid one is refused
without waiting. -/
def attach (store : StoreId) (key : String) (index : Nat) (reward : Double) :
    Activity (Except StoreError Unit) :=
  if isValidReward reward then do
    return (← modify store key (.attach index reward)).map fun _ => ()
  else .done (.error (.invalidReward reward))

/-- Update some fields of a stored variable; answers the committed variable. -/
def update (store : StoreId) (key : String) (content : VariableUpdate) :
    Activity (Except StoreError Variable) :=
  modify store key (.update content)

end Activity

end PromptTuning
