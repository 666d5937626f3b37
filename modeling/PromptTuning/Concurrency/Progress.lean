import PromptTuning.Concurrency.Schedule

/-!
# Activities step by step

The progress of an activity is what it has left to do, or the lock it waits for.
One step performs one indivisible action, takes up a lock, or has a question
answered by a language model; between two steps anything may happen. The
schedules of this library only ever take such steps.

The members of a crew work in one world, and in any order: a turn lets one of
them take one step, or the date change.
-/

namespace PromptTuning

variable {σ : Type}

/-- How far an activity has come: it can go on, or it waits for a lock. -/
inductive Progress (α : Type)
  | active (rest : Activity α)
  | waiting
      (store : StoreId)
      (key : String)
      (resume : Except StoreError Unit -> Activity α)

/-- What an activity did and was told: an action at some date, or a question. -/
inductive Exchange
  | acted (now : Timestamp) (action : Action) (answer : action.Answer)
  | replied
      (model : LanguageModel)
      (request : GenerationRequest)
      (reply : Except LanguageModelError Value)

namespace Progress

variable {α : Type}

/-- Take one step; one that cannot be taken leaves everything as it is. -/
def step (host : ModelHost σ) (owner : Owner) :
    Progress α -> World σ -> Progress α × World σ
  | .active (.done result), world => (.active (.done result), world)
  | .active (.act action resume), world =>
      (.active (resume (world.perform owner action).1),
        (world.perform owner action).2)
  | .active (.lock store key resume), world =>
      match (world.stores store).requestLock owner key with
      | .refused reason => (.active (resume (.error reason)), world)
      | .granted after =>
          (.active (resume (.ok ())), world.setStore store after)
      | .queued after => (.waiting store key resume, world.setStore store after)
  | .active (.generate model request resume), world =>
      (.active (resume (world.ask host model request).1),
        (world.ask host model request).2)
  | .waiting store key resume, world =>
      if (world.stores store).isHolder owner key then
        (.active (resume (.ok ())), world)
      else (.waiting store key resume, world)

/-- What is done and told in one step. -/
def exchanged (host : ModelHost σ) (owner : Owner) (world : World σ) :
    Progress α -> List Exchange
  | .active (.act action _) =>
      [.acted world.now action (world.perform owner action).1]
  | .active (.generate model request _) =>
      [.replied model request (world.ask host model request).1]
  | _ => []

/-- Take several steps without anybody in between. -/
def steps (host : ModelHost σ) (owner : Owner) :
    Nat -> Progress α -> World σ -> Progress α × World σ
  | 0, progress, world => (progress, world)
  | count + 1, progress, world =>
      steps host owner count (progress.step host owner world).1
        (progress.step host owner world).2

/-- The progress of an activity that a schedule has paused. -/
def ofPause : Activity.Pause α -> Progress α
  | .finished result => .active (.done result)
  | .awaitingLock store key resume => .waiting store key resume
  | .awaitingModel _ model request resume =>
      .active (.generate model request resume)

/-- What an activity came to, if it is done. -/
def outcome? : Progress α -> Option α
  | .active (.done outcome) => some outcome
  | _ => none

end Progress

/-- Activities at work in one world, each on behalf of its owner. -/
structure Crew (σ α : Type) where
  world : World σ
  members : List (Owner × Progress α)

namespace Crew

variable {α β : Type}

/-- What can happen next. -/
inductive Turn
  | member (index : Nat)
  | date (now : Timestamp)
  deriving DecidableEq

/-- Let one member take a step, or the date change. -/
def take (host : ModelHost σ) (crew : Crew σ α) : Turn -> Crew σ α
  | .member index =>
      match crew.members[index]? with
      | none => crew
      | some (owner, progress) =>
          let (next, world) := progress.step host owner crew.world
          ⟨world, crew.members.set index (owner, next)⟩
  | .date now => { crew with world := { crew.world with now := now } }

/-- Take some turns. -/
def run (host : ModelHost σ) (turns : List Turn) (crew : Crew σ α) : Crew σ α :=
  turns.foldl (take host) crew

/-- What the members came to, if all of them are done. -/
def outcomes? (crew : Crew σ α) : Option (List α) :=
  crew.members.mapM (·.2.outcome?)

/-- Tasks that are about to start, each with what it leads to once
it is done. -/
def ofTasks (tasks : List (Task α β)) (world : World σ) : Crew σ β :=
  ⟨world, tasks.map fun task =>
    (task.owner,
      .active (task.body.bind fun result => task.finish (some result)))⟩

end Crew
end PromptTuning
