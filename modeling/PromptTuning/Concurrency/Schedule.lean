import PromptTuning.Concurrency.World

/-!
# Running activities in virtual time

Time passes only while every activity waits. A single activity runs until it is
done or until a limit: it is abandoned when it would wait past the limit, or for
a lock that nobody else is going to release. Several tasks run side by side,
each with its own deadline; they are started in order, and those that wake at
the same moment go on in that order.
-/

namespace PromptTuning

variable {σ : Type}

namespace Activity

/-- Run an activity alone until it is done; none if it was abandoned
at the limit. -/
def run {α : Type} (host : ModelHost σ) (owner : Owner) (limit : Nat) :
    Activity α -> World σ -> Option α × World σ
  | .done result, world => (some result, world)
  | .act action resume, world =>
      let (answer, after) := world.perform owner action
      (resume answer).run host owner limit after
  | .lock store key resume, world =>
      match (world.stores store).requestLock owner key with
      | .refused reason => (resume (.error reason)).run host owner limit world
      | .granted after =>
          (resume (.ok ())).run host owner limit (world.setStore store after)
      | .queued _ => (none, (world.abandon owner).atClock limit)
  | .generate model request resume, world =>
      let due := world.clock + host.wait world.models model request
      if due ≤ limit then
        let (answer, after) := (world.atClock due).ask host model request
        (resume answer).run host owner limit after
      else (none, (world.abandon owner).atClock limit)

/-- Where an activity stands when it has to wait. -/
inductive Pause (α : Type)
  | finished (result : α)
  | awaitingLock
      (store : StoreId)
      (key : String)
      (resume : Except StoreError Unit -> Activity α)
  | awaitingModel
      (due : Nat)
      (model : LanguageModel)
      (request : GenerationRequest)
      (resume : Except LanguageModelError Value -> Activity α)

/-- Run an activity until it has to wait. -/
def advance {α : Type} (host : ModelHost σ) (owner : Owner) :
    Activity α -> World σ -> Pause α × World σ
  | .done result, world => (.finished result, world)
  | .act action resume, world =>
      let (answer, after) := world.perform owner action
      (resume answer).advance host owner after
  | .lock store key resume, world =>
      match (world.stores store).requestLock owner key with
      | .refused reason => (resume (.error reason)).advance host owner world
      | .granted after =>
          (resume (.ok ())).advance host owner (world.setStore store after)
      | .queued after =>
          (.awaitingLock store key resume, world.setStore store after)
  | .generate model request resume, world =>
      if host.wait world.models model request = 0 then
        let (answer, after) := world.ask host model request
        (resume answer).advance host owner after
      else
        let due := world.clock + host.wait world.models model request
        (.awaitingModel due model request resume, world)

end Activity

/-- An activity to run beside others, and what it leads to once it ends or its
time is up. -/
structure Task (α β : Type) where
  owner : Owner
  /-- The moment at which the task is abandoned. -/
  deadline : Nat
  body : Activity α
  /-- What is done with the result, none if the task was abandoned; it
  must not wait. -/
  finish : Option α -> Activity β

/-- A task that has been started. -/
structure RunningTask (α β : Type) where
  task : Task α β
  pause : Activity.Pause α
  /-- What the task has led to, once it has ended. -/
  outcome : Option β

namespace RunningTask

variable {α β : Type}

/-- Whether a task goes on at a moment, because it can or because its
time is up. -/
def isDue (world : World σ) (clock : Nat) (running : RunningTask α β) : Bool :=
  running.outcome.isNone &&
    (running.task.deadline ≤ clock ||
      match running.pause with
      | .finished _ => true
      | .awaitingLock store key _ =>
          (world.stores store).isHolder running.task.owner key
      | .awaitingModel due _ _ _ => due ≤ clock)

/-- The next moment at which a task goes on by itself. -/
def nextDue (world : World σ) (running : RunningTask α β) : Option Nat :=
  if running.outcome.isSome then none
  else
    match running.pause with
    | .finished _ => some world.clock
    | .awaitingLock store key _ =>
        if (world.stores store).isHolder running.task.owner key then
          some world.clock
        else some running.task.deadline
    | .awaitingModel due _ _ _ => some (min due running.task.deadline)

/-- Settle a task that has ended. -/
def settle (host : ModelHost σ) (task : Task α β) (pause : Activity.Pause α)
    (world : World σ) :
    RunningTask α β × World σ :=
  match pause with
  | .finished result =>
      match (task.finish (some result)).advance host task.owner world with
      | (.finished outcome, after) => (⟨task, pause, some outcome⟩, after)
      | (_, after) => (⟨task, pause, none⟩, after)
  | _ => (⟨task, pause, none⟩, world)

/-- Abandon a task whose time is up. -/
def expire (host : ModelHost σ) (running : RunningTask α β) (world : World σ) :
    RunningTask α β × World σ :=
  let task := running.task
  match (task.finish none).advance host task.owner
    (world.abandon task.owner) with
  | (.finished outcome, after) =>
      ({ running with outcome := some outcome }, after)
  | (_, after) => (running, after)

/-- Go on with a task that is due. -/
def wake (host : ModelHost σ) (running : RunningTask α β) (world : World σ) :
    RunningTask α β × World σ :=
  let task := running.task
  let goOn (activity : Activity α) (world : World σ) :
      RunningTask α β × World σ :=
    let (pause, after) := activity.advance host task.owner world
    match pause with
    | .finished _ => settle host task pause after
    | _ =>
        if task.deadline ≤ world.clock then
          expire host ⟨task, pause, none⟩ after
        else (⟨task, pause, none⟩, after)
  match running.pause with
  | .finished _ => settle host task running.pause world
  | .awaitingLock store key resume =>
      if (world.stores store).isHolder task.owner key then
        goOn (resume (.ok ())) world
      else expire host running world
  | .awaitingModel due model request resume =>
      if due ≤ world.clock then
        let (answer, after) := world.ask host model request
        goOn (resume answer) after
      else expire host running world

/-- Start a task; one that has to wait is abandoned if it has no
time to do so. -/
def start (host : ModelHost σ) (task : Task α β) (world : World σ) :
    RunningTask α β × World σ :=
  let (pause, after) := task.body.advance host task.owner world
  match pause with
  | .finished _ => settle host task pause after
  | _ =>
      if task.deadline ≤ world.clock then expire host ⟨task, pause, none⟩ after
      else (⟨task, pause, none⟩, after)

end RunningTask

namespace Task

variable {α β : Type}

/-- Start tasks in order. -/
def startAll (host : ModelHost σ) :
    List (Task α β) -> World σ -> List (RunningTask α β) × World σ
  | [], world => ([], world)
  | task :: rest, world =>
      let (running, after) := RunningTask.start host task world
      let (others, final) := startAll host rest after
      (running :: others, final)

/-- Go on with the tasks that are due, in order. -/
def wakeAll (host : ModelHost σ) :
    List (RunningTask α β) -> World σ -> List (RunningTask α β) × World σ
  | [], world => ([], world)
  | running :: rest, world =>
      let (awake, after) :=
        if running.isDue world world.clock then running.wake host world
        else (running, world)
      let (others, final) := wakeAll host rest after
      (awake :: others, final)

/-- The outcomes of tasks, if all have ended. -/
def outcomes? (running : List (RunningTask α β)) : Option (List β) :=
  running.mapM (·.outcome)

/-- Let go of everything that tasks hold. -/
def abandonAll (running : List (RunningTask α β)) (world : World σ) : World σ :=
  running.foldl (fun world running => world.abandon running.task.owner) world

/-- Let time pass until all tasks have ended; a round wakes the tasks of
one moment. -/
def rounds (host : ModelHost σ) (limit : Nat) :
    Nat -> List (RunningTask α β) -> World σ -> Option (List β) × World σ
  | 0, running, world => (outcomes? running, abandonAll running world)
  | round + 1, running, world =>
      match outcomes? running with
      | some outcomes => (some outcomes, world)
      | none =>
          match (running.filterMap (·.nextDue world)).min? with
          | none => (none, abandonAll running world)
          | some next =>
              if next ≤ limit then
                let (awake, after) :=
                  wakeAll host running (world.atClock (max next world.clock))
                rounds host limit round awake after
              else (none, (abandonAll running world).atClock limit)

/-- Run tasks side by side; none if they were abandoned at the limit. -/
def runAll
    (host : ModelHost σ)
    (limit : Nat)
    (waits : Nat)
    (tasks : List (Task α β))
    (world : World σ) :
    Option (List β) × World σ :=
  let (running, after) := startAll host tasks world
  rounds host limit (tasks.length * (waits + 2) + 1) running after

end Task

end PromptTuning
