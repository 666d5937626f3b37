import PromptTuning.Concurrency.Schedule
import PromptTuning.Trainer.Report

/-!
# Training runs

An epoch applies one batch reward to every stored variable: all are optimized
side by side, each within a time limit, and then finalized one after another. A
run goes through a number of epochs, with rewards from a source or from the mean
score of a program over a dataset. A run that would wait past its limit is
abandoned, and what it committed before stays.
-/

namespace PromptTuning

/-- An optimizer at work on the variables of a store. -/
structure Trainer where
  optimizer : Optimizer
  store : StoreId
  /-- The longest a pass over one variable may take, in milliseconds. -/
  timeout : Nat
  finalizeOnEpochEnd : Bool

/-- A labeled input. -/
structure Example where
  input : Value
  expected : Json

/-- A computation on the world that may be abandoned. -/
abbrev Run (σ : Type) := OptionT (StateM (World σ))

namespace Run

variable {σ α : Type}

/-- The task that runs in the foreground. -/
def foreground : Owner := 1

/-- The first task that runs beside others. -/
def firstTask : Owner := 2

/-- Run an activity in the foreground. -/
def activity (host : ModelHost σ) (limit : Nat) (body : Activity α) : Run σ α :=
  OptionT.mk fun world => body.run host foreground limit world

/-- Run tasks side by side. -/
def sideBySide
    {β : Type}
    (host : ModelHost σ)
    (limit waits : Nat)
    (tasks : List (Task α β)) :
    Run σ (List β) :=
  OptionT.mk fun world => Task.runAll host limit waits tasks world

end Run

namespace Trainer

variable {σ : Type}

/-- The pass over one variable as a task, with the event it leads to. -/
def passTask
    (trainer : Trainer)
    (clock epoch : Nat)
    (reward : Double)
    (key : String)
    (index : Nat) :
    Task (Except OptimizationError OptimizeReport) Outcome where
  owner := Run.firstTask + index
  deadline := clock + trainer.timeout
  body := trainer.optimizer.optimizeStored trainer.store key reward
  finish result :=
    let outcome := Outcome.ofPass trainer.timeout result
    match outcome.event? epoch key with
    | some event => do
        Activity.perform (.notify event)
        return outcome
    | none => pure outcome

/-- The number of questions a pass asks at most. -/
def questionCount (trainer : Trainer) (world : World σ) : Nat :=
  match world.programs trainer.optimizer.id with
  | some program => program.questionCount
  | none => 1

/-- Finalize variables one after another; failures are passed over. -/
def finalizeAll (trainer : Trainer) : List String -> Activity Unit
  | [] => pure ()
  | key :: rest => do
      let _ ← Optimizer.finalizeStored trainer.store key
      trainer.finalizeAll rest

/-- One pass over every stored variable, then finalization. -/
def runEpoch
    (trainer : Trainer)
    (host : ModelHost σ)
    (limit epoch : Nat)
    (reward : Double) :
    Run σ (Except TrainerError EpochReport) := do
  if !isValidReward reward then return .error (.invalidReward reward)
  Run.activity host limit
    (Activity.perform (.notify (EpochReport.beginEvent epoch reward)))
  let keys ← Run.activity host limit (Activity.perform (.keys trainer.store))
  let world ← getThe (World σ)
  let tasks := keys.zipIdx.map fun (key, index) =>
    trainer.passTask world.clock epoch reward key index
  let outcomes ← Run.sideBySide host limit (trainer.questionCount world) tasks
  if trainer.finalizeOnEpochEnd then
    Run.activity host limit (trainer.finalizeAll keys)
  let report : EpochReport := ⟨epoch, reward, keys.zip outcomes⟩
  Run.activity host limit (Activity.perform (.notify report.endEvent))
  return .ok report

/-- Build every stored variable. -/
def build (trainer : Trainer) (host : ModelHost σ) (limit : Nat) :
    Run σ (Except TrainerError Unit) := do
  return (← Run.activity host limit
    (trainer.optimizer.buildStored trainer.store)).mapError .optimization

/-- Run epochs one after another with rewards found by the way. -/
def runEpochs
    (trainer : Trainer)
    (host : ModelHost σ)
    (limit : Nat)
    (reward : Nat -> Run σ (Except String Double)) :
    List Nat -> Run σ (Except TrainerError History)
  | [] => return .ok []
  | epoch :: rest => do
      match ← reward epoch with
      | .error reason => return .error (.rewardSource reason)
      | .ok batchReward =>
          match ← trainer.runEpoch host limit epoch batchReward with
          | .error cause => return .error cause
          | .ok report =>
              return (← trainer.runEpochs host limit reward rest).map
                (report :: ·)

/-- Train for a number of epochs with rewards from a source. -/
def fit
    (trainer : Trainer)
    (host : ModelHost σ)
    (limit epochs : Nat)
    (rewards : RewardSource) :
    Run σ (Except TrainerError History) := do
  if epochs = 0 then return .error .invalidEpochs
  match ← trainer.build host limit with
  | .error cause => return .error cause
  | .ok _ =>
      trainer.runEpochs host limit (fun epoch => return rewards.reward epoch)
        (List.range epochs)

/-- The scores of a program over a dataset; a call that fails has none. -/
def evaluate
    (host : ModelHost σ)
    (limit : Nat)
    (program : Module)
    (metric : Metric) :
    List Example -> Run σ (List (Option Double))
  | [] => return []
  | item :: rest => do
      let score ←
        match ← Run.activity host limit (program.call true item.input) with
          | .ok output => pure (some (metric output item.expected))
          | .error _ => pure none
      return score :: (← evaluate host limit program metric rest)

/-- Train for a number of epochs with the mean score of a program as
the reward. -/
def fitProgram
    (trainer : Trainer)
    (host : ModelHost σ)
    (limit : Nat)
    (program : Module)
    (dataset : List Example)
    (epochs : Nat)
    (metric : Metric) :
    Run σ (Except TrainerError History) := do
  if epochs = 0 then return .error .invalidEpochs
  if dataset.isEmpty then return .error .emptyDataset
  match ← trainer.build host limit with
  | .error cause => return .error cause
  | .ok _ =>
      trainer.runEpochs host limit
        (fun _ =>
          return .ok (meanScore (← evaluate host limit program metric dataset)))
        (List.range epochs)

end Trainer

end PromptTuning
