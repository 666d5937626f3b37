import PromptTuning.Optimizer.Optimize
import PromptTuning.Trainer.Reward

/-!
# Training reports

What became of each variable in an epoch, the report of an epoch and the history
of a run, with summaries of them: the report is summed up with the number of
variables of each outcome, a run with its reports and the rewards that led to
them.
-/

namespace PromptTuning

/-- Why training stops. -/
inductive TrainerError
  | invalidEpochs
  | emptyDataset
  | invalidReward (reward : Double)
  | rewardSource (reason : String)
  | optimization (cause : OptimizationError)
  deriving DecidableEq

namespace TrainerError

/-- The wording of a trainer error. -/
def message : TrainerError -> String
  | .invalidEpochs => "epochs must be > 0"
  | .emptyDataset => "dataset is empty"
  | .invalidReward reward =>
      "batch reward must be a finite value in [0, 1], got " ++ reward.toProse
  | .rewardSource reason => "reward source error: " ++ reason
  | .optimization cause => cause.message

/-- The code of a trainer error. -/
def code : TrainerError -> String
  | .invalidEpochs => "Trainer.InvalidEpochs"
  | .emptyDataset => "Trainer.EmptyDataset"
  | .invalidReward _ => "Trainer.InvalidReward"
  | .rewardSource _ => "Trainer.RewardSource"
  | .optimization cause => "Trainer." ++ cause.code

instance : Diagnostic TrainerError := ⟨code, message, fun _ => []⟩

end TrainerError

/-- What became of a variable in an epoch. -/
inductive Outcome
  | optimized (backpropagated : Nat)
  | noop
  | skipped (reason : String)
  | failed (reason : String)
  deriving DecidableEq

/-- A span of time in a message: whole units with up to nine places
of the next. -/
def renderMilliseconds (milliseconds : Nat) : String :=
  if milliseconds = 0 then "0ns"
  else if milliseconds < 1000 then toString milliseconds ++ "ms"
  else
    let fraction := milliseconds % 1000
    let places := String.ofList
      (((Timestamp.padded 3 fraction).toList.reverse.dropWhile
        (· == '0')).reverse)
    toString (milliseconds / 1000) ++
      (if fraction = 0 then "" else "." ++ places) ++ "s"

namespace Outcome

/-- The outcome of a pass; none stands for a pass that was not done in time. -/
def ofPass (timeout : Nat) :
    Option (Except OptimizationError OptimizeReport) -> Outcome
  | none => .skipped ("timed out after " ++ renderMilliseconds timeout)
  | some (.ok report) =>
      if report.isNoop then .noop else .optimized report.backpropagated
  | some (.error (.notBuilt key)) =>
      .skipped (OptimizationError.notBuilt key).message
  | some (.error reason) => .failed reason.message

/-- The event that tells observers of the outcome of a variable, if
there is one. -/
def event? (epoch : Nat) (key : String) : Outcome -> Option Event
  | .optimized _ => some ⟨.optimized, epoch, some key, "variable", none, .null⟩
  | .noop => none
  | .skipped reason =>
      some ⟨.skipped, epoch, some key, "skipped", some reason, .null⟩
  | .failed reason =>
      some ⟨.skipped, epoch, some key, "failed", some reason, .null⟩

/-- The members that stand for an outcome in the JSON form of a report. -/
def toMembers : Outcome -> Members
  | .optimized backpropagated =>
      [("status", .string "optimized"),
        ("backpropagated", .ofNat backpropagated)]
  | .noop => [("status", .string "no_op")]
  | .skipped reason =>
      [("status", .string "skipped"), ("reason", .string reason)]
  | .failed reason => [("status", .string "failed"), ("error", .string reason)]

end Outcome

/-- The report of one epoch, in storage order of the keys. -/
structure EpochReport where
  epoch : Nat
  reward : Double
  outcomes : List (String × Outcome)

namespace EpochReport

/-- The number of variables with an outcome of a kind. -/
def count (report : EpochReport) (kind : Outcome -> Bool) : Nat :=
  report.outcomes.countP fun (_, outcome) => kind outcome

def optimizedCount (report : EpochReport) : Nat :=
  report.count fun outcome => outcome matches .optimized _

def noopCount (report : EpochReport) : Nat :=
  report.count fun outcome => outcome matches .noop

def skippedCount (report : EpochReport) : Nat :=
  report.count fun outcome => outcome matches .skipped _

def failedCount (report : EpochReport) : Nat :=
  report.count fun outcome => outcome matches .failed _

/-- The outcome of a variable. -/
def outcome? (report : EpochReport) (key : String) : Option Outcome :=
  report.outcomes.lookup key

/-- The event that begins an epoch. -/
def beginEvent (epoch : Nat) (reward : Double) : Event :=
  ⟨.epochBegin, epoch, none, "epoch_begin", none,
    .object [("reward", .ofDouble reward)]⟩

/-- The event that ends an epoch. -/
def endEvent (report : EpochReport) : Event :=
  ⟨.epochEnd, report.epoch, none, "epoch_end", none,
    .object
      [("reward", .ofDouble report.reward),
        ("optimized", .ofNat report.optimizedCount),
        ("noop", .ofNat report.noopCount),
        ("skipped", .ofNat report.skippedCount),
        ("failed", .ofNat report.failedCount)]⟩

/-- The JSON form of what became of the variables. -/
def outcomesToJson (report : EpochReport) : Json :=
  .array (report.outcomes.map fun (key, outcome) =>
    .object (("variable", .string key) :: outcome.toMembers))

/-- Whether each outcome is found under its key. -/
def found (report : EpochReport) : List Bool :=
  report.outcomes.map fun (key, outcome) => report.outcome? key == some outcome

/-- A summary of the report of an epoch. -/
def summary (report : EpochReport) : Json :=
  let counts :=
    [report.optimizedCount, report.noopCount, report.skippedCount,
      report.failedCount]
  .object
    [("epoch", .ofNat report.epoch),
      ("reward", .ofNamedDouble report.reward),
      ("variables", report.outcomesToJson),
      ("counts", .array (counts.map Json.ofNat)),
      ("found", .array (report.found.map .boolean))]

end EpochReport

/-- The reports of a run, oldest first. -/
abbrev History := List EpochReport

namespace History

/-- The rewards of the epochs. -/
def rewards (history : History) : List Double :=
  history.map (·.reward)

/-- How often a variable was optimized, over all epochs. -/
def totalOptimized (history : History) : Nat :=
  (history.map (·.optimizedCount)).foldl (· + ·) 0

/-- A summary of a run. -/
def summary (history : History) : Json :=
  .object
    [("epochs", .array (history.map EpochReport.summary)),
      ("rewards", .array (history.rewards.map Json.ofNamedDouble)),
      ("total_optimized", .ofNat history.totalOptimized),
      ("last", history.getLast?.elim .null fun report => .ofNat report.epoch)]

end History
end PromptTuning
