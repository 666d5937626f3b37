import PromptTuning.Value
import PromptTuning.Variable.Record

/-!
# Rewards and metrics

A reward source supplies the batch reward of each epoch. A metric scores one
output against the expected data; the mean of the scores over a dataset, each
clamped to the range from zero to one, is a valid reward.
-/

namespace PromptTuning

/-- A supply of batch rewards, one for each epoch. -/
inductive RewardSource
  | fixed (reward : Double)
  /-- One reward an epoch; the last one repeats. -/
  | schedule (rewards : List Double)

namespace RewardSource

/-- The reward of an epoch, or why there is none. -/
def reward (source : RewardSource) (epoch : Nat) : Except String Double :=
  match source with
  | .fixed reward => .ok reward
  | .schedule rewards =>
      match (rewards[epoch]?).orElse fun _ => rewards.getLast? with
      | some reward => .ok reward
      | none => .error "reward schedule is empty"

end RewardSource

/-- A score for an output against the expected data. -/
abbrev Metric := Value -> Json -> Double

namespace Metric

/-- One if a field of the output equals that of the expected data, else zero. -/
def exactMatch (field : String) : Metric := fun output expected =>
  match output.field? field, expected.get? field with
  | some actual, some wanted =>
      if actual.same wanted then .one .double else .zero .double
  | _, _ => .zero .double

/-- The same score for every output. -/
def constant (score : Double) : Metric := fun _ _ => score

/-- A score read from the output by a given reader; not a number where it
finds none. -/
def ofField (read : Json -> Option Double) (field : String) : Metric :=
  fun output _ => ((output.field? field).bind read).getD .nan

end Metric

/-- A score brought into the range from zero to one; one that is not finite
counts as none. -/
def clampScore? (score : Double) : Option FiniteDouble :=
  match score with
  | .finite value =>
      if score.lt (.zero .double) then some (.zero .double)
      else if (Binary.one .double).lt score then (Binary.one .double).finite?
      else some value
  | _ => none

/-- The sum of the scores of a dataset, where outputs that failed
have no score. -/
def totalScore (scores : List (Option Double)) : Double :=
  scores.foldl
    (fun total score =>
      match total, score.bind clampScore? with
      | .finite sum, some value => sum.add value
      | total, _ => total)
    (.zero .double)

/-- The mean score of a dataset; a finite total over an infinite
count is zero. -/
def meanScore (scores : List (Option Double)) : Double :=
  match totalScore scores, (Binary.ofInt scores.length : Double) with
  | .finite total, .finite count => total.div count
  | .finite _, _ => .zero .double
  | total, _ => total

end PromptTuning
