import Mathlib.Data.List.Forall2
import PromptTuning.Variable.Basic

/-!
# Variables apart from their dates

A date says when a variable was last written and nothing else. Two variables are
compared here apart from their dates, and two lists of predictions by the
executions they record, whatever the rewards.
-/

namespace PromptTuning

/-- Two records of one execution: the same label, inputs and outputs. -/
structure Prediction.SameExecution (before after : Prediction) : Prop where
  label : after.label = before.label
  inputs : after.inputs = before.inputs
  outputs : after.outputs = before.outputs

/-- A prediction records its own execution. -/
theorem Prediction.SameExecution.refl (prediction : Prediction) :
    prediction.SameExecution prediction :=
  ⟨rfl, rfl, rfl⟩

/-- Records of one execution are so with any number of records in between. -/
theorem Prediction.SameExecution.trans
    {first second third : Prediction}
    (left : first.SameExecution second)
    (right : second.SameExecution third) :
    first.SameExecution third :=
  ⟨right.label.trans left.label, right.inputs.trans left.inputs,
    right.outputs.trans left.outputs⟩

/-- Records of the same executions, one by one. -/
def Prediction.SameExecutions (before after : List Prediction) : Prop :=
  List.Forall₂ Prediction.SameExecution before after

namespace Prediction.SameExecutions

/-- Predictions record their own executions. -/
theorem refl (recorded : List Prediction) : SameExecutions recorded recorded :=
  List.forall₂_same.mpr fun prediction _ => .refl prediction

/-- Records of the same executions are so with any number of records
in between. -/
theorem trans
    {first second third : List Prediction}
    (left : SameExecutions first second)
    (right : SameExecutions second third) :
    SameExecutions first third := by
  induction left generalizing third with
  | nil => exact right
  | cons same _ inductionHypothesis =>
      cases right with
      | cons again others =>
          exact .cons (same.trans again) (inductionHypothesis others)

end Prediction.SameExecutions

namespace Variable

/-- A variable apart from its date. -/
def undated (entry : Variable) : Variable :=
  { entry with updatedAt := default }

@[simp] theorem key_undated (entry : Variable) :
    entry.undated.key = entry.key := rfl

/-- Variables that are the same apart from their dates differ in
nothing else. -/
theorem eq_of_undated_eq {left right : Variable}
    (same : left.undated = right.undated) :
    left = { right with updatedAt := left.updatedAt } := by
  cases left
  cases right
  simpa [undated] using same

/-- A view that does not look at the date shows the same of variables equal
apart from it. -/
theorem view_eq_of_undated_eq
    {α : Type}
    (view : Variable -> α)
    (dateless : ∀ entry : Variable, view entry.undated = view entry)
    {left right : Variable}
    (same : left.undated = right.undated) :
    view left = view right := by
  rw [← dateless left, same, dateless right]

/-- A variable that holds the executions of another one, whatever
their rewards. -/
def KeepsExecutions (before after : Variable) : Prop :=
  Prediction.SameExecutions before.predictions after.predictions

/-- A variable with the same predictions holds their executions. -/
theorem keepsExecutions_of_eq {before after : Variable}
    (same : after.predictions = before.predictions) :
    before.KeepsExecutions after := by
  rw [KeepsExecutions, same]
  exact .refl _

end Variable
end PromptTuning
