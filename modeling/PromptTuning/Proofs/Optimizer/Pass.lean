import Mathlib.Data.List.Forall2
import PromptTuning.Concurrency.Schedule
import PromptTuning.Proofs.Optimizer.Pool

/-!
# What a pass does to a variable

A pass over a variable ends in one of three ways. It is refused and leaves the
variable alone, it finds every prediction scored and only returns the variable
to its idle phase, or it attaches the reward, archives the active instructions
and asks the language model exactly once. Whether instructions come out of the
reply decides between success and a failure that keeps what was attached.
-/

namespace PromptTuning

variable {σ : Type}

/-- A prediction after a pass: scored if it was not, and otherwise as it was. -/
structure Prediction.ScoredAt (reward : Double) (before after : Prediction) :
    Prop where
  label : after.label = before.label
  inputs : after.inputs = before.inputs
  outputs : after.outputs = before.outputs
  reward : after.reward = some (before.reward.getD reward)

namespace Optimizer

/-- The world holds no program for an optimizer but the one the optimizer
builds itself. -/
def OwnsProgram (optimizer : Optimizer) (world : World σ) : Prop :=
  ∀ program, world.programs optimizer.id = some program ->
    optimizer.buildProgram = .ok program

end Optimizer

namespace Variable

/-- A reward that is broadcast goes to the predictions that have none. -/
theorem scoredAt_broadcast (reward : Double) (entry : Variable) :
    List.Forall₂ (Prediction.ScoredAt reward) entry.predictions
      (entry.broadcast reward).predictions := by
  rw [broadcast, List.forall₂_map_right_iff, List.forall₂_same]
  intro prediction _
  cases had : prediction.reward with
  | none =>
      constructor <;> simp [Prediction.isUnscored, had, Prediction.withReward]
  | some old => constructor <;> simp [Prediction.isUnscored, had]

/-- A reward is broadcast to nobody where every prediction has one. -/
theorem broadcast_of_scored
    {entry : Variable}
    (scored : entry.unscoredCount = 0)
    (reward : Double) :
    entry.broadcast reward = entry := by
  have kept : ∀ prediction ∈ entry.predictions,
      (if prediction.isUnscored then prediction.withReward reward
        else prediction) =
        id prediction := by
    intro prediction recorded
    have given := List.countP_eq_zero.mp scored prediction recorded
    rw [if_neg given, id]
  rw [broadcast, List.map_congr_left kept, List.map_id]

/-- The variable as a pass leaves it when the generation fails. -/
def scoredAt (reward : Double) (entry : Variable) : Variable :=
  ((entry.broadcast reward).archive reward).inPhase .idle

end Variable

namespace World

/-- An optimizer that owns its program is answered with the program it
builds itself. -/
theorem useProgram_fst_of_ownsProgram
    {optimizer : Optimizer}
    {world : World σ}
    (owns : optimizer.OwnsProgram world) :
    (world.useProgram optimizer).1 = optimizer.buildProgram := by
  unfold useProgram
  cases present : world.programs optimizer.id with
  | some program => simp [owns program present]
  | none => cases optimizer.buildProgram <;> rfl

/-- Looking for a program takes no time. -/
theorem useProgram_clock (world : World σ) (optimizer : Optimizer) :
    (world.useProgram optimizer).2.clock = world.clock := by
  unfold useProgram
  cases world.programs optimizer.id with
  | some program => rfl
  | none => cases optimizer.buildProgram <;> rfl

end World

namespace Optimizer

/-- How a pass ends once its question is answered. -/
def conclude (entry : Variable) (reward : Double) :
    Except OptimizationError (List String) ->
      Except OptimizationError OptimizeReport × Variable
  | .error reason => (.error reason, entry.scoredAt reward)
  | .ok lines =>
      (.ok ⟨entry.unscoredCount, true⟩,
        { entry.scoredAt reward with instructions := some (.ofLines lines) })

/-- How a pass goes on once it knows its program. -/
def proceed (optimizer : Optimizer) (entry : Variable) (reward : Double) :
    Except BuildError Module ->
      Activity (Except OptimizationError OptimizeReport × Variable)
  | .error cause => .done (.error (.build cause), entry)
  | .ok program =>
      if entry.unscoredCount = 0 then
        .done (.ok ⟨0, false⟩, { entry with phase := .idle })
      else
        (optimizer.generate program (entry.scoredAt reward)).bind fun outcome =>
          .done (conclude entry reward outcome)

/-- A pass at an invalid reward is refused at once. -/
theorem optimize_of_invalid
    (optimizer : Optimizer)
    (entry : Variable)
    {reward : Double}
    (invalid : isValidReward reward = false) :
    optimizer.optimize entry reward =
      .done (.error (.invalidReward reward), entry) := by
  simp [optimize, invalid]

/-- A pass over a variable that is not built is refused at once. -/
theorem optimize_of_unbuilt
    (optimizer : Optimizer)
    {entry : Variable}
    {reward : Double}
    (valid : isValidReward reward = true)
    (unbuilt : entry.phase = .unbuilt) :
    optimizer.optimize entry reward =
      .done (.error (.notBuilt entry.key), entry) := by
  simp [optimize, valid, unbuilt, Phase.isBuilt]

/-- A pass over a built variable at a valid reward starts with its program. -/
theorem optimize_of_built
    (optimizer : Optimizer)
    {entry : Variable}
    {reward : Double}
    (valid : isValidReward reward = true)
    (built : entry.phase ≠ .unbuilt) :
    optimizer.optimize entry reward =
      .act (.program optimizer) (optimizer.proceed entry reward) := by
  have isBuilt : entry.phase.isBuilt = true := by simp [Phase.isBuilt, built]
  simp only [optimize, valid, isBuilt, Bool.not_true, Bool.false_eq_true,
    if_false]
  congr 1
  funext answer
  cases answer with
  | error cause => rfl
  | ok program =>
      by_cases scored : entry.unscoredCount = 0
      · have inert : (entry.inPhase .optimizing).unscoredCount = 0 := scored
        have kept := Variable.broadcast_of_scored inert reward
        simp only [proceed, scored, if_true, kept]
        rfl
      · simp only [proceed, scored, if_false]
        -- The question does not show the phase, and the phase of the pass ends
        -- with the answer.
        change (optimizer.generate program (entry.scoredAt reward)).bind _ = _
        congr 1
        funext outcome
        cases outcome <;> rfl

end Optimizer
end PromptTuning
