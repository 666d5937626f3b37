import PromptTuning.Proofs.Optimizer.Result
import PromptTuning.Proofs.Variable.Rewards

/-!
# Rewards and passes

A pass brings its own reward to a variable and no other: to predictions without
one and to the instructions it replaces. Building and finalizing a variable
bring none.
-/

namespace PromptTuning

namespace Variable

variable {entry : Variable} {reward held : Double}

/-- Building a variable touches none of its rewards. -/
theorem rewards_built (entry : Variable) :
    entry.built.rewards = entry.rewards := by
  unfold built
  split <;> rfl

/-- Finalizing a variable drops rewards and adds none. -/
theorem rewards_finalized_subset (entry : Variable) :
    entry.finalized.rewards ⊆ entry.rewards := by
  intro reward held
  obtain recorded | active | ⟨set, listed, _⟩ := mem_rewards.mp held
  · exact mem_rewards.mpr (.inl recorded)
  · exact mem_rewards.mpr (.inr (.inl active))
  · exact absurd listed List.not_mem_nil

/-- A prediction that has been scored has the reward of the pass or its own. -/
theorem mem_rewards_of_broadcast
    {prediction : Prediction}
    (listed : prediction ∈ (entry.broadcast reward).predictions)
    (own : prediction.reward = some held) :
    held = reward ∨ held ∈ entry.rewards := by
  obtain ⟨before, recorded, rfl⟩ := List.mem_map.mp listed
  split at own
  · exact .inl (Option.some.inj own).symm
  · exact .inr (mem_rewards_of_prediction recorded own)

/-- Scoring brings no reward but the one of the pass. -/
theorem mem_rewards_of_scoredAt
    (scored : held ∈ (entry.scoredAt reward).rewards) :
    held = reward ∨ held ∈ entry.rewards := by
  obtain ⟨prediction, listed, own⟩ | active | ⟨set, listed, own⟩ :=
    mem_rewards.mp scored
  · exact mem_rewards_of_broadcast listed own
  · exact .inr (mem_rewards.mpr (.inr (.inl active)))
  · obtain before | archived := List.mem_append.mp listed
    · exact .inr (mem_rewards_of_candidate before own)
    · obtain ⟨active, _, rfl⟩ :=
        Option.map_eq_some_iff.mp (Option.mem_toList.mp archived)
      exact .inl (Option.some.inj own).symm

end Variable

/-- Whatever a pass comes to, it brings its own reward only. -/
theorem Optimizer.PassResult.mem_rewards
    {entry : Variable}
    {reward held : Double}
    {result : Except OptimizationError OptimizeReport × Variable}
    (passed : PassResult entry reward result)
    (left : held ∈ result.2.rewards) :
    held = reward ∨ held ∈ entry.rewards := by
  cases passed with
  | refused => exact .inr left
  | idled => exact .inr left
  | asked outcome =>
      cases outcome with
      | error reason => exact Variable.mem_rewards_of_scoredAt left
      | ok lines =>
          refine Variable.mem_rewards_of_scoredAt (Variable.mem_rewards.mpr ?_)
          obtain recorded | fresh | superseded := Variable.mem_rewards.mp left
          · exact .inl recorded
          · exact absurd fresh List.not_mem_nil
          · exact .inr (.inr superseded)

end PromptTuning
