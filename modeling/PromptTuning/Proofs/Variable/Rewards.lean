import Mathlib.Data.List.Basic
import PromptTuning.Store.Basic

/-!
# The rewards of a variable

The rewards a variable holds are those of its predictions, of its active
instruction set and of its candidates. A change of a variable leaves no other
rewards than it had and than the change brings in.
-/

namespace PromptTuning

/-- The reward of an instruction set, if there are both. -/
def rewardsOf (set : Option Instructions) : List Double :=
  (set.bind (·.reward)).toList

namespace Variable

/-- The rewards of a variable: of its predictions, its active instructions and
its candidates. -/
def rewards (entry : Variable) : List Double :=
  entry.predictions.filterMap (·.reward) ++ rewardsOf entry.instructions ++
    entry.candidates.filterMap (·.reward)

variable {entry : Variable} {reward : Double}

/-- The rewards of a variable are those of its predictions, its instructions and
its candidates. -/
theorem mem_rewards :
    reward ∈ entry.rewards ↔
      (∃ prediction ∈ entry.predictions, prediction.reward = some reward) ∨
        reward ∈ rewardsOf entry.instructions ∨
          ∃ set ∈ entry.candidates, set.reward = some reward := by
  simp [rewards]

/-- The reward of a listed prediction is one of the variable's. -/
theorem mem_rewards_of_prediction
    {prediction : Prediction}
    (listed : prediction ∈ entry.predictions)
    (held : reward ∈ prediction.reward) :
    reward ∈ entry.rewards :=
  mem_rewards.mpr (.inl ⟨prediction, listed, held⟩)

/-- The reward of the instructions in use is one of the variable's. -/
theorem mem_rewards_of_instructions
    {set : Instructions}
    (active : set ∈ entry.instructions)
    (held : reward ∈ set.reward) :
    reward ∈ entry.rewards := by
  refine mem_rewards.mpr (.inr (.inl ?_))
  rw [rewardsOf, Option.mem_toList, Option.bind_eq_some_iff]
  exact ⟨set, active, held⟩

/-- The reward of a candidate is one of the variable's. -/
theorem mem_rewards_of_candidate
    {set : Instructions}
    (listed : set ∈ entry.candidates)
    (held : reward ∈ set.reward) :
    reward ∈ entry.rewards :=
  mem_rewards.mpr (.inr (.inr ⟨set, listed, held⟩))

/-- A registered variable has no rewards but those of its first instructions. -/
theorem rewards_create (key : String) (now : Timestamp)
    (initial : Option Instructions) :
    (({ create key now with instructions := initial } : Variable).touch
      now).rewards =
      rewardsOf initial := by
  simp [rewards, create, touch]

end Variable

namespace VariableUpdate

/-- The rewards that an update brings in. -/
def rewards (content : VariableUpdate) : List Double :=
  (content.predictions.getD []).filterMap (·.reward) ++
    rewardsOf (content.instructions.getD none) ++
    (content.candidates.getD []).filterMap (·.reward)

end VariableUpdate

/-- A field that is given takes the place of the old one. -/
theorem Variable.rewards_subset_of_update (content : VariableUpdate)
    (entry : Variable) {reward : Double}
    (held : reward ∈ (entry.apply content).rewards) :
    reward ∈ content.rewards ∨ reward ∈ entry.rewards := by
  obtain ⟨predictions, instructions, candidates, phase⟩ := content
  simp only [rewards, VariableUpdate.rewards, apply, List.mem_append] at held ⊢
  obtain (recorded | active) | superseded := held
  · cases predictions with
    | none => exact .inr (.inl (.inl recorded))
    | some given => exact .inl (.inl (.inl recorded))
  · cases instructions with
    | none => exact .inr (.inl (.inr active))
    | some given => exact .inl (.inl (.inr active))
  · cases candidates with
    | none => exact .inr (.inr superseded)
    | some given => exact .inl (.inr superseded)

namespace Change

/-- The rewards that a change brings in. -/
def rewards : Change -> List Double
  | .append prediction => prediction.reward.toList
  | .attach _ reward => [reward]
  | .update content => content.rewards

/-- A changed variable holds what it had and what the change brings in. -/
theorem rewards_subset_of_apply
    {change : Change}
    {entry changed : Variable}
    (applied : change.apply entry = .ok changed) :
    changed.rewards ⊆ change.rewards ++ entry.rewards := by
  intro reward held
  rw [List.mem_append]
  cases change with
  | append prediction =>
      obtain rfl := Except.ok.inj applied
      obtain ⟨recorded, listed, own⟩ | others := Variable.mem_rewards.mp held
      · obtain before | new := List.mem_append.mp listed
        · exact .inr (Variable.mem_rewards_of_prediction before own)
        · obtain rfl := List.mem_singleton.mp new
          exact .inl (Option.mem_toList.mpr own)
      · exact .inr (Variable.mem_rewards.mpr (.inr others))
  | attach index given =>
      rw [apply] at applied
      split at applied
      case isFalse => contradiction
      obtain rfl := Except.ok.inj applied
      obtain ⟨recorded, listed, own⟩ | others := Variable.mem_rewards.mp held
      · obtain ⟨place, bounded, rfl⟩ := List.mem_iff_getElem.mp listed
        rw [List.getElem_modify] at own
        split at own
        · exact .inl (List.mem_singleton.mpr (Option.some.inj own).symm)
        · exact .inr
            (Variable.mem_rewards_of_prediction (List.getElem_mem _) own)
      · exact .inr (Variable.mem_rewards.mpr (.inr others))
  | update content =>
      obtain rfl := Except.ok.inj applied
      exact Variable.rewards_subset_of_update content entry held

end Change
end PromptTuning
