import PromptTuning.Proofs.Json.Sameness
import PromptTuning.Variable.Basic

/-!
# Sound variables

A variable is the same as itself once its rewards are in range and its recorded
data repeat no key: a reward that is not a number would differ from itself.
-/

namespace PromptTuning

/-- A reward that is absent or in range. -/
def SoundReward (reward : Option Double) : Prop :=
  ∀ given, reward = some given -> isValidReward given = true

/-- A sound reward is the same as itself. -/
theorem sameReward_self {reward : Option Double} (sound : SoundReward reward) :
    sameReward reward reward = true := by
  cases reward with
  | none => rfl
  | some given =>
      have valid := sound given rfl
      cases given with
      | nan => simp [isValidReward, Binary.isFinite] at valid
      | infinite negative => simp [isValidReward, Binary.isFinite] at valid
      | finite value => simp [sameReward, Binary.le, Binary.place?]

/-- A recorded execution with a sound reward and data without repeated keys. -/
structure Prediction.Sound (prediction : Prediction) : Prop where
  inputs : (Json.object prediction.inputs).Distinct
  outputs : (Json.object prediction.outputs).Distinct
  reward : SoundReward prediction.reward

/-- A sound prediction is the same as itself. -/
theorem Prediction.same_self {prediction : Prediction}
    (sound : prediction.Sound) :
    prediction.same prediction = true := by
  simp [same, Json.same_self _ sound.inputs, Json.same_self _ sound.outputs,
    sameReward_self sound.reward]

/-- An instruction set with a sound reward is the same as itself. -/
theorem Instructions.same_self {set : Instructions}
    (sound : SoundReward set.reward) :
    set.same set = true := by
  simp [same, sameReward_self sound]

/-- A list is equivalent to itself if each of its items is. -/
theorem isEqv_self {α : Type} {same : α -> α -> Bool} {items : List α}
    (reflexive : ∀ item ∈ items, same item item = true) :
    items.isEqv items same = true := by
  induction items with
  | nil => rfl
  | cons item rest inductionHypothesis =>
      obtain ⟨first, others⟩ := List.forall_mem_cons.mp reflexive
      rw [List.isEqv, first, inductionHypothesis others, Bool.and_self]

namespace Variable

/-- Every reward is absent or in range, and no recorded data repeat a key. -/
structure Sound (entry : Variable) : Prop where
  predictions : ∀ prediction ∈ entry.predictions, prediction.Sound
  instructions :
    ∀ active, entry.instructions = some active -> SoundReward active.reward
  candidates : ∀ candidate ∈ entry.candidates, SoundReward candidate.reward

/-- A sound variable is the same as itself. -/
theorem same_self {entry : Variable} (sound : entry.Sound) :
    entry.same entry = true := by
  have predictions := isEqv_self fun prediction recorded =>
    Prediction.same_self (sound.predictions prediction recorded)
  have candidates := isEqv_self fun candidate pooled =>
    Instructions.same_self (sound.candidates candidate pooled)
  have instructions :
      sameInstructions entry.instructions entry.instructions = true := by
    cases active : entry.instructions with
    | none => rfl
    | some set => exact Instructions.same_self (sound.instructions set active)
  simp [same, predictions, candidates, instructions]

/-- Variables that are the same are in the same phase. -/
theorem phase_eq_of_same {left right : Variable}
    (same : left.same right = true) :
    left.phase = right.phase := by
  simp only [Variable.same, Bool.and_eq_true, beq_iff_eq] at same
  exact same.1.1.2

end Variable
end PromptTuning
