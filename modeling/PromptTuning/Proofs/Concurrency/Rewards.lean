import PromptTuning.Proofs.Concurrency.Upkeep
import PromptTuning.Proofs.Optimizer.Rewards

/-!
# Where stored rewards come from

The rewards that are attached to predictions and those of passes are checked.
All others come into a store as they are: with a prediction that is appended,
with an update, with the instructions of a new variable, with a whole variable
and with a snapshot. So a stored reward is valid or was brought in unchecked,
and one that was may be any double.
-/

namespace PromptTuning

variable {σ : Type} {setting : Setting σ} {allowed : Double -> Prop}

/-- The rewards that an operation of a client brings in without a check. -/
def Operation.rewards : Operation -> List Double
  | .append _ prediction => prediction.reward.toList
  | .set _ content => content.rewards
  | _ => []

/-- The rewards that a turn brings in without a check. -/
def Turn.rewards : Turn -> List Double
  | .move (.begin operation) => operation.rewards
  | .move _ => []
  | .register _ initial => rewardsOf initial
  | .replace entry => entry.rewards
  | .restore document =>
      match Store.readSnapshot document with
      | .error _ => []
      | .ok entries => entries.flatMap Variable.rewards

/-- Whether every reward of a variable is among those allowed. -/
def Variable.RewardsIn (allowed : Double -> Prop) (entry : Variable) : Prop :=
  ∀ reward ∈ entry.rewards, allowed reward

/-- Rewards among those allowed stay among them if a valid one is
always allowed. -/
theorem Variable.upheld_rewardsIn
    (checked : ∀ reward, isValidReward reward = true -> allowed reward) :
    Upheld (RewardsIn allowed) where
  redated _ _ kept := kept
  built kept := by
    unfold RewardsIn
    rw [rewards_built]
    exact kept
  finalized kept := fun reward held =>
    kept reward (rewards_finalized_subset _ held)
  passed admitted kept passed := by
    intro held left
    obtain rfl | before := passed.mem_rewards left
    · exact checked _ admitted
    · exact kept held before

/-- The change that an operation makes brings in what the operation does, or a
valid reward. -/
theorem Operation.allowed_of_change?
    (checked : ∀ reward, isValidReward reward = true -> allowed reward)
    {operation : Operation}
    (brought : ∀ reward ∈ operation.rewards, allowed reward)
    {change : Change}
    (changes : change ∈ operation.change?) :
    ∀ reward ∈ change.rewards, allowed reward := by
  cases operation with
  | append key prediction =>
      obtain rfl := Option.some.inj changes
      exact brought
  | attach key index reward =>
      rw [change?, Option.mem_def] at changes
      split at changes
      case isFalse => contradiction
      rename_i admitted
      obtain rfl := Option.some.inj changes
      exact List.forall_mem_singleton.mpr (checked reward admitted)
  | set key content =>
      obtain rfl := Option.some.inj changes
      exact brought
  | get key => contradiction
  | optimize id key reward => contradiction
  | finalize key => contradiction
  | build id => contradiction

namespace Setting

/-- What a turn has clients write has the rewards that are valid or that
it brings in. -/
theorem keeps_turn
    (checked : ∀ reward, isValidReward reward = true -> allowed reward)
    {turn : Turn}
    (brought : ∀ reward ∈ turn.rewards, allowed reward) :
    turn.Keeps setting (Variable.RewardsIn allowed) := by
  cases turn with
  | move move =>
      cases move with
      | begin operation =>
          refine keeps_body (Variable.upheld_rewardsIn checked) ?_
          intro change changes stored changed kept applied reward held
          obtain new | before :=
            List.mem_append.mp (change.rewards_subset_of_apply applied held)
          · exact Operation.allowed_of_change? checked brought
              changes reward new
          · exact kept reward before
      | _ => trivial
  | register key initial =>
      intro now reward held
      rw [Variable.rewards_create] at held
      exact brought reward held
  | replace entry => exact fun _ _ => brought
  | restore document =>
      intro entries read entry listed reward held
      refine brought reward ?_
      rw [Turn.rewards, read]
      exact List.mem_flatMap.mpr ⟨entry, listed, held⟩

/-- Every stored reward is valid or was brought in by a turn that does
not check it. -/
theorem stored_rewards_valid_or_brought
    (setting : Setting σ)
    (start : World σ)
    (capacity : Nat)
    (turns : List Turn) :
    ∀ entry ∈ (setting.reached start capacity turns).entries,
      ∀ reward ∈ entry.rewards,
      isValidReward reward = true ∨ ∃ turn ∈ turns, reward ∈ turn.rewards := by
  have kept (turn : Turn) (taken : turn ∈ turns) :
      turn.Keeps setting (Variable.RewardsIn fun reward =>
        isValidReward reward = true ∨ ∃ turn ∈ turns, reward ∈ turn.rewards) :=
    keeps_turn (fun _ => .inl) fun reward held => .inr ⟨turn, taken, held⟩
  exact setting.all_reached start capacity kept

/-- A reward that is attached to a stored prediction is stored, and
it is valid. -/
theorem stored_rewards_valid_or_brought_of_attached :
    let half : Double := .ofDecimal false 5 (-1)
    let turns : List Turn :=
      [.register "a" none, .move (.begin (.append "a" (.unscored [] []))),
        .move (.proceed 0), .move (.proceed 0), .move (.proceed 0),
        .move (.begin (.attach "a" 0 half)), .move (.proceed 1),
        .move (.proceed 1)]
    ∃ entry ∈ (refusing.reached .fresh 1 turns).entries, half ∈ entry.rewards ∧
      (isValidReward half = true ∨ ∃ turn ∈ turns, half ∈ turn.rewards) := by
  intro half turns
  have recorded :
      ∃ entry ∈ (refusing.reached .fresh 1 turns).entries,
        half ∈ entry.rewards := by
    decide +kernel
  obtain ⟨entry, listed, held⟩ := recorded
  exact ⟨entry, listed, held,
    stored_rewards_valid_or_brought refusing .fresh 1 turns entry
      listed half held⟩

/-- A reward past one is recorded as it is. -/
theorem stored_reward_past_one :
    let turns : List Turn :=
      [.register "a" none,
        .move (.begin
          (.append "a"
            ⟨"prediction", [], [], some (.ofDecimal false 75 (-1))⟩)),
        .move (.proceed 0), .move (.proceed 0), .move (.proceed 0)]
    ((refusing.serving .fresh 1 turns).clients.map (·.outcome?)) =
      [some (.appended (.ok 0))] ∧
      ∃ entry ∈ (refusing.reached .fresh 1 turns).entries,
        ∃ reward ∈ entry.rewards,
        isValidReward reward = false := by
  exact ⟨rfl, by decide +kernel⟩

end Setting

end PromptTuning
