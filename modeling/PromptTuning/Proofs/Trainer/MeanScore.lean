import PromptTuning.Proofs.Binary.Counting
import PromptTuning.LanguageModel.Scripted
import PromptTuning.Proofs.Trainer.Epoch

/-!
# The mean score as a reward

A score counts at most one and at least nothing once it is clamped, and a call
that fails counts nothing. So the total of a dataset never gets ahead of its
length, although both are rounded, and the mean of the scores is a valid reward.
Training a program on its own scores cannot end for want of one.
-/

namespace PromptTuning

open BinaryFormat

section Scores

variable {value unit : FiniteDouble}

/-- The valid rewards are the numbers up to one. -/
theorem isValidReward_finite_iff :
    isValidReward (.finite value) = true ↔ value.UpTo 1 := by
  obtain ⟨unit, one, _⟩ := Binary.exists_one_eq .double
  rw [Finite.upTo_one_iff one]
  simp [isValidReward, one, Binary.isFinite, Binary.le, Binary.place?,
    Binary.zero, Finite.place, Finite.zero]

/-- Zero is a valid reward. -/
theorem isValidReward_zero : isValidReward (.zero .double) = true := by
  decide +kernel

/-- A clamped score is a number up to one, whatever the score was. -/
theorem upTo_of_clampScore? {score : Double}
    (clamped : clampScore? score = some value) :
    value.UpTo 1 := by
  obtain ⟨unit, one, positive, _⟩ := Binary.exists_one_eq .double
  have nonnegative : 0 ≤ unit.place := by
    rw [Finite.place_of_positive positive]
    omega
  rw [Finite.upTo_one_iff one]
  cases score with
  | nan => exact absurd clamped.symm (Option.some_ne_none value)
  | infinite negative => exact absurd clamped.symm (Option.some_ne_none value)
  | finite given =>
      have zero : (Finite.zero .double).place = 0 := rfl
      simp only [clampScore?, one, Binary.lt, Binary.place?, Binary.zero,
        zero] at clamped
      split at clamped
      · obtain rfl := Option.some.inj clamped
        exact ⟨Int.le_refl 0, nonnegative⟩
      · rename_i notBelow
        split at clamped
        · obtain rfl := Option.some.inj clamped
          exact ⟨nonnegative, Int.le_refl _⟩
        · rename_i notAbove
          obtain rfl := Option.some.inj clamped
          simp only [decide_eq_true_eq, not_lt] at notBelow notAbove
          exact ⟨notBelow, notAbove⟩

/-- Add a score to a total. -/
def addScore (total : Double) (score : Option Double) : Double :=
  match total, score.bind clampScore? with
  | .finite sum, some value => sum.add value
  | total, _ => total

/-- Scores are summed up one by one, starting from zero. -/
theorem totalScore_eq (scores : List (Option Double)) :
    totalScore scores = scores.foldl addScore (.zero .double) :=
  rfl

/-- A number of scores adds up to a number that is not ahead of it. -/
def KeepsPace (total : Double) (count : Nat) : Prop :=
  ∃ sum : FiniteDouble, total = .finite sum ∧ sum.negative = false ∧
    sum.UpTo (min count (wholeUpTo .double))

variable {total : Double} {count : Nat}

/-- Zero is the sum of no scores. -/
theorem keepsPace_zero : KeepsPace (.zero .double) 0 := by
  refine ⟨.zero .double, rfl, rfl, ?_,
    fun sign => absurd sign Bool.false_ne_true⟩
  have nothing : (Finite.zero .double).units = 0 :=
    unitsOfRank_eq_zero_iff _ |>.mpr rfl
  rw [nothing]
  exact Nat.zero_le _

/-- A sum keeps pace when one more score is added. -/
theorem KeepsPace.addScore (paced : KeepsPace total count)
    (score : Option Double) :
    KeepsPace (addScore total score) (count + 1) := by
  obtain ⟨sum, rfl, positive, upTo⟩ := paced
  unfold PromptTuning.addScore
  cases clamped : score.bind clampScore? with
  | none =>
      have more :
          min count (wholeUpTo .double) ≤
            min (count + 1) (wholeUpTo .double) := by omega
      exact ⟨sum, rfl, positive, upTo.units.trans (Nat.mul_le_mul_right _ more),
        upTo.sign⟩
  | some value =>
      obtain ⟨given, _, clamps⟩ := Option.bind_eq_some_iff.mp clamped
      obtain ⟨next, added, positiveNext, upToNext⟩ :=
        upTo.exists_add positive (upTo_of_clampScore? clamps)
          (Nat.min_le_right _ _)
      rw [nearestWhole_succ_min] at upToNext
      exact ⟨next, added, positiveNext, upToNext⟩

/-- A sum keeps pace with the scores that are added to it. -/
theorem KeepsPace.foldl (paced : KeepsPace total count)
    (scores : List (Option Double)) :
    KeepsPace (scores.foldl PromptTuning.addScore total)
      (count + scores.length) := by
  induction scores generalizing total count with
  | nil => exact paced
  | cons score scores inductionHypothesis =>
      rw [List.foldl_cons, List.length_cons, Nat.add_comm scores.length,
        ← Nat.add_assoc]
      exact inductionHypothesis (paced.addScore score)

/-- The sum of scores is not larger than their number. -/
theorem keepsPace_totalScore (scores : List (Option Double)) :
    KeepsPace (totalScore scores) scores.length := by
  have paced := keepsPace_zero.foldl scores
  rwa [Nat.zero_add, ← totalScore_eq] at paced

/-- The mean of scores of any kind is a valid reward, as long as
there are any. -/
theorem isValidReward_meanScore {scores : List (Option Double)}
    (nonempty : scores ≠ []) :
    isValidReward (meanScore scores) = true := by
  obtain ⟨sum, total, positive, upTo⟩ := keepsPace_totalScore scores
  unfold meanScore
  rw [total]
  obtain infinite | ⟨count, counted, positiveCount, units⟩ :=
    Binary.ofInt_natCast_cases .double scores.length
  · rw [infinite]
    exact isValidReward_zero
  · have within : sum.units ≤ count.units := by
      rw [units]
      exact upTo.units.trans
        (Nat.mul_le_mul_right _ (min_wholeUpTo_le_nearestWhole _ _))
    have divisor : 0 < count.units := by
      have some : 0 < min scores.length (wholeUpTo .double) :=
        Nat.lt_min.mpr ⟨List.length_pos_iff.mpr nonempty, Nat.two_pow_pos _⟩
      rw [units]
      exact Nat.mul_pos (some.trans_le (min_wholeUpTo_le_nearestWhole _ _))
        (Nat.two_pow_pos _)
    obtain ⟨quotient, divided, upToOne⟩ :=
      Finite.exists_div positive positiveCount divisor within
    rw [counted]
    change isValidReward (sum.div count) = true
    rw [divided]
    exact isValidReward_finite_iff.mpr upToOne

end Scores

variable {σ : Type}

namespace Run

variable {α β : Type} {world after : World σ}

/-- Whatever a computation ends with has a property. -/
def Returns (good : α -> Prop) (body : Run σ α) : Prop :=
  ∀ world result after, body.run.run world = (some result, after) -> good result

/-- A run that ends with a result ends in some world. -/
theorem exists_run_of_fst
    {body : Run σ α}
    {result : α}
    (ended : (body.run.run world).1 = some result) :
    ∃ after, body.run.run world = (some result, after) :=
  ⟨_, Prod.ext ended rfl⟩

/-- A run that goes on from good results returns what it goes on to. -/
theorem Returns.bind
    {good : α -> Prop}
    {goodAfter : β -> Prop}
    {first : Run σ α}
    {next : α -> Run σ β}
    (returns : first.Returns good)
    (continues : ∀ value, good value -> (next value).Returns goodAfter) :
    (first >>= next).Returns goodAfter := by
  intro world result after ended
  obtain ⟨value, between, ran, rest⟩ := exists_run_of_bind ended
  exact continues value (returns world value between ran) between
    result after rest

/-- A run that does nothing returns its value. -/
theorem returns_pure {good : α -> Prop} {value : α} (holds : good value) :
    (pure value : Run σ α).Returns good := by
  intro world result after ended
  obtain rfl := Option.some.inj (congrArg Prod.fst ended)
  exact holds

/-- Nothing is promised of an arbitrary run. -/
theorem returns_any (body : Run σ α) : body.Returns fun _ => True :=
  fun _ _ _ _ => trivial

end Run

namespace Trainer

variable {host : ModelHost σ} {limit : Nat}

/-- An evaluation scores every example of a dataset. -/
theorem returns_evaluate (program : Module) (metric : Metric)
    (dataset : List Example) :
    (evaluate host limit program metric dataset).Returns fun scores =>
      scores.length = dataset.length := by
  induction dataset with
  | nil => exact Run.returns_pure rfl
  | cons item rest inductionHypothesis =>
      have scored (score : Option Double) :
          (do return score :: (← evaluate host limit program metric rest) :
            Run σ (List (Option Double))).Returns fun scores =>
              scores.length = (item :: rest).length :=
        inductionHypothesis.bind fun scores length =>
          Run.returns_pure (congrArg Nat.succ length)
      refine (Run.returns_any _).bind fun answer _ => ?_
      cases answer with
      | ok output => exact (Run.returns_any _).bind fun score _ => scored score
      | error cause =>
          exact (Run.returns_any _).bind fun score _ => scored score

/-- An epoch at a valid reward ends with a report of the reward. -/
theorem returns_runEpoch
    (trainer : Trainer)
    {reward : Double}
    (valid : isValidReward reward = true)
    (epoch : Nat) :
    (trainer.runEpoch host limit epoch reward).Returns fun result =>
      ∃ report,
        result = .ok report ∧ report.epoch = epoch ∧
        report.reward = reward := by
  unfold runEpoch
  rw [valid]
  refine (Run.returns_any _).bind fun _ _ =>
    (Run.returns_any _).bind fun keys _ =>
      (Run.returns_any _).bind fun world _ =>
        (Run.returns_any _).bind fun outcomes _ => ?_
  have reports : (do
      Run.activity host limit (Activity.perform (.notify
        (EpochReport.endEvent ⟨epoch, reward, keys.zip outcomes⟩)))
      return .ok ⟨epoch, reward, keys.zip outcomes⟩ :
        Run σ (Except TrainerError EpochReport)).Returns fun result =>
          ∃ report, result = .ok report ∧ report.epoch = epoch ∧
            report.reward = reward :=
    (Run.returns_any _).bind fun _ _ => Run.returns_pure ⟨_, rfl, rfl, rfl⟩
  cases trainer.finalizeOnEpochEnd with
  | true => exact (Run.returns_any _).bind fun _ _ => reports
  | false => exact reports

/-- Epochs at valid rewards end with as many reports, each of a valid reward. -/
theorem returns_runEpochs
    (trainer : Trainer)
    {reward : Nat -> Run σ (Except String Double)}
    (valid : ∀ epoch, (reward epoch).Returns fun supplied =>
      ∃ value, supplied = .ok value ∧ isValidReward value = true)
    (epochs : List Nat) :
    (trainer.runEpochs host limit reward epochs).Returns fun result =>
      ∃ history, result = .ok history ∧ history.length = epochs.length ∧
        ∀ report ∈ history, isValidReward report.reward = true := by
  induction epochs with
  | nil => exact Run.returns_pure ⟨[], rfl, rfl, nofun⟩
  | cons epoch rest inductionHypothesis =>
      refine (valid epoch).bind fun supplied found => ?_
      obtain ⟨value, rfl, validValue⟩ := found
      refine (trainer.returns_runEpoch validValue
        epoch).bind fun result ended => ?_
      obtain ⟨report, rfl, _, rewarded⟩ := ended
      refine inductionHypothesis.bind fun later ended => Run.returns_pure ?_
      obtain ⟨history, rfl, length, validLater⟩ := ended
      exact ⟨report :: history, rfl, congrArg Nat.succ length,
        List.forall_mem_cons.mpr ⟨rewarded ▸ validValue, validLater⟩⟩

/-- An evaluation of a dataset that is not empty has a valid mean score. -/
theorem returns_scores
    (program : Module)
    (metric : Metric)
    {dataset : List Example}
    (nonempty : dataset ≠ []) :
    (evaluate host limit program metric dataset).Returns fun scores =>
      scores.length = dataset.length ∧
      isValidReward (meanScore scores) = true := by
  intro world scores after ended
  have length :=
    returns_evaluate program metric dataset world scores after ended
  refine ⟨length, isValidReward_meanScore ?_⟩
  rintro rfl
  exact nonempty (List.length_eq_zero_iff.mp length.symm)

/-- How training on a dataset may end: with as many reports as epochs, each of a
valid reward, or without epochs, or without variables that are built. -/
inductive Fitted (epochs : Nat) : Except TrainerError History -> Prop
  | trained {history : History}
      (length : history.length = epochs)
      (valid : ∀ report ∈ history, isValidReward report.reward = true) :
      Fitted epochs (.ok history)
  | noEpochs : Fitted epochs (.error .invalidEpochs)
  | notBuilt (cause : OptimizationError) :
      Fitted epochs (.error (.optimization cause))

/-- Training of a program returns a history of as many epochs, each with a
valid reward. -/
theorem returns_fitProgram
    (trainer : Trainer)
    (epochs : Nat)
    (program : Module)
    (metric : Metric)
    {dataset : List Example}
    (nonempty : dataset ≠ []) :
    (trainer.fitProgram host limit program dataset epochs metric).Returns
      (Fitted epochs) := by
  have some : ¬ dataset.isEmpty = true := fun empty =>
    nonempty (List.isEmpty_iff.mp empty)
  unfold fitProgram
  by_cases none : epochs = 0
  · rw [if_pos none]
    exact Run.returns_pure .noEpochs
  · rw [if_neg none, if_neg some]
    have builds : (trainer.build host limit).Returns fun built =>
        ∀ cause,
          built = .error cause -> ∃ reason, cause = .optimization reason := by
      refine (Run.returns_any _).bind fun answer _ =>
        Run.returns_pure fun cause failed => ?_
      cases answer with
      | ok _ => contradiction
      | error reason => exact ⟨reason, (Except.error.inj failed).symm⟩
    refine builds.bind fun built causes => ?_
    cases built with
    | error cause =>
        obtain ⟨reason, rfl⟩ := causes cause rfl
        exact Run.returns_pure (.notBuilt reason)
    | ok _ =>
        have valid (epoch : Nat) :
            (do return .ok
                  (meanScore (← evaluate host limit program metric dataset)) :
              Run σ (Except String Double)).Returns fun supplied =>
                ∃ value, supplied = .ok value ∧ isValidReward value = true :=
          (returns_scores program metric nonempty).bind fun scores mean =>
            Run.returns_pure ⟨_, rfl, mean.2⟩
        intro world result after ended
        obtain ⟨history, rfl, length, rewards⟩ :=
          trainer.returns_runEpochs valid (List.range epochs) world
            result after ended
        exact .trained (length.trans List.length_range) rewards

/-- Every reward that training on a dataset computes is valid, however
the program and the metric behave. So training never ends for want of a
valid reward. -/
theorem fitProgram_rewards_valid
    (trainer : Trainer)
    (host : ModelHost σ)
    (limit epochs : Nat)
    (program : Module)
    (metric : Metric)
    {dataset : List Example}
    (nonempty : dataset ≠ [])
    (world : World σ) :
    (∀ scores after,
      (evaluate host limit program metric dataset).run.run world =
        (some scores, after) ->
        scores.length = dataset.length ∧
        isValidReward (meanScore scores) = true) ∧
      ∀ result after,
        (trainer.fitProgram host limit program dataset epochs metric).run.run
          world =
            (some result, after) ->
          Fitted epochs result ∧
          ∀ reward, result ≠ .error (.invalidReward reward) := by
  refine ⟨returns_scores program metric nonempty world,
    fun result after ended => ?_⟩
  have fitted := trainer.returns_fitProgram epochs program metric nonempty world
    result after ended
  refine ⟨fitted, fun reward => ?_⟩
  rintro rfl
  cases fitted

/-- Of four calls, one fails, and of the scores of the others, one is too high,
one not a number and one infinite. -/
theorem fitProgram_rewards_valid_of_odd_scores :
    let trainer : Trainer :=
      ⟨.standard 0 (some (.scripted "writer")), 0, 60000, true⟩
    let program : Module := .generator
      (.create "solver" ⟨none, [.mandatory "answer" .string]⟩
        (.scripted "model"))
    let metric : Metric := .ofField (fun shown =>
      match shown with
      | .string "much" => some (.ofInt 7)
      | .string "endless" => some (.infinite false)
      | _ => none) "answer"
    let spoken (text : String) : Except LanguageModelError Json :=
      .ok (.object [("answer", .string text)])
    let world : World Scripts := World.fresh.withModels
      [("model",
        ⟨[spoken "much", .error (.response "busy"), spoken "odd",
          spoken "endless"], none, 0, []⟩)]
    let dataset : List Example := List.replicate 4 ⟨⟨.empty, []⟩, .null⟩
    let scores : List (Option Double) :=
      [some (.ofInt 7), none, some .nan, some (.infinite false)]
    dataset ≠ [] ∧
      (∃ after,
        (evaluate Scripts.host 60000 program metric dataset).run.run world =
          (some scores, after)) ∧
      isValidReward (meanScore scores) = true ∧
      meanScore scores = .ofDecimal false 25 (-2) ∧
      ∃ result after,
        (trainer.fitProgram Scripts.host 60000 program dataset 1 metric).run.run
          world =
          (some result, after) ∧
        ∀ reward, result ≠ .error (.invalidReward reward) := by
  intro trainer program metric spoken world dataset scores
  have nonempty : dataset ≠ [] := List.cons_ne_nil _ _
  have spec := fitProgram_rewards_valid trainer Scripts.host 60000 1 program
    metric nonempty world
  have scored :
      ((evaluate Scripts.host 60000 program metric dataset).run.run world).1 =
        some scores := by decide +kernel
  have ended :
      ((trainer.fitProgram Scripts.host 60000 program dataset 1 metric).run.run
        world).1.isSome = true := by decide +kernel
  obtain ⟨after, ran⟩ := Run.exists_run_of_fst scored
  obtain ⟨result, found⟩ := Option.isSome_iff_exists.mp ended
  obtain ⟨final, trained⟩ := Run.exists_run_of_fst found
  exact ⟨nonempty, ⟨after, ran⟩, (spec.1 scores after ran).2,
    by decide +kernel, result, final,
    trained, (spec.2 result final trained).2⟩

end Trainer
end PromptTuning
