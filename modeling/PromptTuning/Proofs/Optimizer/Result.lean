import PromptTuning.Proofs.Concurrency.Alike
import PromptTuning.Proofs.Optimizer.Pass
import PromptTuning.Proofs.Variable.Undated

/-!
# What a pass can come to

A pass only looks at the world, so what it comes to depends on the variable it
is given, on its program and on the replies. The date of the variable is passed
on and plays no other part: two passes over variables that differ in their dates
alone stay alike throughout.
-/

namespace PromptTuning

namespace Variable

/-- A reward keeps what was executed. -/
theorem keepsExecutions_scoredAt (reward : Double) (entry : Variable) :
    entry.KeepsExecutions (entry.scoredAt reward) :=
  (entry.scoredAt_broadcast reward).imp fun _ _ scored =>
    ⟨scored.label, scored.inputs, scored.outputs⟩

/-- Building a variable leaves its key alone. -/
theorem key_built (entry : Variable) : entry.built.key = entry.key := by
  unfold built
  split <;> rfl

/-- Building a variable leaves its predictions alone. -/
theorem predictions_built (entry : Variable) :
    entry.built.predictions = entry.predictions := by
  unfold built
  split <;> rfl

/-- Building a variable has nothing to do with its date. -/
theorem undated_built (entry : Variable) :
    entry.built.undated = entry.undated.built := by
  by_cases unbuilt : entry.phase = .unbuilt <;>
    simp [built, undated, inPhase, unbuilt]

end Variable

namespace Optimizer

/-- What a pass over a variable can come to. -/
inductive PassResult (entry : Variable) (reward : Double) :
    Except OptimizationError OptimizeReport × Variable -> Prop
  | refused (reason : OptimizationError) (whole : reason.isPartial = false) :
      PassResult entry reward (.error reason, entry)
  | idled :
      PassResult entry reward (.ok ⟨0, false⟩, { entry with phase := .idle })
  | asked
      (outcome : Except OptimizationError (List String))
      (unscored : entry.unscoredCount ≠ 0) :
      PassResult entry reward (conclude entry reward outcome)

namespace PassResult

variable
  {entry : Variable}
  {reward : Double}
  {result : Except OptimizationError OptimizeReport × Variable}

/-- A pass leaves the key alone. -/
theorem key_eq (passed : PassResult entry reward result) :
    result.2.key = entry.key := by
  cases passed with
  | refused => rfl
  | idled => rfl
  | asked outcome => cases outcome <;> rfl

/-- A pass leaves the date alone. -/
theorem updatedAt_eq (passed : PassResult entry reward result) :
    result.2.updatedAt = entry.updatedAt := by
  cases passed with
  | refused => rfl
  | idled => rfl
  | asked outcome => cases outcome <;> rfl

/-- A pass leaves the version alone. -/
theorem version_eq (passed : PassResult entry reward result) :
    result.2.version = entry.version := by
  cases passed with
  | refused => rfl
  | idled => rfl
  | asked outcome => cases outcome <;> rfl

/-- A pass keeps what was executed. -/
theorem keepsExecutions (passed : PassResult entry reward result) :
    entry.KeepsExecutions result.2 := by
  cases passed with
  | refused => exact Variable.keepsExecutions_of_eq rfl
  | idled => exact Variable.keepsExecutions_of_eq rfl
  | asked outcome =>
      have scored := Variable.keepsExecutions_scoredAt reward entry
      cases outcome <;> exact scored

end PassResult

/-- Two passes over variables that differ in their dates alone came
to the same. -/
structure SamePass
    (left right : Variable)
    (reward : Double)
    (first second : Except OptimizationError OptimizeReport × Variable) :
    Prop where
  resultFirst : PassResult left reward first
  resultSecond : PassResult right reward second
  outcome : first.1 = second.1
  final : first.2 = { second.2 with updatedAt := left.updatedAt }

/-- Whether a pass commits does not depend on the date of its variable. -/
theorem commits_eq
    {left right : Variable}
    {reward : Double}
    {first second : Except OptimizationError OptimizeReport × Variable}
    (same : left.undated = right.undated)
    (passed : SamePass left right reward first second) :
    commits left first.2 first.1 = commits right second.2 second.1 := by
  have dateFirst : first.2.updatedAt = left.updatedAt :=
    passed.resultFirst.updatedAt_eq
  have dateSecond : second.2.updatedAt = right.updatedAt :=
    passed.resultSecond.updatedAt_eq
  rw [passed.outcome]
  cases second.1 with
  | error reason => rfl
  | ok report =>
      have compared : first.2.same left = second.2.same right := by
        rw [Variable.same, Variable.same, dateFirst, dateSecond, passed.final,
          Variable.eq_of_undated_eq same]
        simp
      rw [commits, commits, compared]

/-- A generation goes alike in any two worlds. -/
theorem alike_generate
    {uses : Optimizer -> Prop}
    (optimizer : Optimizer)
    (program : Module)
    (entry : Variable) :
    Activity.Alike uses (· = ·) (optimizer.generate program entry)
      (optimizer.generate program entry) := by
  unfold generate
  split
  · exact .done rfl
  · apply (program.alike_call _).bind
    rintro outcome _ rfl
    cases outcome <;> exact .done rfl

/-- A pass only looks, and the date of its variable is merely passed on. -/
theorem alike_optimize
    (optimizer : Optimizer)
    {left right : Variable}
    (same : left.undated = right.undated)
    (reward : Double) :
    Activity.Alike (· = optimizer) (SamePass left right reward)
      (optimizer.optimize left reward)
      (optimizer.optimize right reward) := by
  have redated := Variable.eq_of_undated_eq same
  generalize left.updatedAt = date at redated
  subst redated
  by_cases valid : isValidReward reward = true
  case neg =>
    have invalid := Bool.eq_false_iff.mpr valid
    rw [optimize_of_invalid _ _ invalid, optimize_of_invalid _ _ invalid]
    exact .done ⟨.refused _ rfl, .refused _ rfl, rfl, rfl⟩
  by_cases unbuilt : right.phase = .unbuilt
  · have redatedUnbuilt :
        ({ right with updatedAt := date } : Variable).phase = .unbuilt :=
      unbuilt
    rw [optimize_of_unbuilt _ valid redatedUnbuilt,
      optimize_of_unbuilt _ valid unbuilt]
    exact .done ⟨.refused _ rfl, .refused _ rfl, rfl, rfl⟩
  have redatedBuilt :
      ({ right with updatedAt := date } : Variable).phase ≠ .unbuilt := unbuilt
  rw [optimize_of_built _ valid redatedBuilt, optimize_of_built _ valid unbuilt]
  refine .program rfl fun answer => ?_
  cases answer with
  | error cause => exact .done ⟨.refused _ rfl, .refused _ rfl, rfl, rfl⟩
  | ok program =>
      by_cases scored : right.unscoredCount = 0
      · have redatedScored :
            ({ right with updatedAt := date } : Variable).unscoredCount = 0 :=
          scored
        rw [proceed, proceed, if_pos scored, if_pos redatedScored]
        exact .done ⟨.idled, .idled, rfl, rfl⟩
      · have redatedScored :
            ({ right with updatedAt := date } : Variable).unscoredCount ≠ 0 :=
          scored
        rw [proceed, proceed, if_neg scored, if_neg redatedScored]
        apply (alike_generate optimizer program (right.scoredAt reward)).bind
        rintro outcome _ rfl
        refine .done
          ⟨.asked outcome redatedScored, .asked outcome scored, ?_, ?_⟩
        all_goals cases outcome <;> rfl

end Optimizer
end PromptTuning
