import PromptTuning.Proofs.Concurrency.Rewards
import PromptTuning.Proofs.Concurrency.Touching
import PromptTuning.Proofs.Optimizer.Attempt

/-!
# Passes and stamps

A variable is stamped with a version and a date, and a pass looks at neither.
Nor does it matter by which number the program of the optimizer is told apart
from others: passes over variables with the same contents come to the same on
known answers, and leave the same contents.
-/

namespace PromptTuning

namespace Variable

/-- The variable with another version and date. -/
def stamped (version : UInt64) (date : Timestamp) (entry : Variable) :
    Variable :=
  { entry with version := version, updatedAt := date }

/-- A variable apart from its version and its date. -/
def bare (entry : Variable) : Variable := entry.stamped 0 default

variable {first second : Variable}

theorem eq_stamped_of_bare_eq (same : first.bare = second.bare) :
    first = second.stamped first.version first.updatedAt := by
  cases first
  cases second
  simpa [bare, stamped] using same

theorem sameContents_of_bare_eq (same : first.bare = second.bare) :
    first.SameContents second :=
  ⟨first.version, first.updatedAt, eq_stamped_of_bare_eq same⟩

/-- Whether variables are the same depends on their stamps only if
these differ. -/
theorem same_stamped
    (versions : first.version = second.version)
    (dates : first.updatedAt = second.updatedAt)
    (version : UInt64)
    (date : Timestamp) :
    (first.stamped version date).same (second.stamped version date) =
      first.same second := by
  simp [same, stamped, versions, dates]

end Variable

/-- Passes, building and finalizing never make a variable unbuilt. -/
theorem Variable.upheld_built : Upheld fun entry => entry.phase ≠ .unbuilt where
  redated _ _ kept := kept
  built {entry} kept := by
    rw [Variable.built, if_neg kept]
    exact kept
  finalized {entry} kept := by
    simp [Variable.finalized, Phase.isBuilt, kept]
  passed _ kept passed := by
    cases passed with
    | refused => exact kept
    | idled => simp
    | asked outcome =>
        cases outcome <;>
          simp [Optimizer.conclude, Variable.scoredAt, Variable.inPhase]

/-- An activity that does nothing but ask comes to the results of its parts. -/
theorem Activity.Resolves.of_bind
    {α β : Type}
    {answers : Answers}
    {activity : Activity α}
    {next : α -> Activity β}
    {count : Nat}
    {final : β}
    (resolves : (activity.bind next).Resolves answers count final) :
    ∃ first result rest, activity.Resolves answers first result ∧
      (next result).Resolves answers rest final ∧ first + rest = count := by
  induction activity generalizing count with
  | done result => exact ⟨0, result, count, .done, resolves, Nat.zero_add count⟩
  | act action resume => cases resolves
  | lock store key resume => cases resolves
  | generate model request resume inductionHypothesis =>
      cases resolves with
      | ask resumed =>
          obtain ⟨first, result, rest, resolved, continued, counted⟩ :=
            inductionHypothesis _ resumed
          exact ⟨first + 1, result, rest, .ask resolved, continued, by omega⟩

namespace Optimizer

variable {optimizer : Optimizer} {known : Except BuildError Module}
  {answers : Answers} {reward : Double} {entry : Variable} {count : Nat}
  {ended : Except OptimizationError OptimizeReport × Variable}

/-- How a pass goes on does not depend on the stamps, which are passed on. -/
theorem resolves_proceed_stamped
    (resolves :
      (optimizer.proceed entry reward known).Resolves answers count ended)
    (id : OptimizerId)
    (version : UInt64)
    (date : Timestamp) :
    (({ optimizer with id := id } : Optimizer).proceed
      (entry.stamped version date) reward
      known).Resolves answers count
      (ended.1, ended.2.stamped version date) := by
  cases known with
  | error cause =>
      cases resolves
      exact .done
  | ok program =>
      by_cases scored : entry.unscoredCount = 0
      · have stampedScored : (entry.stamped version date).unscoredCount = 0 :=
          scored
        rw [proceed, if_pos scored] at resolves
        rw [proceed, if_pos stampedScored]
        cases resolves
        exact .done
      · have unscored : (entry.stamped version date).unscoredCount ≠ 0 := scored
        rw [proceed, if_neg scored] at resolves
        rw [proceed, if_neg unscored]
        obtain ⟨first, outcome, rest, generated, concluded, rfl⟩ :=
          resolves.of_bind
        cases concluded
        have done : conclude (entry.stamped version date) reward outcome =
            ((conclude entry reward outcome).1,
              (conclude entry reward outcome).2.stamped version date) := by
          cases outcome <;> rfl
        rw [← done]
        exact generated.bind .done

/-- What a pass comes to does not depend on the stamps, which are passed on. -/
theorem Determined.stamped
    (determined : optimizer.Determined known answers reward entry count ended)
    (id : OptimizerId)
    (version : UInt64)
    (date : Timestamp) :
    ({ optimizer with id := id } : Optimizer).Determined known answers reward
      (entry.stamped version date) count
      (ended.1, ended.2.stamped version date) := by
  by_cases valid : isValidReward reward = true
  case neg =>
    have refused := Bool.eq_false_iff.mpr valid
    cases determined with
    | admitted begun =>
        exact nomatch (optimizer.optimize_of_invalid entry refused).symm.trans
          begun
    | refused early =>
        obtain rfl :=
          Activity.done.inj
            (early.symm.trans (optimizer.optimize_of_invalid entry refused))
        exact .refused (optimize_of_invalid _ _ refused)
  by_cases unbuilt : entry.phase = .unbuilt
  · have stampedUnbuilt : (entry.stamped version date).phase = .unbuilt :=
      unbuilt
    cases determined with
    | admitted begun =>
        exact nomatch (optimizer.optimize_of_unbuilt valid unbuilt).symm.trans
          begun
    | refused early =>
        obtain rfl :=
          Activity.done.inj
            (early.symm.trans (optimizer.optimize_of_unbuilt valid unbuilt))
        exact .refused (optimize_of_unbuilt _ valid stampedUnbuilt)
  · have built : (entry.stamped version date).phase ≠ .unbuilt := unbuilt
    cases determined with
    | refused early =>
        exact nomatch early.symm.trans
          (optimizer.optimize_of_built valid unbuilt)
    | admitted _ resolves =>
        exact .admitted (optimize_of_built _ valid built)
          (resolves_proceed_stamped resolves id version date)

end Optimizer

namespace Batch

variable {entry : Variable} {reward : Double}
  {ended : Except OptimizationError OptimizeReport × Variable}

/-- What a stored pass leaves depends on the stamps in nothing but
the stamps. -/
theorem bare_left_stamped
    (passed : Optimizer.PassResult entry reward ended)
    (version : UInt64)
    (date : Timestamp) :
    (left (entry.stamped version date)
      (ended.1, ended.2.stamped version date)).bare =
      (left entry ended).bare := by
  have commits :
      Optimizer.commits (entry.stamped version date)
        (ended.2.stamped version date)
        ended.1 = Optimizer.commits entry ended.2 ended.1 := by
    cases ended.1 with
    | error reason => rfl
    | ok report =>
        rw [Optimizer.commits, Optimizer.commits,
          Variable.same_stamped passed.version_eq passed.updatedAt_eq]
  unfold left
  rw [commits]
  split <;> rfl

/-- What a pass leaves has what passes uphold. -/
theorem upheld_left
    {valid : Variable -> Prop}
    (upheld : Variable.Upheld valid)
    (kept : valid entry)
    (admitted : isValidReward reward = true)
    (passed : Optimizer.PassResult entry reward ended) :
    valid (left entry ended) := by
  unfold left
  split
  · exact upheld.redated (entry.version + 1) ended.2.updatedAt
      (upheld.passed admitted kept passed)
  · exact kept

end Batch
end PromptTuning
