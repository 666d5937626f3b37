import PromptTuning.Proofs.Concurrency.Pool
import PromptTuning.Proofs.Optimizer.Result

/-!
# Passes on known answers

Where the answers of the language models depend on the question alone, so does
what a pass comes to. A program whose generators have no variable of their own
reads nothing: it does nothing but ask, and then the pass comes to one result,
after at most as many questions as the program counts.
-/

namespace PromptTuning

/-- What language models answer, if that depends on the question alone. -/
abbrev Answers := LanguageModel -> GenerationRequest -> Reply

namespace Activity

variable {α β : Type} {answers : Answers}

/-- What an activity comes to that does nothing but ask, with the number of
its questions. -/
inductive Resolves (answers : Answers) : Activity α -> Nat -> α -> Prop
  | done {result : α} : Resolves answers (.done result) 0 result
  | ask {model : LanguageModel} {request : GenerationRequest}
      {resume : Reply -> Activity α} {count : Nat} {result : α}
      (resumed :
        Resolves answers (resume (answers model request)) count result) :
      Resolves answers (.generate model request resume) (count + 1) result

/-- What follows an activity is resolved by the answers that are left. -/
theorem Resolves.bind
    {activity : Activity α}
    {next : α -> Activity β}
    {count more : Nat}
    {result : α}
    {final : β}
    (resolves : activity.Resolves answers count result)
    (continued : (next result).Resolves answers more final) :
    (activity.bind next).Resolves answers (count + more) final := by
  induction resolves with
  | done =>
      rw [Nat.zero_add]
      exact continued
  | ask _ inductionHypothesis =>
      rw [Nat.add_right_comm]
      exact .ask (inductionHypothesis continued)

/-- The answers determine what an activity comes to. -/
theorem Resolves.unique
    {activity : Activity α}
    {count more : Nat}
    {result other : α}
    (first : activity.Resolves answers count result)
    (second : activity.Resolves answers more other) :
    result = other := by
  induction first generalizing more with
  | done =>
      cases second
      rfl
  | ask _ inductionHypothesis =>
      cases second with
      | ask resumed => exact inductionHypothesis resumed

end Activity

namespace Module

mutual

/-- No generator of a module has a variable of its own. -/
def Unbound : Module -> Prop
  | .generator node => node.store = none
  | .chainOfThought node => node.generator.store = none
  | .pipeline _ _ _ modules => AllUnbound modules

/-- No generator of several modules has a variable of its own. -/
def AllUnbound : List Module -> Prop
  | [] => True
  | node :: rest => node.Unbound ∧ AllUnbound rest

end

end Module

/-- A generator without a store asks one question. -/
theorem Generator.resolves_call
    {generator : Generator}
    (unbound : generator.store = none)
    (answers : Answers)
    (input : Value) :
    ∃ outcome, (generator.call false input).Resolves answers 1 outcome := by
  rw [call_eq, activeInstructions, unbound]
  exact ⟨_, .ask .done⟩

namespace Module

mutual

/-- A call of a module without variables comes to one result on
known answers. -/
theorem resolves_call (answers : Answers) (input : Value) (node : Module)
    (unbound : node.Unbound) :
    ∃ count outcome, count ≤ node.questionCount ∧
      (node.call false input).Resolves answers count outcome := by
  cases node with
  | generator node =>
      rw [call]
      obtain ⟨outcome, resolves⟩ :=
        Generator.resolves_call unbound answers input
      exact ⟨1, outcome, Nat.le_refl 1, resolves⟩
  | chainOfThought node =>
      rw [call]
      obtain ⟨outcome, resolves⟩ :=
        Generator.resolves_call unbound answers input
      exact ⟨1, outcome, Nat.le_refl 1, resolves⟩
  | pipeline name description inputSchema modules =>
      rw [call]
      split
      · exact resolves_callAll answers input modules unbound
      · exact ⟨0, _, Nat.zero_le _, .done⟩

/-- Modules without a store ask as many questions as they have
generators at most. -/
theorem resolves_callAll (answers : Answers) (input : Value)
    (modules : List Module) (unbound : AllUnbound modules) :
    ∃ count outcome, count ≤ questionCountOf modules ∧
      (callAll false input modules).Resolves answers count outcome := by
  cases modules with
  | nil =>
      rw [callAll]
      exact ⟨0, _, Nat.zero_le _, .done⟩
  | cons node rest =>
      obtain ⟨nodeUnbound, restUnbound⟩ := unbound
      rw [callAll, questionCountOf]
      obtain ⟨count, outcome, fits, resolves⟩ :=
        resolves_call answers input node nodeUnbound
      cases outcome with
      | error reason => exact ⟨count + 0, _, by omega, resolves.bind .done⟩
      | ok output =>
          obtain ⟨more, final, restFits, restResolves⟩ :=
            resolves_callAll answers output rest restUnbound
          exact ⟨count + more, final, by omega, resolves.bind restResolves⟩

end

end Module

namespace Optimizer

variable {optimizer : Optimizer} {answers : Answers} {entry : Variable}
  {reward : Double}

/-- A generation asks as many questions as its program has
generators at most. -/
theorem resolves_generate
    {program : Module}
    (optimizer : Optimizer)
    (unbound : program.Unbound)
    (answers : Answers)
    (entry : Variable) :
    ∃ count outcome, count ≤ program.questionCount ∧
      (optimizer.generate program entry).Resolves answers count outcome := by
  unfold generate
  rw [poolInput_eq]
  obtain ⟨count, outcome, fits, resolves⟩ :=
    program.resolves_call answers _ unbound
  cases outcome with
  | error reason => exact ⟨count + 0, _, fits, resolves.bind .done⟩
  | ok output => exact ⟨count + 0, _, fits, resolves.bind .done⟩

/-- The program that an optimizer builds itself has no variables
and asks once. -/
theorem unbound_of_buildProgram
    {program : Module}
    (built : optimizer.buildProgram = .ok program) :
    program.Unbound ∧ program.questionCount = 1 := by
  unfold buildProgram at built
  cases described : optimizer.languageModel with
  | none => simp [described] at built
  | some model =>
      simp only [described, outputSchema_eq, Except.ok.injEq] at built
      subst built
      exact ⟨⟨rfl, trivial⟩, rfl⟩

/-- What a pass over a variable comes to on a known program and known answers,
with the number of its questions. -/
inductive Determined (optimizer : Optimizer)
    (program : Except BuildError Module) (answers : Answers) (reward : Double)
    (entry : Variable) :
    Nat -> Except OptimizationError OptimizeReport × Variable -> Prop
  | refused {ended : Except OptimizationError OptimizeReport × Variable}
      (early : optimizer.optimize entry reward = .done ended) :
      Determined optimizer program answers reward entry 0 ended
  | admitted {count : Nat}
      {ended : Except OptimizationError OptimizeReport × Variable}
      (begun : optimizer.optimize entry reward =
        .act (.program optimizer) (optimizer.proceed entry reward))
      (resolves : (optimizer.proceed entry reward program).Resolves
        answers count ended) :
      Determined optimizer program answers reward entry count ended

/-- The questions that a program asks at most. -/
def questionsOf : Except BuildError Module -> Nat
  | .error _ => 0
  | .ok program => program.questionCount

/-- Every pass comes to some result. -/
theorem exists_determined
    (optimizer : Optimizer)
    (answers : Answers)
    (reward : Double)
    (entry : Variable)
    {known : Except BuildError Module}
    (unbound : ∀ program, known = .ok program -> program.Unbound) :
    ∃ count ended, count ≤ questionsOf known ∧
      optimizer.Determined known answers reward entry count ended ∧
      PassResult entry reward ended := by
  by_cases valid : isValidReward reward = true
  case neg =>
    have refused :=
      optimizer.optimize_of_invalid entry (Bool.eq_false_iff.mpr valid)
    exact ⟨0, _, Nat.zero_le _, .refused refused, .refused _ rfl⟩
  by_cases unbuilt : entry.phase = .unbuilt
  · have refused := optimizer.optimize_of_unbuilt valid unbuilt
    exact ⟨0, _, Nat.zero_le _, .refused refused, .refused _ rfl⟩
  have begun := optimizer.optimize_of_built valid unbuilt
  cases known with
  | error cause =>
      exact ⟨0, _, Nat.zero_le _, .admitted begun .done, .refused _ rfl⟩
  | ok program =>
      by_cases scored : entry.unscoredCount = 0
      · refine ⟨0, _, Nat.zero_le _, .admitted begun ?_, .idled⟩
        rw [proceed, if_pos scored]
        exact .done
      · obtain ⟨count, outcome, fits, resolves⟩ :=
          optimizer.resolves_generate (unbound program rfl) answers
            (entry.scoredAt reward)
        refine ⟨count + 0, _, fits, .admitted begun ?_, .asked outcome scored⟩
        rw [proceed, if_neg scored]
        exact resolves.bind .done

/-- The answers determine what a pass comes to. -/
theorem Determined.unique
    {known : Except BuildError Module}
    {count more : Nat}
    {ended other : Except OptimizationError OptimizeReport × Variable}
    (first : optimizer.Determined known answers reward entry count ended)
    (second : optimizer.Determined known answers reward entry more other) :
    ended = other := by
  cases first with
  | refused early =>
      cases second with
      | refused otherEarly =>
          exact Activity.done.inj (early.symm.trans otherEarly)
      | admitted begun => exact nomatch early.symm.trans begun
  | admitted begun resolves =>
      cases second with
      | refused early => exact nomatch early.symm.trans begun
      | admitted _ otherResolves => exact resolves.unique otherResolves

/-- What a pass comes to is one of the ways in which passes end. -/
theorem Determined.passed
    {known : Except BuildError Module}
    {count : Nat}
    {ended : Except OptimizationError OptimizeReport × Variable}
    (determined : optimizer.Determined known answers reward entry count ended)
    (unbound : ∀ program, known = .ok program -> program.Unbound) :
    PassResult entry reward ended := by
  obtain ⟨_, other, _, again, passed⟩ :=
    optimizer.exists_determined answers reward entry unbound
  obtain rfl := determined.unique again
  exact passed

end Optimizer
end PromptTuning
