import Mathlib.Logic.Relation
import PromptTuning.Proofs.Concurrency.Upkeep

/-!
# Consulting language models

A call of a module outside training reads variables and asks language models, at
most as many questions as the module counts. It pauses for the answers alone,
and leaves everything but the state of the language models as it is. What it has
heard by some moment says how it came there: each question was put when the one
before was answered, and others may have asked in between.
-/

namespace PromptTuning

variable {σ : Type}

/-- Language models come from one state to another by handling requests. -/
def ModelHost.Reaches (host : ModelHost σ) : σ -> σ -> Prop :=
  Relation.ReflTransGen fun before after =>
    ∃ model request, after = (host.handle model request before).2

/-- Handling one request is a way of reaching the state it leaves. -/
theorem ModelHost.reaches_handle (host : ModelHost σ) (model : LanguageModel)
    (request : GenerationRequest) (state : σ) :
    host.Reaches state (host.handle model request state).2 :=
  .single ⟨model, request, rfl⟩

namespace Activity

variable {α β : Type} {post : α -> Prop} {onward : β -> Prop} {count more : Nat}

/-- An activity that reads and asks a number of questions at most, with results
that have a property. -/
inductive Asks (post : α -> Prop) : Nat -> Activity α -> Prop
  | done {count : Nat} {result : α} (fits : post result) :
      Asks post count (.done result)
  | read {count : Nat} {store : StoreId} {key : String}
      {resume : Option Variable -> Activity α}
      (resumed : ∀ found, Asks post count (resume found)) :
      Asks post count (.act (.read store key) resume)
  | generate {count : Nat} {model : LanguageModel} {request : GenerationRequest}
      {resume : Reply -> Activity α}
      (resumed : ∀ reply, Asks post count (resume reply)) :
      Asks post (count + 1) (.generate model request resume)

namespace Asks

/-- An activity that asks at most so often asks at most more often. -/
theorem mono {activity : Activity α} (asks : activity.Asks post count)
    (fewer : count ≤ more) :
    activity.Asks post more := by
  induction asks generalizing more with
  | done fits => exact .done fits
  | read _ inductionHypothesis =>
      exact .read fun found => inductionHypothesis found fewer
  | generate _ inductionHypothesis =>
      obtain ⟨fewer', rfl⟩ : ∃ less, more = less + 1 := ⟨more - 1, by omega⟩
      exact .generate fun reply => inductionHypothesis reply (by omega)

/-- The questions of two activities in a row add up. -/
theorem bind
    {activity : Activity α}
    {next : α -> Activity β}
    (asks : activity.Asks post count)
    (continued : ∀ result, post result -> (next result).Asks onward more) :
    (activity.bind next).Asks onward (count + more) := by
  induction asks with
  | done fits => exact (continued _ fits).mono (by omega)
  | read _ inductionHypothesis => exact .read inductionHypothesis
  | generate _ inductionHypothesis =>
      rw [Nat.add_right_comm]
      exact .generate inductionHypothesis

end Asks

end Activity

/-- A generator asks one question outside training. -/
theorem Generator.asks_call (generator : Generator) (input : Value) :
    (generator.call false input).Asks (fun _ => True) 1 := by
  have asked (instructions : List String) :
      (Activity.generate generator.languageModel
        (generator.request instructions input)
        fun reply => .done (generator.answer input reply)).Asks
        (fun _ => True) 1 :=
    .generate fun _ => .done trivial
  rw [call_eq]
  unfold activeInstructions
  cases generator.store with
  | none => exact asked generator.instructions
  | some store => exact .read fun _ => asked _

namespace Module

mutual

/-- A call of a module asks at most as many questions as the module counts. -/
theorem asks_call (input : Value) (node : Module) :
    (node.call false input).Asks (fun _ => True) node.questionCount := by
  cases node with
  | generator node =>
      rw [call]
      exact node.asks_call input
  | chainOfThought node =>
      rw [call]
      exact node.generator.asks_call input
  | pipeline name description inputSchema modules =>
      rw [call]
      split
      · exact asks_callAll input modules
      · exact .done trivial

/-- Modules called one after another ask as often as all of them together. -/
theorem asks_callAll (input : Value) (modules : List Module) :
    (callAll false input modules).Asks (fun _ => True)
      (questionCountOf modules) := by
  cases modules with
  | nil =>
      rw [callAll]
      exact .done trivial
  | cons node rest =>
      rw [callAll]
      refine (asks_call input node).bind fun outcome _ => ?_
      cases outcome with
      | error reason => exact .done trivial
      | ok output => exact asks_callAll output rest

end

end Module

/-- A generation that fails keeps what was attached before. -/
abbrev Optimizer.FailsPartly
    (outcome : Except OptimizationError (List String)) : Prop :=
  ∀ reason, outcome = .error reason -> reason.isPartial = true

/-- Generating asks at most as many questions as its program counts. -/
theorem Optimizer.asks_generate (optimizer : Optimizer) (program : Module)
    (entry : Variable) :
    (optimizer.generate program entry).Asks FailsPartly
      program.questionCount := by
  unfold generate
  rw [poolInput_eq]
  refine (program.asks_call _).bind fun outcome _ => (?_ : Activity.Asks _ 0 _)
  cases outcome with
  | error reason =>
      refine .done ?_
      rintro _ ⟨⟩
      exact isPartial_ofModule reason
  | ok output =>
      exact .done fun reason failed =>
        @isPartial_of_linesOfReply_eq_error (.ok output) reason failed

namespace Activity

variable {α β : Type}

/-- How an activity that began at some moment comes to where it stands at
another: it reads anything, and every question is put at once and
answered before the deadline, by language models that others may have
asked in the meantime. -/
inductive Heard (host : ModelHost σ) (deadline : Nat) (activity : Activity α)
    (start : Nat)
    (initial : σ) : Nat -> σ -> Activity α -> Prop
  | begin {models : σ} (reached : host.Reaches initial models) :
      Heard host deadline activity start initial start models activity
  | read {clock : Nat} {models : σ} {store : StoreId} {key : String}
      {resume : Option Variable -> Activity α}
      (heard : Heard host deadline activity start initial clock models
        (.act (.read store key) resume))
      (found : Option Variable) :
      Heard host deadline activity start initial clock models (resume found)
  | answered {clock : Nat} {models later : σ} {model : LanguageModel}
      {request : GenerationRequest} {resume : Reply -> Activity α}
      (heard : Heard host deadline activity start initial clock models
        (.generate model request resume)) (reached : host.Reaches models later)
      (inTime : clock + host.wait models model request ≤ deadline) :
      Heard host deadline activity start initial
        (clock + host.wait models model request)
        (host.handle model request later).2
        (resume (host.handle model request later).1)

/-- Who has one question only is still to be answered or has been. -/
theorem Heard.of_question
    {host : ModelHost σ}
    {deadline start clock : Nat}
    {initial models : σ}
    {model : LanguageModel}
    {request : GenerationRequest}
    {conclude : Reply -> α}
    {rest : Activity α}
    (heard : (Activity.generate model request fun reply =>
      .done (conclude reply)).Heard host deadline start initial
      clock models rest) :
    (rest = .generate model request (fun reply => .done (conclude reply)) ∧
        clock = start ∧
        host.Reaches initial models) ∨
      ∃ asked later, host.Reaches initial asked ∧ host.Reaches asked later ∧
        start + host.wait asked model request ≤ deadline ∧
        models = (host.handle model request later).2 ∧
        rest = .done (conclude (host.handle model request later).1) := by
  induction heard with
  | begin reached => exact .inl ⟨rfl, rfl, reached⟩
  | read _ _ inductionHypothesis =>
      obtain ⟨same, _⟩ | ⟨_, _, _, _, _, _, same⟩ := inductionHypothesis
      · contradiction
      · contradiction
  | answered _ reached inTime inductionHypothesis =>
      obtain ⟨same, rfl, before⟩ | ⟨_, _, _, _, _, _, same⟩ :=
        inductionHypothesis
      · obtain ⟨rfl, rfl, rfl⟩ := Activity.generate.inj same
        exact .inr ⟨_, _, before, reached, inTime, rfl, rfl⟩
      · contradiction

/-- An activity that goes on until it has to wait has its result or awaits an
answer. Nothing but the state of the language models is another one then. -/
theorem Asks.advance_bind
    {post : α -> Prop}
    {count deadline start : Nat}
    {host : ModelHost σ}
    {initial : σ}
    {whole activity : Activity α}
    {world : World σ}
    (asks : activity.Asks post count)
    (heard : whole.Heard host deadline start initial world.clock
      world.models activity)
    (inTime : world.clock ≤ deadline)
    (owner : Owner)
    (next : α -> Activity β) :
    ∃ models, host.Reaches world.models models ∧
      ((∃ result, post result ∧
          whole.Heard host deadline start initial world.clock models
            (.done result) ∧
          (activity.bind next).advance host owner world =
            (next result).advance host owner { world with models := models }) ∨
        ∃ left model request resume, left < count ∧
          (∀ reply, (resume reply).Asks post left) ∧
          host.wait models model request ≠ 0 ∧
          whole.Heard host deadline start initial world.clock models
            (.generate model request resume) ∧
          (activity.bind next).advance host owner world =
            (.awaitingModel (world.clock + host.wait models model request) model
              request (fun reply => (resume reply).bind next),
              { world with models := models })) := by
  induction asks generalizing world with
  | done fits => exact ⟨world.models, .refl, .inl ⟨_, fits, heard, rfl⟩⟩
  | read _ inductionHypothesis =>
      exact inductionHypothesis _ (heard.read _) inTime
  | @generate count model request resume resumed inductionHypothesis =>
      by_cases soon : host.wait world.models model request = 0
      · have answerInTime :
            world.clock + host.wait world.models model request ≤ deadline := by
          omega
        have answered := heard.answered .refl answerInTime
        rw [soon, Nat.add_zero] at answered
        obtain ⟨models, reached, ended⟩ := @inductionHypothesis
          (host.handle model request world.models).1
          (world.ask host model request).2 answered
          inTime
        refine ⟨models,
          (host.reaches_handle model request world.models).trans reached, ?_⟩
        simp only [Activity.bind, Activity.advance, soon, if_true]
        obtain ⟨result, fits, heard, advanced⟩ |
          ⟨left, model, request, resume, fewer, asks, later, heard, advanced⟩ :=
          ended
        · exact .inl ⟨result, fits, heard, advanced⟩
        · exact .inr
            ⟨left, model, request, resume, by omega, asks, later,
              heard, advanced⟩
      · refine ⟨world.models, .refl,
          .inr ⟨count, model, request, resume, by omega, resumed, soon,
            heard, ?_⟩⟩
        simp only [Activity.bind, Activity.advance, soon, if_false]

end Activity
end PromptTuning
