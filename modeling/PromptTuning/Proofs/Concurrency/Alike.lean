import PromptTuning.Module.Call

/-!
# Activities that only look

Some activities read variables and ask language models but change nothing, and
what they come to depends on the replies alone. `Activity.Alike` relates two
activities that stay in step whatever each of them reads, up to a relation on
their results. Calling a module outside training is alike to itself: the store
may change which question is asked, but never what becomes of the reply.
-/

namespace PromptTuning
namespace Activity

/-- Two activities that only look and come to related results on the same
replies, whatever each of them reads. -/
inductive Alike {α β : Type} (uses : Optimizer -> Prop)
    (related : α -> β -> Prop) :
    Activity α -> Activity β -> Prop
  | done {first : α} {second : β} (results : related first second) :
      Alike uses related (.done first) (.done second)
  | read
      {store : StoreId}
      {key : String}
      {left : Option Variable -> Activity α}
      {right : Option Variable -> Activity β}
      (resumed :
        ∀ first second, Alike uses related (left first) (right second)) :
      Alike uses related (.act (.read store key) left)
        (.act (.read store key) right)
  | program
      {optimizer : Optimizer}
      {left : Except BuildError Module -> Activity α}
      {right : Except BuildError Module -> Activity β}
      (used : uses optimizer)
      (resumed : ∀ answer, Alike uses related (left answer) (right answer)) :
      Alike uses related (.act (.program optimizer) left)
        (.act (.program optimizer) right)
  | generate
      {model : LanguageModel}
      {first second : GenerationRequest}
      {left : Except LanguageModelError Value -> Activity α}
      {right : Except LanguageModelError Value -> Activity β}
      (resumed : ∀ reply, Alike uses related (left reply) (right reply)) :
      Alike uses related (.generate model first left)
        (.generate model second right)

namespace Alike

variable {α β γ δ : Type} {uses : Optimizer -> Prop}

/-- Alike activities that go on alike from related results are alike
as a whole. -/
theorem bind
    {related : α -> β -> Prop}
    {onward : γ -> δ -> Prop}
    {left : Activity α}
    {right : Activity β}
    {next : α -> Activity γ}
    {other : β -> Activity δ}
    (alike : Alike uses related left right)
    (continued : ∀ first second, related first second ->
      Alike uses onward (next first) (other second)) :
    Alike uses onward (left.bind next) (right.bind other) := by
  induction alike with
  | done results => exact continued _ _ results
  | read _ inductionHypothesis => exact .read inductionHypothesis
  | program used _ inductionHypothesis =>
      exact .program used inductionHypothesis
  | generate _ inductionHypothesis => exact .generate inductionHypothesis

end Alike
end Activity

variable {uses : Optimizer -> Prop}

namespace Generator

/-- What a call of a generator outside training makes of the reply. -/
def answer (generator : Generator) (input : Value) :
    Except LanguageModelError Value -> Except ModuleError Value
  | .error cause => .error (.languageModel cause)
  | .ok output => generator.result input output

/-- Outside training a generator makes one request, with the
instructions it has. -/
theorem call_eq (generator : Generator) (input : Value) :
    generator.call false input =
      generator.activeInstructions.bind fun instructions =>
        .generate generator.languageModel
          (generator.request instructions input) fun reply =>
            .done (generator.answer input reply) := by
  unfold call
  change generator.activeInstructions.bind _ = _
  congr 1
  funext instructions
  congr 1
  funext reply
  cases reply <;> rfl

/-- Looking up instructions reads the store at the same place in every run. -/
theorem alike_activeInstructions (generator : Generator) :
    Activity.Alike uses (fun _ _ => True) generator.activeInstructions
      generator.activeInstructions := by
  unfold activeInstructions
  cases generator.store with
  | none => exact .done trivial
  | some store => exact .read fun _ _ => .done trivial

/-- Two calls of one generator ask the same and answer the same to the
same reply. -/
theorem alike_call (generator : Generator) (input : Value) :
    Activity.Alike uses (· = ·) (generator.call false input)
      (generator.call false input) := by
  rw [call_eq]
  apply generator.alike_activeInstructions.bind
  intro _ _ _
  exact .generate fun _ => .done rfl

end Generator

namespace Module

mutual

/-- Outside training a module only looks, and its result depends on the
replies alone. -/
theorem alike_call (input : Value) (node : Module) :
    Activity.Alike uses (· = ·) (node.call false input)
      (node.call false input) := by
  cases node with
  | generator node =>
      rw [call]
      exact node.alike_call input
  | chainOfThought node =>
      rw [call]
      exact node.generator.alike_call input
  | pipeline name description inputSchema modules =>
      rw [call]
      split
      · exact alike_callAll input modules
      · exact .done rfl

/-- Modules that are called one after another are alike if each of them is. -/
theorem alike_callAll (input : Value) (modules : List Module) :
    Activity.Alike uses (· = ·) (callAll false input modules)
      (callAll false input modules) := by
  cases modules with
  | nil =>
      rw [callAll]
      exact .done rfl
  | cons node rest =>
      rw [callAll]
      apply (alike_call input node).bind
      rintro outcome _ rfl
      cases outcome with
      | error reason => exact .done rfl
      | ok output => exact alike_callAll output rest

end

end Module
end PromptTuning
