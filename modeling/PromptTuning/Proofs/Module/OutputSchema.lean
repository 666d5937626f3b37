import PromptTuning.Proofs.Concurrency.Returning
import PromptTuning.Proofs.Concurrency.Serial
import PromptTuning.Proofs.Concurrency.Service
import PromptTuning.Proofs.Schema.Meet

/-!
# The declared output schema

A module declares the schema of its values without looking at how they come
about: a generator that returns its inputs as well declares that of the answer
only, and an empty pipeline that of its input. The schema of every value it
returns contains the declared one, because a composition contains each of its
parts and an empty pipeline checks its input.
-/

namespace PromptTuning

/-- A value has an unambiguous schema that contains a declared one. -/
structure Value.Meets (declared : Schema) (value : Value) : Prop where
  unambiguous : value.schema.Unambiguous
  contains : value.schema.contains declared = true

/-- A module comes to a failure or to a value that meets a declared schema. -/
def Module.Delivers (declared : Schema) (outcome : Except ModuleError Value) :
    Prop :=
  ∀ value, outcome = .ok value -> value.Meets declared

/-- An error keeps the promise about outputs, since it has none. -/
theorem Module.delivers_error {declared : Schema} {reason : ModuleError} :
    Module.Delivers declared (.error reason) :=
  fun _ failed => nomatch failed

namespace Generator

variable {generator : Generator} {input : Value}

/-- What a generator makes of an answer meets the schema of the answer. -/
theorem delivers_result
    (unambiguous : generator.outputSchema.Unambiguous)
    (inputUnambiguous : input.schema.Unambiguous)
    {output : Value}
    (answered : output.schema = generator.outputSchema) :
    Module.Delivers generator.outputSchema (generator.result input output) := by
  intro value made
  unfold result at made
  split at made
  · obtain ⟨both, composed, concatenated⟩ :=
      Value.concat_eq_ok (mapError_eq_ok_iff.mp made)
    rw [answered] at composed
    obtain rfl := (Value.ofMembers_eq_ok concatenated).2
    exact ⟨Schema.unambiguous_of_compose inputUnambiguous unambiguous composed,
      (Schema.contains_parts_of_compose inputUnambiguous
        unambiguous composed).2⟩
  · obtain rfl := Except.ok.inj made
    rw [← answered] at unambiguous ⊢
    exact ⟨unambiguous, Schema.contains_self unambiguous⟩

/-- A call of a generator answers a value that fits the declared output. -/
theorem returns_call
    (unambiguous : generator.outputSchema.Unambiguous)
    (inputUnambiguous : input.schema.Unambiguous)
    (training : Bool) :
    (generator.call training input).Returns
      (Module.Delivers generator.outputSchema) := by
  refine (Activity.returns_trivial _).bind fun instructions _ reply answers =>
    ?_
  cases reply with
  | error cause => exact Module.delivers_error
  | ok output =>
      refine (Activity.returns_trivial _).bind fun recorded _ => ?_
      cases recorded with
      | error cause => exact Module.delivers_error
      | ok _ =>
          exact delivers_result unambiguous inputUnambiguous answers.schema_eq

end Generator

namespace Module

mutual

/-- The schemas that the generators of a module ask for are unambiguous. -/
def Unambiguous : Module -> Prop
  | .generator node => node.outputSchema.Unambiguous
  | .chainOfThought node => node.generator.outputSchema.Unambiguous
  | .pipeline _ _ _ modules => AllUnambiguous modules

/-- The schemas that the generators of several modules ask for are
unambiguous. -/
def AllUnambiguous : List Module -> Prop
  | [] => True
  | node :: rest => node.Unambiguous ∧ AllUnambiguous rest

end

variable (training : Bool)

mutual

/-- A call of a module answers a value that fits the declared output, by
induction on the tree of modules. -/
theorem returns_call
    (node : Module)
    (unambiguous : node.Unambiguous)
    {input : Value}
    (inputUnambiguous : input.schema.Unambiguous) :
    (node.call training input).Returns (Delivers node.outputSchema) := by
  cases node with
  | generator node =>
      rw [call]
      exact Generator.returns_call unambiguous inputUnambiguous training
  | chainOfThought node =>
      rw [call]
      exact Generator.returns_call unambiguous inputUnambiguous training
  | pipeline name description inputSchema modules =>
      rw [call]
      split
      case isFalse => exact delivers_error
      case isTrue contained =>
        exact returns_callAll modules unambiguous ⟨inputUnambiguous, contained⟩

/-- The value that is passed on meets the schema declared so far, which each
module replaces by its own. -/
theorem returns_callAll
    (modules : List Module)
    (unambiguous : AllUnambiguous modules)
    {declared : Schema}
    {input : Value}
    (meets : input.Meets declared) :
    (callAll training input modules).Returns
      (Delivers (lastSchema declared modules)) := by
  cases modules with
  | nil =>
      rw [callAll]
      rintro value ⟨⟩
      exact meets
  | cons node rest =>
      obtain ⟨nodeUnambiguous, restUnambiguous⟩ := unambiguous
      rw [callAll]
      refine (returns_call node nodeUnambiguous
        meets.unambiguous).bind fun outcome delivers => ?_
      cases outcome with
      | error reason => exact delivers_error
      | ok output =>
          exact returns_callAll rest restUnambiguous (delivers output rfl)

end

/-- The schema of every value that a module returns contains the schema that it
declares, in any schedule and for an activity that runs alone. -/
theorem contains_outputSchema_of_call
    {σ : Type}
    {host : ModelHost σ}
    (genuine : host.Genuine)
    (node : Module)
    (unambiguous : node.Unambiguous)
    {input : Value}
    (inputUnambiguous : input.schema.Unambiguous)
    (owner : Owner) :
    (∀ (worlds : List (World σ)) (value : Value),
      (Progress.active (node.call training input)).through host owner worlds =
          .active (.done (.ok value)) ->
        value.schema.contains node.outputSchema = true) ∧
      ∀ (limit : Nat) (world : World σ) (value : Value),
        ((node.call training input).run host owner limit world).1 =
          some (.ok value) ->
          value.schema.contains node.outputSchema = true := by
  have returns := returns_call training node unambiguous inputUnambiguous
  constructor
  · intro worlds value ended
    have started : (Progress.active (node.call training input)).Returns
        (Delivers node.outputSchema) := returns
    have delivers := started.through genuine owner worlds
    rw [ended] at delivers
    exact (delivers value rfl).contains
  · intro limit world value ended
    exact (returns.run genuine owner limit world ended value rfl).contains

/-- A question. -/
def questionSchema : Schema :=
  ⟨none, [.mandatory "question" .string]⟩

/-- An empty pipeline, and a generator that returns the question together with
the answer. -/
def echoing : Module :=
  .pipeline "outer" "" questionSchema
    [.pipeline "inner" "" questionSchema [],
      .generator
        { Generator.create "solver" ⟨none, [.mandatory "answer" .string]⟩
          (.scripted "model") with
          returnInputs := true }]

/-- A world with one script that holds one answer. -/
def echoingWorld : World Scripts :=
  World.fresh.withModels
    [("model", ⟨[.ok (.object [("answer", .string "4")])], none, 0, []⟩)]

theorem contains_outputSchema_of_call_of_echoing :
    ∃ value,
      ((echoing.call true ⟨questionSchema, [("question", .string "2+2")]⟩).run
        Scripts.host 0 0 echoingWorld).1
        = some (.ok value) ∧
      value.schema.contains questionSchema = true ∧
      value.schema.contains echoing.outputSchema = true := by
  have unambiguous : echoing.Unambiguous := by
    simp [echoing, Unambiguous, AllUnambiguous, Generator.create,
      Schema.Unambiguous, Field.mandatory, FieldType.Unambiguous,
      FieldType.AllUnambiguous]
  have inputUnambiguous : questionSchema.Unambiguous := by
    simp [questionSchema, Schema.Unambiguous, Field.mandatory,
      FieldType.Unambiguous, FieldType.AllUnambiguous]
  have returned :
      ((echoing.call true ⟨questionSchema, [("question", .string "2+2")]⟩).run
        Scripts.host 0 0 echoingWorld).1 =
          some (.ok
            ⟨⟨none,
              [.mandatory "question" .string, .mandatory "answer" .string]⟩,
              [("question", .string "2+2"), ("answer", .string "4")]⟩) := rfl
  refine ⟨_, returned, rfl, ?_⟩
  exact (contains_outputSchema_of_call true Scripts.genuine_host
    echoing unambiguous inputUnambiguous
    0).2 0 echoingWorld _ returned

end Module
end PromptTuning
