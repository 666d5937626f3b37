import PromptTuning.Optimizer.Optimize
import PromptTuning.Proofs.Schema.Acceptance

/-!
# The input and the answer of the generation program

Candidates and predictions always make an input of the generation program: the
pool is never refused and holds both lists as they are. What an answer of the
program stands for depends only on its `instructions` field.
-/

namespace PromptTuning

namespace FieldType

/-- A reward, or null in its place, is accepted as an optional number. -/
theorem accepts_ofReward (reward : Option Double) :
    (FieldType.optional .number).Accepts (.ofReward reward) := by
  rcases reward with _ | (_ | _ | _) <;>
    simp [Json.ofReward, Json.ofDouble, Accepts]

/-- A reward, or null in its place, is in normal form. -/
theorem normalize_ofReward (reward : Option Double) :
    (FieldType.optional .number).normalize (.ofReward reward) =
      .ofReward reward := by
  rcases reward with _ | (_ | _ | _) <;>
    simp [Json.ofReward, Json.ofDouble, normalize]

/-- Lines of text are accepted as a list of texts. -/
theorem accepts_ofStrings (lines : List String) :
    (FieldType.list .string).Accepts (.ofStrings lines) := by
  simp [Json.ofStrings, Accepts]

/-- Lines of text are in normal form. -/
theorem normalize_ofStrings (lines : List String) :
    (FieldType.list .string).normalize (.ofStrings lines) =
      .ofStrings lines := by
  simp [Json.ofStrings, normalize]

/-- Any object is accepted as a map of any values. -/
theorem accepts_map_any (members : Members) :
    (FieldType.map .any).Accepts (.object members) := by
  simp [Accepts]

/-- Any object is in normal form as a map of any values. -/
theorem normalize_map_any (members : Members) :
    (FieldType.map .any).normalize (.object members) = .object members := by
  simp [normalize]

/-- A list whose items a type accepts as they are is accepted and
kept as it is. -/
theorem list_keeps
    {item : FieldType}
    (items : List Json)
    (accepted : ∀ value ∈ items, item.Accepts value)
    (kept : ∀ value ∈ items, item.normalize value = value) :
    (FieldType.list item).Accepts (.array items) ∧
      (FieldType.list item).normalize (.array items) = .array items := by
  constructor
  · rw [Accepts]
    exact ⟨items, rfl, accepted⟩
  · rw [normalize, List.map_congr_left kept, List.map_id']

end FieldType

namespace Instructions

/-- An instruction set is written as one that its reference schema accepts. -/
theorem accepts_toJson (set : Instructions) :
    (FieldType.object Catalogue.instructions).Accepts set.toJson := by
  have lines := FieldType.accepts_ofStrings set.instructions
  have reward := FieldType.accepts_ofReward set.reward
  refine ⟨set.toMembers, rfl, ⟨⟨set.label, rfl⟩, lines, reward, trivial⟩, ?_⟩
  simp [toMembers, Members.keys, Catalogue.defaultedLabel, Catalogue.described,
    Catalogue.rewardField, Field.voluntary, Field.mandatory, Field.withDefault,
    Field.withDescription]

/-- An instruction set is written in normal form. -/
theorem normalize_toJson (set : Instructions) :
    (FieldType.object Catalogue.instructions).normalize set.toJson =
      set.toJson := by
  have lines := FieldType.normalize_ofStrings set.instructions
  have reward := FieldType.normalize_ofReward set.reward
  change Json.object
      [("label", .string set.label),
        ("instructions",
          (FieldType.list .string).normalize (.ofStrings set.instructions)),
        ("reward",
          (FieldType.optional .number).normalize (.ofReward set.reward))] = _
  rw [lines, reward]
  rfl

end Instructions

namespace Prediction

/-- A prediction is written as one that its reference schema accepts. -/
theorem accepts_toJson (prediction : Prediction) :
    (FieldType.object Catalogue.prediction).Accepts prediction.toJson := by
  have inputs := FieldType.accepts_map_any prediction.inputs
  have outputs := FieldType.accepts_map_any prediction.outputs
  have reward := FieldType.accepts_ofReward prediction.reward
  refine ⟨prediction.toMembers, rfl,
    ⟨⟨prediction.label, rfl⟩, inputs, outputs, reward, trivial⟩, ?_⟩
  simp [toMembers, Members.keys, Catalogue.defaultedLabel, Catalogue.anyMap,
    Catalogue.described, Catalogue.rewardField, Field.voluntary,
    Field.mandatory, Field.withDefault, Field.withDescription]

/-- A prediction is written in normal form. -/
theorem normalize_toJson (prediction : Prediction) :
    (FieldType.object Catalogue.prediction).normalize prediction.toJson =
      prediction.toJson := by
  have inputs := FieldType.normalize_map_any prediction.inputs
  have outputs := FieldType.normalize_map_any prediction.outputs
  have reward := FieldType.normalize_ofReward prediction.reward
  change Json.object
      [("label", .string prediction.label),
        ("inputs", (FieldType.map .any).normalize (.object prediction.inputs)),
        ("outputs",
          (FieldType.map .any).normalize (.object prediction.outputs)),
        ("reward",
          (FieldType.optional .number).normalize
            (.ofReward prediction.reward))] = _
  rw [inputs, outputs, reward]
  rfl

end Prediction

namespace Decoder

/-- Nothing but a text is decoded as that text. -/
theorem string_eq_ok_iff {content : Json} {text : String} :
    string content = .ok text ↔ content = .string text := by
  cases content <;> simp [string, wrongType]

/-- A list of strings is decoded from exactly the array of these strings. -/
theorem list_string_eq_ok_iff {content : Json} {lines : List String} :
    list string content = .ok lines ↔ content = .ofStrings lines := by
  cases content with
  | array items =>
      simp only [list, Json.ofStrings, Json.array.injEq]
      induction items generalizing lines with
      | nil => cases lines <;> simp [pure, Except.pure]
      | cons item rest inductionHypothesis =>
          rw [List.mapM_cons]
          cases lines with
          | nil =>
              cases string item <;> cases rest.mapM string <;>
                simp [bind, Except.bind, pure, Except.pure]
          | cons line others =>
              rw [List.map_cons, List.cons.injEq, ← string_eq_ok_iff,
                ← inductionHypothesis]
              cases string item <;> cases rest.mapM string <;>
                simp [bind, Except.bind, pure, Except.pure]
  | _ => simp [list, wrongType, Json.ofStrings]

end Decoder

namespace Optimizer

/-- The members of the generation input for candidates and predictions. -/
def poolMembers (candidates : List Instructions)
    (predictions : List Prediction) : Members :=
  [("instructions_candidates", .array (candidates.map Instructions.toJson)),
    ("predictions", .array (predictions.map Prediction.toJson))]

/-- No pool is refused, and the input holds its records as they are. -/
theorem poolInput_eq (candidates : List Instructions)
    (predictions : List Prediction) :
    poolInput candidates predictions =
      .ok ⟨inputSchema, poolMembers candidates predictions⟩ := by
  obtain ⟨candidatesFit, candidatesKept⟩ :=
    FieldType.list_keeps (candidates.map Instructions.toJson)
      (List.forall_mem_map.mpr fun set _ => set.accepts_toJson)
      (List.forall_mem_map.mpr fun set _ => set.normalize_toJson)
  obtain ⟨predictionsFit, predictionsKept⟩ :=
    FieldType.list_keeps (predictions.map Prediction.toJson)
      (List.forall_mem_map.mpr fun prediction _ => prediction.accepts_toJson)
      (List.forall_mem_map.mpr fun prediction _ => prediction.normalize_toJson)
  have clean :
      inputSchema.violations (poolMembers candidates predictions) = [] := by
    apply (FieldType.violations_eq_nil_iff (.object inputSchema) []
      (.object (poolMembers candidates predictions))).mpr
    refine ⟨_, rfl, ⟨candidatesFit, predictionsFit, trivial⟩, ?_⟩
    simp [poolMembers, Members.keys, Catalogue.described, Field.mandatory,
      Field.withDescription]
  have kept : inputSchema.normalize (poolMembers candidates predictions) =
      poolMembers candidates predictions := by
    change
      [("instructions_candidates",
          (FieldType.list (.object Catalogue.instructions)).normalize
            (.array (candidates.map Instructions.toJson))),
        ("predictions",
          (FieldType.list (.object Catalogue.prediction)).normalize
            (.array (predictions.map Prediction.toJson)))] = _
    rw [candidatesKept, predictionsKept]
    rfl
  unfold poolInput Value.ofMembers
  rw [← poolMembers, clean, kept]
  rfl

/-- The schema of an answer: the lines of an instruction set. -/
def answerSchema : Schema :=
  Catalogue.titled "Instructions"
    [Catalogue.described "instructions" (.list .string)
      "The list of instructions"]

/-- The schema of the answer can be made. -/
theorem outputSchema_eq : outputSchema = .ok answerSchema := by
  rfl

/-- What a pass asks about a variable: the best candidates and the best
predictions. -/
def question (optimizer : Optimizer) (entry : Variable) :
    GenerationRequest where
  input :=
    ⟨inputSchema,
      poolMembers
        (optimizer.candidateRanking.top optimizer.shown entry.candidates)
        (optimizer.predictionRanking.top optimizer.shown entry.predictions)⟩
  outputSchema := answerSchema
  instructions := optimizer.metaInstructions
  examples := []
  promptTemplate := none
  systemPrompt := none

/-- The instructions a reply stands for. -/
def linesOfReply :
    Except LanguageModelError Value -> Except OptimizationError (List String)
  | .error cause => .error (.ofModule (.languageModel cause))
  | .ok output => generatedLines output

/-- The schema of the question contains itself. -/
theorem inputSchema_contains_self :
    inputSchema.contains inputSchema = true := by
  rfl

/-- An optimizer's own program asks its language model one question about
a variable. -/
theorem generate_eq
    {optimizer : Optimizer}
    {program : Module}
    (built : optimizer.buildProgram = .ok program)
    (entry : Variable) :
    ∃ model, optimizer.languageModel = some model ∧
      optimizer.generate program entry =
        .generate model (optimizer.question entry) fun reply =>
          .done (linesOfReply reply) := by
  unfold buildProgram at built
  cases described : optimizer.languageModel with
  | none => simp [described] at built
  | some model =>
      refine ⟨model, rfl, ?_⟩
      simp only [described, outputSchema_eq, Except.ok.injEq] at built
      subst built
      unfold generate
      rw [poolInput_eq]
      simp only [Module.call, inputSchema_contains_self, if_true]
      change Activity.generate model (optimizer.question entry) _ = _
      congr 1
      funext reply
      cases reply with
      | error cause => rfl
      | ok output => rfl

/-- The lines of an answer are the strings listed under its `instructions`. -/
theorem generatedLines_eq_ok_iff {output : Value} {lines : List String} :
    generatedLines output = .ok lines ↔
    output.field? "instructions" = some (.ofStrings lines) := by
  unfold generatedLines
  cases found : output.field? "instructions" with
  | none => simp
  | some content =>
      simp only [Option.some.injEq]
      rw [← Decoder.list_string_eq_ok_iff]
      exact mapError_eq_ok_iff

/-- An answer without lines counts as malformed output. -/
theorem exists_malformedOutput_of_generatedLines
    {output : Value}
    {reason : OptimizationError}
    (failed : generatedLines output = .error reason) :
    ∃ text, reason = .malformedOutput text := by
  unfold generatedLines at failed
  split at failed
  · exact ⟨_, (Except.error.inj failed).symm⟩
  · rename_i content _
    cases decoded : Decoder.list Decoder.string content with
    | ok lines =>
        rw [decoded] at failed
        have impossible : Except.ok lines = Except.error reason := failed
        contradiction
    | error cause =>
        rw [decoded] at failed
        exact ⟨_, (Except.error.inj failed).symm⟩

/-- A reply from which no instructions can be read counts as a failed
generation. -/
theorem isPartial_of_linesOfReply_eq_error
    {reply : Except LanguageModelError Value}
    {reason : OptimizationError}
    (failed : linesOfReply reply = .error reason) :
    reason.isPartial = true := by
  cases reply with
  | error cause =>
      obtain rfl :
          OptimizationError.ofModule (.languageModel cause) = reason := by
            simpa [linesOfReply] using failed
      cases cause <;> rfl
  | ok output =>
      obtain ⟨text, rfl⟩ := exists_malformedOutput_of_generatedLines failed
      rfl

end Optimizer

end PromptTuning
