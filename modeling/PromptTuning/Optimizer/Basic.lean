import PromptTuning.Module.Config
import PromptTuning.Ranking

/-!
# The prompt optimizer

The optimizer regenerates the instructions of a variable by asking a language
model that is shown the best earlier instruction sets and the best predictions,
each with its reward. The program that asks is built on first use, unless one
was supplied.
-/

namespace PromptTuning

/-- Why the generation program cannot be built. -/
inductive BuildError
  | missingLanguageModel
  | schema (cause : SchemaError)
  | languageModel (cause : LanguageModelError)
  | config (reason : String)
  deriving DecidableEq

namespace BuildError

/-- The wording of a build error. -/
def message : BuildError -> String
  | .missingLanguageModel =>
      "no language model configured and no program supplied"
  | .schema cause => cause.message
  | .languageModel cause => "language model error: " ++ cause.message
  | .config reason => "invalid optimizer config: " ++ reason

/-- The code of a build error. -/
def code : BuildError -> String
  | .missingLanguageModel => "Build.MissingLanguageModel"
  | .schema cause => "Build.Schema." ++ cause.code
  | .languageModel cause => "Build." ++ cause.code
  | .config _ => "Build.Config"

instance : Diagnostic BuildError := ⟨code, message, fun _ => []⟩

end BuildError

/-- Which of several optimizers. -/
abbrev OptimizerId := Nat

/-- The settings of an optimizer. -/
structure Optimizer where
  /-- Tells apart the generation programs of several optimizers. -/
  id : OptimizerId
  name : String
  description : String
  /-- The number of instruction sets and of predictions shown at most. -/
  shown : Nat
  languageModel : Option LanguageModel
  metaInstructions : List String
  /-- How the instruction sets that are shown are chosen. -/
  candidateRanking : Ranking Instructions.reward
  /-- How the predictions that are shown are chosen. -/
  predictionRanking : Ranking Prediction.reward

namespace Optimizer

/-- The number of items shown unless another is given. -/
def defaultShown : Nat := 10

/-- The instructions given to the writer of instructions. -/
def defaultMetaInstructions : List String :=
  ["Your task is to generate instructions that maximize rewards.",
    "The reward ranges from 0.0 to 1.0",
    "Below are some previous instructions candidates with their rewards.",
    "Generate instructions that are different from all the candidates instructions.",
    "The instructions should be concise, effective and generally applicable to all predictions below."]

/-- The optimizer with every setting at its default. -/
def standard (id : OptimizerId) (languageModel : Option LanguageModel) :
    Optimizer where
  id := id
  name := "opro"
  description := "Optimization by PROmpting"
  shown := defaultShown
  languageModel := languageModel
  metaInstructions := defaultMetaInstructions
  candidateRanking := .insertion
  predictionRanking := .insertion

/-- The optimizer with another number of items shown; zero counts as one. -/
def withShown (count : Nat) (optimizer : Optimizer) : Optimizer :=
  { optimizer with shown := max count 1 }

/-- The input of the generation program: instruction sets and predictions. -/
def inputSchema : Schema :=
  Catalogue.titled "OPROInputs"
    [Catalogue.described "instructions_candidates"
        (.list (.object Catalogue.instructions))
        "The list of previous instructions candidates",
      Catalogue.described "predictions" (.list (.object Catalogue.prediction))
        "The list of previous predictions"]

/-- The output of the generation program: an instruction set without label
and reward. -/
def outputSchema : Except SchemaError Schema :=
  Catalogue.instructions.mask ["label", "reward"]

/-- The generation program an optimizer builds. -/
def buildProgram (optimizer : Optimizer) : Except BuildError Module :=
  match optimizer.languageModel with
  | none => .error .missingLanguageModel
  | some languageModel =>
      match outputSchema with
      | .error cause => .error (.schema cause)
      | .ok schema =>
          let writer :=
            { Generator.create (optimizer.name ++ "_generator") schema
              languageModel with
              instructions := optimizer.metaInstructions }
          .ok (.pipeline (optimizer.name ++ "_program")
            "Generate new instructions from rewarded history" inputSchema
            [.generator writer])

/-- The portable config of an optimizer, given the program it has, if any. -/
def config (optimizer : Optimizer) (program : Option Module) : Json :=
  .object
    [("name", .string optimizer.name),
      ("description", .string optimizer.description),
      ("k_best", .ofNat optimizer.shown),
      ("meta_instructions", .ofStrings optimizer.metaInstructions),
      ("language_model",
        optimizer.languageModel.elim .null LanguageModel.config),
      ("program", program.elim .null Module.config)]

/-- The optimizer that a config describes. -/
def ofConfig (id : OptimizerId) (resolve : Resolver) (config : Json) :
    Except BuildError Optimizer := do
  let languageModel ← match config.get? "language_model" with
    | none | some .null => .ok none
    | some description =>
        ((resolve description).mapError .languageModel).map some
  let base := standard id languageModel
  let shown ← match config.get? "k_best" with
    | none => .ok base.shown
    | some count =>
        match count.asNat? with
        | some count => .ok (max count 1)
        | none => .error (.config "k_best must be an integer")
  let metaInstructions ← match config.get? "meta_instructions" with
    | none => .ok base.metaInstructions
    | some lines =>
        (Decoder.list Decoder.string lines).mapError fun reason =>
          .config ("meta_instructions: " ++ reason.message)
  return { base with
    shown
    name := ((config.get? "name").bind Json.asString?).getD base.name
    description :=
      ((config.get? "description").bind Json.asString?).getD base.description
    metaInstructions }

end Optimizer

end PromptTuning
