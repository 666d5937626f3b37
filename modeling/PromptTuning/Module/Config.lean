import PromptTuning.Module.Basic

/-!
# Portable configs of modules

A module is written as a JSON object from which a generator or a chain of
thought can be built again, its language model being resolved from the model's
own config.
-/

namespace PromptTuning

namespace Generator

/-- The portable config of a generator. -/
def config (generator : Generator) : Json :=
  .object
    [("name", .string generator.name),
      ("output_schema", generator.outputSchema.toDocument),
      ("instructions", .ofStrings generator.instructions),
      ("examples", .array (generator.examples.map Prediction.toJson)),
      ("prompt_template", .ofString? generator.promptTemplate),
      ("static_system_prompt", .ofString? generator.systemPrompt),
      ("return_inputs", .boolean generator.returnInputs),
      ("language_model", generator.languageModel.config)]

end Generator

namespace ChainOfThought

/-- The portable config of a chain of thought. -/
def config (chain : ChainOfThought) : Json :=
  .object
    [("name", .string chain.name),
      ("k", .ofNat chain.count),
      ("target_schema", chain.targetSchema.toDocument),
      ("generator", chain.generator.config)]

end ChainOfThought

namespace Module

mutual

/-- The portable config of a module. -/
def config : Module -> Json
  | .generator node => node.config
  | .chainOfThought node => node.config
  | .pipeline name description inputSchema modules =>
      .object
        [("name", .string name),
          ("description", .string description),
          ("input_schema", inputSchema.toDocument),
          ("modules", .array (configs modules))]

/-- The portable configs of several modules. -/
def configs : List Module -> List Json
  | [] => []
  | node :: rest => node.config :: configs rest

end

/-- A string that a config must have. -/
def requiredString (config : Json) (name : String) :
    Except ModuleError String :=
  match (config.get? name).bind Json.asString? with
  | some text => .ok text
  | none => .error (.config ("missing string field '" ++ name ++ "'"))

/-- A schema that a config must have. -/
def requiredSchema (config : Json) (name : String) :
    Except ModuleError Schema :=
  match config.get? name with
  | some document => document.toSchema.mapError .schema
  | none => .error (.config ("missing schema field '" ++ name ++ "'"))

/-- A part of a config that is decoded if present, under its name
in an error. -/
def decodedOr {α : Type} (config : Json) (name : String) (decode : Decoder α)
    (default : α) :
    Except ModuleError α :=
  match config.get? name with
  | none => .ok default
  | some part =>
      (decode part).mapError fun reason =>
        .config (name ++ ": " ++ reason.message)

end Module

namespace Generator

/-- The generator that a config describes. -/
def ofConfig (resolve : Resolver) (config : Json) :
    Except ModuleError Generator := do
  let description ← match config.get? "language_model" with
    | some description => .ok description
    | none => .error (.config "missing 'language_model'")
  let languageModel ← (resolve description).mapError .languageModel
  let name ← Module.requiredString config "name"
  let outputSchema ← Module.requiredSchema config "output_schema"
  let instructions ←
    Module.decodedOr config "instructions" (Decoder.list Decoder.string) []
  let examples ←
    Module.decodedOr config "examples" (Decoder.list Prediction.decode) []
  return {
    name, outputSchema, languageModel, instructions, examples
    promptTemplate := (config.get? "prompt_template").bind Json.asString?
    systemPrompt := (config.get? "static_system_prompt").bind Json.asString?
    returnInputs :=
      ((config.get? "return_inputs").bind Json.asBoolean?).getD false
    store := none }

end Generator

namespace ChainOfThought

/-- The chain of thought that a config describes. -/
def ofConfig (resolve : Resolver) (config : Json) :
    Except ModuleError ChainOfThought := do
  let description ← match config.get? "generator" with
    | some description => .ok description
    | none => .error (.config "missing 'generator'")
  let generator ← Generator.ofConfig resolve description
  let count ← match (config.get? "k").bind Json.asNat? with
    | some count => .ok count
    | none => .error (.config "missing integer field 'k'")
  let name ← Module.requiredString config "name"
  let targetSchema ← Module.requiredSchema config "target_schema"
  return { name, count, targetSchema, generator }

end ChainOfThought

end PromptTuning
