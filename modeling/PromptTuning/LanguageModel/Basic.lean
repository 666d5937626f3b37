import PromptTuning.Variable.Record

/-!
# Language models

A language model is known by its description: a scripted model by its name, a
served model by the address, key and settings with which it is asked. What a
model answers is not part of the description. A generation request holds the
input, the schema of the answer and everything that goes into the prompt.
Summaries show a model by its name and portable config, and a request by all
that was asked with it.
-/

namespace PromptTuning

/-- Why a language model gives no value. -/
inductive LanguageModelError
  | http (reason : String)
  | response (reason : String)
  | serialization (reason : String)
  | template (reason : String)
  | malformed (reason : String)
  | config (reason : String)
  deriving DecidableEq

namespace LanguageModelError

/-- The wording of a language model error. -/
def message : LanguageModelError -> String
  | .http reason => "http error: " ++ reason
  | .response reason => "response error: " ++ reason
  | .serialization reason => "serialization error: " ++ reason
  | .template reason => "template error: " ++ reason
  | .malformed reason => "output does not conform to schema: " ++ reason
  | .config reason => "unsupported language model config: " ++ reason

/-- The code of a language model error. -/
def code : LanguageModelError -> String
  | .http _ => "Lm.Http"
  | .response _ => "Lm.Response"
  | .serialization _ => "Lm.Serialization"
  | .template _ => "Lm.Template"
  | .malformed _ => "Lm.Malformed"
  | .config _ => "Lm.Config"

instance : Diagnostic LanguageModelError := ⟨code, message, fun _ => []⟩

end LanguageModelError

/-- What a language model is asked for. -/
structure GenerationRequest where
  input : Value
  outputSchema : Schema
  instructions : List String
  examples : List Prediction
  /-- A template in place of the default layout of the prompt. -/
  promptTemplate : Option String
  /-- A fixed system prompt, never trained. -/
  systemPrompt : Option String

/-- A model behind a chat completion server. -/
structure ServedModel where
  endpoint : String
  apiKey : Option String
  model : String
  temperature : Single
  maxTokens : Option UInt32
  timeoutSeconds : UInt64
  /-- The name of the backend, kept in the portable config. -/
  backend : Option String

/-- The description of a language model. -/
inductive LanguageModel
  | scripted (name : String)
  | served (model : ServedModel)

namespace LanguageModel

/-- The name of the model that answers. -/
def name : LanguageModel -> String
  | .scripted name => name
  | .served model => model.model

/-- The portable config from which a model can be resolved again. -/
def config : LanguageModel -> Json
  | .scripted name =>
      .object [("kind", .string "scripted"), ("model", .string name)]
  | .served model =>
      .object
        [("kind", .string "http"),
          ("backend", .ofString? model.backend),
          ("model", .string model.model),
          ("temperature", .ofDouble (model.temperature.convert .double)),
          ("max_tokens",
            model.maxTokens.elim .null fun count => .ofNat count.toNat)]

end LanguageModel

/-- A way to find the model that a portable config describes. -/
abbrev Resolver := Json -> Except LanguageModelError LanguageModel

namespace LanguageModel

/-- The members of a summary of a model. -/
def summary (model : LanguageModel) : Members :=
  [("name", .string model.name), ("config", model.config)]

end LanguageModel

namespace GenerationRequest

/-- A summary of a request. -/
def summary (request : GenerationRequest) : Json :=
  .object
    [("input", request.input.summary),
      ("output_schema", request.outputSchema.toDocument),
      ("instructions", .ofStrings request.instructions),
      ("examples", .array (request.examples.map Prediction.toJson)),
      ("prompt_template", .ofString? request.promptTemplate),
      ("system_prompt", .ofString? request.systemPrompt)]

end GenerationRequest
end PromptTuning
