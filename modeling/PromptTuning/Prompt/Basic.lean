import PromptTuning.LanguageModel.Basic
import PromptTuning.Template.Rendering

/-!
# Prompts

A prompt is a system message and a user message. The system message is a fixed
text followed by the rules for the answer and a list of its fields. The user
message is a template rendered with the instructions, the examples, the input
and the schema of the answer.
-/

namespace PromptTuning

/-- The two messages that a model is sent. -/
structure Prompt where
  system : String
  user : String

namespace Prompt

/-- The start of the system message unless another is given. -/
def defaultSystem : String :=
  "You are a precise assistant. You answer with structured JSON only."

/-- The template of the user message unless another is given. -/
def defaultTemplate : String :=
  String.join
    ["\x7b\x7b#if instructions\x7d\x7d\n",
      "Instructions:\n",
      "\x7b\x7b#each instructions\x7d\x7d\n",
      "- \x7b\x7bthis\x7d\x7d\n",
      "\x7b\x7b/each\x7d\x7d\n",
      "\n",
      "\x7b\x7b/if\x7d\x7d\n",
      "\x7b\x7b#if examples\x7d\x7d\n",
      "Examples:\n",
      "\x7b\x7b#each examples\x7d\x7d\n",
      "Input: \x7b\x7binputs\x7d\x7d\n",
      "Output: \x7b\x7boutputs\x7d\x7d\n",
      "\x7b\x7b/each\x7d\x7d\n",
      "\n",
      "\x7b\x7b/if\x7d\x7d\n",
      "Input:\n",
      "\x7b\x7binput\x7d\x7d\n",
      "\n",
      "Return a JSON object matching this JSON Schema:\n",
      "\x7b\x7boutput_schema\x7d\x7d\n"]

/-- The line of a field in the system message. -/
def fieldLine (field : Field) : String :=
  let remarks :=
    (field.description.map ("desc=" ++ ·)).toList ++
      (field.default.map fun value => "default=" ++ value.compact).toList
  "  - " ++ field.name ++ " (" ++ field.type.describe ++ ", " ++
    (if field.required then "required" else "optional") ++ ")" ++
    (if remarks.isEmpty then "" else ": " ++ "; ".intercalate remarks) ++ "\n"

/-- The system message for a schema of the answer. -/
def systemFor (base : Option String) (schema : Schema) : String :=
  String.join
    [Text.trim (base.getD defaultSystem),
      "\n\nOutput Rules:\n",
      "1) Return ONLY one valid JSON object matching the output schema.\n",
      "2) Include every required field.\n",
      "3) Do not add fields that are not listed below.\n",
      "\nOutput fields:",
      if schema.fields.isEmpty then " []\n"
      else "\n" ++ String.join (schema.fields.map fieldLine)]

/-- What the template of the user message may refer to. -/
def templateData (request : GenerationRequest) : Json :=
  .object
    [("instructions", .ofStrings request.instructions),
      ("examples", .array (request.examples.map fun item => .object
        [("inputs", .string (Json.object item.inputs).compact),
          ("outputs", .string (Json.object item.outputs).compact)])),
      ("input", .string (Json.object request.input.data).compact),
      ("output_schema", .string request.outputSchema.toDocument.pretty)]

end Prompt

namespace GenerationRequest

/-- The prompt of a request; fails where its template does. -/
def prompt (request : GenerationRequest) : Except LanguageModelError Prompt :=
  let user? := do
    let template ←
      Template.read? (request.promptTemplate.getD Prompt.defaultTemplate)
    template.render? (Prompt.templateData request)
  match user? with
  | none => .error (.template "the template cannot be rendered")
  | some user =>
      .ok ⟨Prompt.systemFor request.systemPrompt request.outputSchema, user⟩

end GenerationRequest

end PromptTuning
