import PromptTuning.LanguageModel.Basic
import PromptTuning.Store.Basic

/-!
# Modules

A module is a computation node with a declared output schema. A generator asks a
language model once; bound to a store, it owns the trainable variable of its
name. A chain of thought is a generator whose answer starts with free-text
thinking fields. A pipeline runs modules one after another and declares what its
input must contain.
-/

namespace PromptTuning

/-- Which of several stores. -/
abbrev StoreId := Nat

/-- One question to a language model. -/
structure Generator where
  name : String
  outputSchema : Schema
  languageModel : LanguageModel
  /-- The instructions used until the variable holds others. -/
  instructions : List String
  examples : List Prediction
  promptTemplate : Option String
  systemPrompt : Option String
  /-- Whether the answer is returned together with the input. -/
  returnInputs : Bool
  /-- The store that holds the variable, once bound. -/
  store : Option StoreId

namespace Generator

/-- A generator without instructions, examples or templates. -/
def create (name : String) (outputSchema : Schema)
    (languageModel : LanguageModel) : Generator where
  name := name
  outputSchema := outputSchema
  languageModel := languageModel
  instructions := []
  examples := []
  promptTemplate := none
  systemPrompt := none
  returnInputs := false
  store := none

/-- The instruction set a new variable of the generator starts with. -/
def initialInstructions (generator : Generator) : Option Instructions :=
  if generator.instructions.isEmpty then none
  else some (.ofLines generator.instructions)

end Generator

/-- A generator whose answer is preceded by thinking fields. -/
structure ChainOfThought where
  name : String
  /-- The number of thinking fields. -/
  count : Nat
  targetSchema : Schema
  generator : Generator

namespace ChainOfThought

/-- The name of a thinking field; the first has no number. -/
def thinkingName (index : Nat) : String :=
  if index = 0 then "thinking" else "thinking_" ++ toString index

/-- The fields that precede the answer. -/
def thinkingFields (count : Nat) : List Field :=
  (List.range count).map fun index =>
    (Field.mandatory (thinkingName index) .string).withDescription
      "Your step by step thinking"

/-- The schema of thinking fields followed by those of a target. -/
def answerSchema (count : Nat) (target : Schema) : Except SchemaError Schema :=
  (Schema.ofFields (thinkingFields count)).bind fun thinking =>
    thinking.compose target

/-- A chain of thought for a target schema; a count of zero counts as one. -/
def create
    (name : String)
    (targetSchema : Schema)
    (languageModel : LanguageModel)
    (count : Nat) :
    Except SchemaError ChainOfThought :=
  (answerSchema (max count 1) targetSchema).map fun schema =>
    ⟨name, max count 1, targetSchema,
      .create (name ++ "_generator") schema languageModel⟩

end ChainOfThought

/-- A computation node. -/
inductive Module
  | generator (node : Generator)
  | chainOfThought (node : ChainOfThought)
  | pipeline
      (name description : String)
      (inputSchema : Schema)
      (modules : List Module)

instance : Inhabited Module := ⟨.pipeline "" "" .empty []⟩

/-- Why a module gives no value. -/
inductive ModuleError
  | inputMismatch (name : String)
  | languageModel (cause : LanguageModelError)
  | store (cause : StoreError)
  | value (cause : ValueError)
  | schema (cause : SchemaError)
  | config (reason : String)
  deriving DecidableEq

namespace ModuleError

/-- The wording of a module error. -/
def message : ModuleError -> String
  | .inputMismatch name =>
      "input does not satisfy the input schema of '" ++ name ++ "'"
  | .languageModel cause => "language model error: " ++ cause.message
  | .store cause => "store error: " ++ cause.message
  | .value cause => cause.message
  | .schema cause => cause.message
  | .config reason => "invalid module config: " ++ reason

/-- The code of a module error. -/
def code : ModuleError -> String
  | .inputMismatch _ => "Module.InputMismatch"
  | .languageModel cause => "Module." ++ cause.code
  | .store cause => "Module." ++ cause.code
  | .value cause => "Module.Value." ++ cause.code
  | .schema cause => "Module.Schema." ++ cause.code
  | .config _ => "Module.Config"

/-- The details of a module error are those of its cause. -/
def details : ModuleError -> Members
  | .value cause => cause.details
  | _ => []

instance : Diagnostic ModuleError := ⟨code, message, details⟩

end ModuleError

namespace Module

/-- The name of a module. -/
def name : Module -> String
  | .generator node => node.name
  | .chainOfThought node => node.name
  | .pipeline name _ _ _ => name

mutual

/-- The schema of the values a module returns. -/
def outputSchema : Module -> Schema
  | .generator node => node.outputSchema
  | .chainOfThought node => node.generator.outputSchema
  | .pipeline _ _ inputSchema modules => lastSchema inputSchema modules

/-- The output schema of the last of several modules, or a given one if
there is none. -/
def lastSchema (schema : Schema) : List Module -> Schema
  | [] => schema
  | node :: rest => lastSchema node.outputSchema rest

end

/-- The key of the variable of a bound generator. -/
def boundKeys (node : Generator) : List String :=
  if node.store.isSome then [node.name] else []

mutual

/-- The keys of the trainable variables of a module. -/
def trainableKeys : Module -> List String
  | .generator node => boundKeys node
  | .chainOfThought node => boundKeys node.generator
  | .pipeline _ _ _ modules => trainableKeysOf modules

/-- The keys of the trainable variables of several modules. -/
def trainableKeysOf : List Module -> List String
  | [] => []
  | node :: rest => node.trainableKeys ++ trainableKeysOf rest

end

mutual

/-- The number of questions a call of a module asks at most. -/
def questionCount : Module -> Nat
  | .generator _ => 1
  | .chainOfThought _ => 1
  | .pipeline _ _ _ modules => questionCountOf modules

/-- The number of questions calls of several modules ask at most. -/
def questionCountOf : List Module -> Nat
  | [] => 0
  | node :: rest => node.questionCount + questionCountOf rest

end

end Module

end PromptTuning
