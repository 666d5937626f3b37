import PromptTuning.Concurrency.Activity

/-!
# Calling modules

A generator reads its active instructions, asks its language model and, when
called in training, records the input and the answer as an unscored prediction
of its variable. A pipeline first checks that the input contains its declared
schema and then passes the value from module to module.
-/

namespace PromptTuning

namespace Generator

/-- The instructions in force: those of the variable, or the generator's own. -/
def activeInstructions (generator : Generator) : Activity (List String) :=
  match generator.store with
  | none => pure generator.instructions
  | some store => do
      let entry ← Activity.perform (.read store generator.name)
      return ((entry.bind (·.instructions)).map (·.instructions)).getD
        generator.instructions

/-- The question to the language model for an input. -/
def request (generator : Generator) (instructions : List String)
    (input : Value) :
    GenerationRequest where
  input := input
  outputSchema := generator.outputSchema
  instructions := instructions
  examples := generator.examples
  promptTemplate := generator.promptTemplate
  systemPrompt := generator.systemPrompt

/-- Record an execution, if in training and bound to a store. -/
def record (generator : Generator) (training : Bool) (input output : Value) :
    Activity (Except StoreError Unit) :=
  match training, generator.store with
  | true, some store => do
      let outcome ← Activity.append store generator.name
        (.unscored input.data output.data)
      return outcome.map fun _ => ()
  | _, _ => pure (.ok ())

/-- What a generator returns for an input and an answer. -/
def result (generator : Generator) (input output : Value) :
    Except ModuleError Value :=
  if generator.returnInputs then (input.concat output).mapError .value
  else .ok output

/-- Call a generator. -/
def call (generator : Generator) (training : Bool) (input : Value) :
    Activity (Except ModuleError Value) := do
  let instructions ← generator.activeInstructions
  .generate generator.languageModel (generator.request instructions input) fun
    | .error cause => .done (.error (.languageModel cause))
    | .ok output => do
        match ← generator.record training input output with
        | .error cause => return .error (.store cause)
        | .ok _ => return generator.result input output

/-- Register the variable of a generator and keep the store for later calls. -/
def bind (generator : Generator) (store : StoreId) : Activity Generator := do
  let _ ←
    Activity.perform
      (.register store generator.name generator.initialInstructions)
  return { generator with store := some store }

end Generator

namespace ChainOfThought

/-- Bind the generator of a chain of thought. -/
def bind (chain : ChainOfThought) (store : StoreId) :
    Activity ChainOfThought := do
  return { chain with generator := ← chain.generator.bind store }

end ChainOfThought

namespace Module

mutual

/-- Bind every generator of a module. -/
def bind (store : StoreId) : Module -> Activity Module
  | .generator node => do return .generator (← node.bind store)
  | .chainOfThought node => do return .chainOfThought (← node.bind store)
  | .pipeline name description inputSchema modules => do
      return .pipeline name description inputSchema (← bindAll store modules)

/-- Bind every generator of several modules, in order. -/
def bindAll (store : StoreId) : List Module -> Activity (List Module)
  | [] => return []
  | node :: rest => do return (← bind store node) :: (← bindAll store rest)

end

mutual

/-- Call a module. -/
def call (training : Bool) (input : Value) :
    Module -> Activity (Except ModuleError Value)
  | .generator node => node.call training input
  | .chainOfThought node => node.generator.call training input
  | .pipeline name _ inputSchema modules =>
      if input.schema.contains inputSchema then callAll training input modules
      else .done (.error (.inputMismatch name))

/-- Pass a value from module to module. -/
def callAll (training : Bool) (input : Value) :
    List Module -> Activity (Except ModuleError Value)
  | [] => .done (.ok input)
  | node :: rest =>
      (call training input node).bind fun
        | .error reason => .done (.error reason)
        | .ok output => callAll training output rest

end

end Module

end PromptTuning
