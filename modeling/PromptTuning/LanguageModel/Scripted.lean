import PromptTuning.Concurrency.World

/-!
# Scripted language models

A scripted model replays queued answers, then a fallback, and remembers every
request. Answers are validated against the output schema of the request. A host
of scripted models is known by their names; a model without a script gives no
answer.
-/

namespace PromptTuning

/-- The answers a scripted model has in store. -/
structure Script where
  responses : List (Except LanguageModelError Json)
  /-- The answer once the queue is empty. -/
  fallback : Option Json
  /-- Milliseconds until a request is handled. -/
  delay : Nat
  /-- The requests handled so far, oldest first. -/
  requests : List GenerationRequest

namespace Script

/-- The next raw answer and the script without it. -/
def next (script : Script) : Except LanguageModelError Json × Script :=
  match script.responses with
  | response :: rest => (response, { script with responses := rest })
  | [] =>
      match script.fallback with
      | some answer => (.ok answer, script)
      | none => (.error (.response "no scripted response left"), script)

/-- The value that a raw answer stands for under the schema of a request. -/
def answer (request : GenerationRequest)
    (raw : Except LanguageModelError Json) :
    Except LanguageModelError Value :=
  match raw with
  | .error reason => .error reason
  | .ok output =>
      (Value.construct request.outputSchema output).mapError fun violations =>
        .malformed (ValueError.validationMessage violations)

/-- Remember a request and answer it. -/
def handle (request : GenerationRequest) (script : Script) :
    Except LanguageModelError Value × Script :=
  let (raw, rest) :=
    { script with requests := script.requests ++ [request] }.next
  (answer request raw, rest)

end Script

/-- Scripts under the names of their models. -/
abbrev Scripts := List (String × Script)

namespace Scripts

/-- Replace the script of a name. -/
def set (name : String) (script : Script) (scripts : Scripts) : Scripts :=
  scripts.map fun (other, old) =>
    if other = name then (other, script) else (other, old)

/-- The script of a model, if it has one. -/
def find? (scripts : Scripts) : LanguageModel -> Option (String × Script)
  | .scripted name => (scripts.lookup name).map fun script => (name, script)
  | .served _ => none

/-- Scripted models as hosts: each request is answered by the script
of its model. -/
def host : ModelHost Scripts where
  delay scripts model := ((scripts.find? model).map (·.2.delay)).getD 0
  handle model request scripts :=
    match scripts.find? model with
    | some (name, script) =>
        let (answer, rest) := script.handle request
        (answer, scripts.set name rest)
    | none => (.error (.http "the model is out of reach"), scripts)

/-- Resolve a config by the name of its model. -/
def resolve (scripts : Scripts) : Resolver := fun config =>
  let name := ((config.get? "model").bind Json.asString?).getD ""
  match scripts.lookup name with
  | some _ => .ok (.scripted name)
  | none => .error (.config ("unknown scripted model '" ++ name ++ "'"))

end Scripts

end PromptTuning
