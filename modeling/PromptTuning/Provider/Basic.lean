import PromptTuning.Json.Decode

/-!
# Providers of language models

A backend says where a chat completion server is and which environment variable
holds its key. A profile names a model with preset parameters and bounds for its
temperature, and may name the backend that serves it. The providers of a
configuration are lists of both, in declaration order, with named defaults.
-/

namespace PromptTuning

/-- The variables of an environment and their values. -/
abbrev Environment := List (String × String)

/-- Where and how to reach a chat completion server. -/
structure Backend where
  name : String
  kind : String
  /-- An address in place of the usual one of its kind. -/
  endpoint : Option String
  /-- The environment variable that holds the key. -/
  keyVariable : Option String
  settings : Json

/-- Bounds for a temperature. -/
structure TemperaturePolicy where
  minimum : Option Single
  maximum : Option Single

/-- A model with preset parameters. -/
structure Profile where
  name : String
  /-- The backend that serves the model. -/
  backend : Option String
  model : String
  temperature : Option Single
  maxTokens : Option UInt32
  policy : TemperaturePolicy
  settings : Json

/-- Backends and profiles in declaration order, with named defaults. -/
structure Providers where
  defaultBackend : Option String
  defaultProfile : Option String
  backends : List Backend
  profiles : List Profile

/-- A setting, if it is there and can be decoded. -/
def setting? {α : Type} (settings : Json) (name : String) (decode : Decoder α) :
    Option α :=
  (settings.get? name).bind fun value => (decode value).toOption

namespace TemperaturePolicy

/-- No bounds. -/
def unbounded : TemperaturePolicy := ⟨none, none⟩

/-- A temperature raised to the minimum and then lowered to the maximum. -/
def clamp (policy : TemperaturePolicy) (temperature : Single) : Single :=
  let raised := policy.minimum.elim temperature temperature.max
  policy.maximum.elim raised raised.min

/-- The fields of the JSON form. -/
def rules : List FieldRule :=
  [.defaulted "temperature_min" (Decoder.optional Decoder.single),
    .defaulted "temperature_max" (Decoder.optional Decoder.single)]

/-- The bounds of a JSON form. -/
def decode : Decoder TemperaturePolicy := fun value => do
  let members ← Decoder.record "struct ModelPolicy" rules value
  return {
    minimum := ← Decoder.nullable members "temperature_min" Decoder.single
    maximum := ← Decoder.nullable members "temperature_max" Decoder.single }

end TemperaturePolicy

/-- Why a key is not at hand. -/
inductive KeyError
  | notConfigured
  | notInEnvironment (variableName : String)
  deriving DecidableEq

namespace KeyError

/-- The wording of a key error. -/
def message : KeyError -> String
  | .notConfigured => "API key environment variable not configured"
  | .notInEnvironment name => "Environment variable '" ++ name ++ "' not found"

/-- The code of a key error. -/
def code : KeyError -> String
  | .notConfigured => "ApiKey.NotConfigured"
  | .notInEnvironment _ => "ApiKey.EnvNotFound"

instance : Diagnostic KeyError := ⟨code, message, fun _ => []⟩

end KeyError

namespace Backend

/-- The key of a backend in an environment. -/
def key (environment : Environment) (backend : Backend) :
    Except KeyError String :=
  match backend.keyVariable with
  | none => .error .notConfigured
  | some name =>
      match environment.lookup name with
      | some value => .ok value
      | none => .error (.notInEnvironment name)

/-- The fields of the JSON form. -/
def rules : List FieldRule :=
  [.required "name" Decoder.string,
    .required "kind" Decoder.string,
    .defaulted "endpoint" (Decoder.optional Decoder.string),
    .defaulted "api_key_env" (Decoder.optional Decoder.string),
    .defaulted "config" Decoder.json]

/-- The backend of a JSON form. -/
def decode : Decoder Backend := fun value => do
  let members ← Decoder.record "struct BackendSpec" rules value
  return {
    name := ← Decoder.required members "name" Decoder.string
    kind := ← Decoder.required members "kind" Decoder.string
    endpoint := ← Decoder.nullable members "endpoint" Decoder.string
    keyVariable := ← Decoder.nullable members "api_key_env" Decoder.string
    settings := ← Decoder.defaulted members "config" Decoder.json .null }

end Backend

namespace Profile

/-- The fields of the JSON form. -/
def rules : List FieldRule :=
  [.required "name" Decoder.string,
    .defaulted "backend" (Decoder.optional Decoder.string),
    .required "model" Decoder.string,
    .defaulted "temperature" (Decoder.optional Decoder.single),
    .defaulted "max_tokens" (Decoder.optional Decoder.halfWord),
    .defaulted "policy" TemperaturePolicy.decode,
    .defaulted "config" Decoder.json]

/-- The profile of a JSON form. -/
def decode : Decoder Profile := fun value => do
  let members ← Decoder.record "struct ModelProfile" rules value
  return {
    name := ← Decoder.required members "name" Decoder.string
    backend := ← Decoder.nullable members "backend" Decoder.string
    model := ← Decoder.required members "model" Decoder.string
    temperature := ← Decoder.nullable members "temperature" Decoder.single
    maxTokens := ← Decoder.nullable members "max_tokens" Decoder.halfWord
    policy := ← Decoder.defaulted members "policy"
      TemperaturePolicy.decode .unbounded
    settings := ← Decoder.defaulted members "config" Decoder.json .null }

end Profile

namespace Providers

/-- No backends and no profiles. -/
def empty : Providers := ⟨none, none, [], []⟩

/-- The first backend of a name. -/
def backend? (providers : Providers) (name : String) : Option Backend :=
  providers.backends.find? (·.name == name)

/-- The first profile of a name. -/
def profile? (providers : Providers) (name : String) : Option Profile :=
  providers.profiles.find? (·.name == name)

/-- The named default backend, or the first one if none is named. -/
def effectiveBackend? (providers : Providers) : Option Backend :=
  match providers.defaultBackend with
  | some name => providers.backend? name
  | none => providers.backends.head?

/-- The named default profile, or the first one if none is named. -/
def effectiveProfile? (providers : Providers) : Option Profile :=
  match providers.defaultProfile with
  | some name => providers.profile? name
  | none => providers.profiles.head?

/-- The backend that serves a profile: the one it names, or else the default. -/
def backendFor? (providers : Providers) (profile : Profile) : Option Backend :=
  (profile.backend.bind providers.backend?).or providers.effectiveBackend?

/-- The fields of the JSON form. -/
def rules : List FieldRule :=
  [.defaulted "default_backend" (Decoder.optional Decoder.string),
    .defaulted "default_model" (Decoder.optional Decoder.string),
    .defaulted "backends" (Decoder.list Backend.decode),
    .defaulted "models" (Decoder.list Profile.decode)]

/-- The providers of a JSON form. -/
def decode : Decoder Providers := fun value => do
  let members ← Decoder.record "struct ProvidersConfig" rules value
  return {
    defaultBackend := ← Decoder.nullable members
      "default_backend" Decoder.string
    defaultProfile := ← Decoder.nullable members "default_model" Decoder.string
    backends := ← Decoder.defaulted members "backends"
      (Decoder.list Backend.decode) []
    profiles := ← Decoder.defaulted members "models"
      (Decoder.list Profile.decode) [] }

end Providers

end PromptTuning
