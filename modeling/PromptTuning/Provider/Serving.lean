import PromptTuning.LanguageModel.Basic
import PromptTuning.Provider.Basic

/-!
# Served models

A served model is described by a backend and an invocation, the model name with
its parameters. Providers serve the model of a profile, the default model, and
models described in place; from the portable config of a served model they find
the same model again.

A summary shows backends and profiles as declared together with what is in
force: the default backend and profile, the backend that serves each profile and
its invocation. Temperatures are shown as doubles of the same value.
-/

namespace PromptTuning

/-- A model name with parameters. -/
structure Invocation where
  model : String
  temperature : Single
  maxTokens : Option UInt32

namespace Invocation

/-- The temperature unless another is given. -/
def defaultTemperature : Single := .ofDecimal false 7 (-1)

/-- The invocation when nothing is given. -/
def standard : Invocation := ⟨"gpt-4o-mini", defaultTemperature, none⟩

/-- The invocation of a profile, its temperature within the bounds. -/
def ofProfile (profile : Profile) : Invocation where
  model := profile.model
  temperature :=
    profile.policy.clamp (profile.temperature.getD defaultTemperature)
  maxTokens := profile.maxTokens

end Invocation

/-- Why no served model can be described. -/
inductive ServingError
  | unknownKind (kind : String)
  | missingKey (backend : String)
  | notInEnvironment (variableName : String)
  | unknownProfile (name : String)
  | noBackend (model : String)
  | languageModel (cause : LanguageModelError)
  deriving DecidableEq

namespace ServingError

/-- The wording of a serving error. -/
def message : ServingError -> String
  | .unknownKind kind => "unknown backend kind: " ++ kind
  | .missingKey backend => "missing API key for backend '" ++ backend ++ "'"
  | .notInEnvironment name => "environment variable '" ++ name ++ "' not found"
  | .unknownProfile name => "unknown model profile: " ++ name
  | .noBackend model => "no backend available for model '" ++ model ++ "'"
  | .languageModel cause => cause.message

/-- The code of a serving error. -/
def code : ServingError -> String
  | .unknownKind _ => "LmBuild.UnknownKind"
  | .missingKey _ => "LmBuild.MissingApiKey"
  | .notInEnvironment _ => "LmBuild.EnvNotFound"
  | .unknownProfile _ => "LmBuild.UnknownModel"
  | .noBackend _ => "LmBuild.NoBackend"
  | .languageModel cause => "LmBuild." ++ cause.code

instance : Diagnostic ServingError := ⟨code, message, fun _ => []⟩

/-- A serving error as an error of the language model. -/
def toLanguageModelError : ServingError -> LanguageModelError
  | .languageModel cause => cause
  | other => .config other.message

end ServingError

/-- The kinds of backend. -/
inductive BackendKind
  | openAI
  | deepSeek
  | groq
  | openRouter
  | mistral
  | ollama
  /-- Any server of the same protocol; it has no address of its own. -/
  | compatible
  deriving DecidableEq

namespace BackendKind

/-- The kinds under their names. -/
def named : List (String × BackendKind) :=
  [("openai", .openAI),
    ("deepseek", .deepSeek),
    ("groq", .groq),
    ("openrouter", .openRouter),
    ("mistral", .mistral),
    ("ollama", .ollama),
    ("openai_compatible", .compatible),
    ("compatible", .compatible)]

/-- The lower case of a character as far as names of kinds can tell; the Kelvin
sign is a k. -/
def lowerCase (character : Char) : Char :=
  if character = '\u212a' then 'k' else character.toLower

/-- The kind of a name in any case. -/
def ofName? (name : String) : Option BackendKind :=
  named.lookup (name.map lowerCase)

/-- The usual address of a kind. -/
def endpoint? : BackendKind -> Option String
  | .openAI => some "https://api.openai.com/v1/chat/completions"
  | .deepSeek => some "https://api.deepseek.com/chat/completions"
  | .groq => some "https://api.groq.com/openai/v1/chat/completions"
  | .openRouter => some "https://openrouter.ai/api/v1/chat/completions"
  | .mistral => some "https://api.mistral.ai/v1/chat/completions"
  | .ollama => some "http://localhost:11434/v1/chat/completions"
  | .compatible => none

/-- Whether a backend of a kind needs a key. -/
def requiresKey : BackendKind -> Bool
  | .ollama | .compatible => false
  | _ => true

end BackendKind

namespace Backend

/-- The seconds a request may take unless the settings say otherwise. -/
def defaultTimeout : UInt64 := 60

/-- The key with which to ask a backend, if it needs or names one. -/
def keyFor (environment : Environment) (kind : BackendKind)
    (backend : Backend) :
    Except ServingError (Option String) :=
  match backend.key environment with
  | .ok key => .ok (some key)
  | .error .notConfigured =>
      if kind.requiresKey then .error (.missingKey backend.name) else .ok none
  | .error (.notInEnvironment name) => .error (.notInEnvironment name)

/-- The model that a backend serves for an invocation. -/
def serve (environment : Environment) (backend : Backend)
    (invocation : Invocation) :
    Except ServingError ServedModel :=
  match BackendKind.ofName? backend.kind with
  | none => .error (.unknownKind backend.kind)
  | some kind => do
      let apiKey ← backend.keyFor environment kind
      match backend.endpoint.or kind.endpoint? with
      | none => .error (.unknownKind (backend.kind ++ " (endpoint required)"))
      | some endpoint =>
          return {
            endpoint, apiKey
            model := invocation.model
            temperature := invocation.temperature
            maxTokens := invocation.maxTokens
            timeoutSeconds :=
              (setting? backend.settings "timeout_secs" Decoder.word).getD
                defaultTimeout
            backend := some backend.name }

end Backend

namespace Providers

/-- The model of a profile. -/
def serve (providers : Providers) (environment : Environment)
    (profile : Profile) :
    Except ServingError ServedModel :=
  match providers.backendFor? profile with
  | none => .error (.noBackend profile.name)
  | some backend => backend.serve environment (.ofProfile profile)

/-- The model of the profile of a name. -/
def serveProfile (providers : Providers) (environment : Environment)
    (name : String) :
    Except ServingError ServedModel :=
  match providers.profile? name with
  | none => .error (.unknownProfile name)
  | some profile => providers.serve environment profile

/-- The model of the default profile. -/
def serveDefault (providers : Providers) (environment : Environment) :
    Except ServingError ServedModel :=
  match providers.effectiveProfile? with
  | none => .error (.unknownProfile "<default>")
  | some profile => providers.serve environment profile

/-- The invocation described in place; a token limit keeps its low 32 bits. -/
def inlineInvocation (config : Json) (model : String) : Invocation where
  model := model
  temperature :=
    ((config.get? "temperature").bind Json.asDouble?).elim
      Invocation.defaultTemperature
      fun temperature => temperature.convert .single
  maxTokens := ((config.get? "max_tokens").bind Json.asNat?).map UInt32.ofNat

/-- The model described in place by a config. -/
def serveInline (providers : Providers) (environment : Environment)
    (config : Json) :
    Except ServingError ServedModel :=
  match (config.get? "model").bind Json.asString? with
  | none => .error (.unknownProfile "<missing 'model'>")
  | some model =>
      let backend? := match (config.get? "backend").bind Json.asString? with
        | some name => providers.backend? name
        | none => providers.effectiveBackend?
      match backend? with
      | none => .error (.noBackend model)
      | some backend =>
          backend.serve environment (inlineInvocation config model)

/-- The kind in a portable config, if it is a kind other than that of
served models. -/
def foreignKind? (config : Json) : Option String :=
  ((config.get? "kind").bind Json.asString?).filter (· != "http")

/-- Find the model that a portable config describes: by its profile,
or in place. -/
def resolve (providers : Providers) (environment : Environment) : Resolver :=
  fun config =>
    match foreignKind? config with
    | some kind =>
        .error (.config ("cannot resolve language model kind '" ++ kind ++ "'"))
    | none =>
        let served := match (config.get? "profile").bind Json.asString? with
          | some name => providers.serveProfile environment name
          | none => providers.serveInline environment config
        (served.mapError ServingError.toLanguageModelError).map .served

end Providers

namespace Json

/-- A temperature as a double of the same value, null if it is not finite. -/
def ofTemperature (temperature : Single) : Json :=
  .ofDouble (temperature.convert .double)

/-- A limit of tokens, null if there is none. -/
def ofTokenLimit (limit : Option UInt32) : Json :=
  limit.elim .null fun count => .ofNat count.toNat

end Json

namespace Invocation

/-- A summary of an invocation. -/
def summary (invocation : Invocation) : Json :=
  .object
    [("model", .string invocation.model),
      ("temperature", .ofTemperature invocation.temperature),
      ("max_tokens", .ofTokenLimit invocation.maxTokens)]

end Invocation

namespace Backend

/-- A summary of a backend. -/
def summary (backend : Backend) : Json :=
  .object
    [("name", .string backend.name),
      ("kind", .string backend.kind),
      ("endpoint", .ofString? backend.endpoint),
      ("api_key_env", .ofString? backend.keyVariable),
      ("config", backend.settings)]

end Backend

namespace Providers

/-- A summary of a profile. -/
def profileSummary (providers : Providers) (profile : Profile) : Json :=
  let bound (temperature : Option Single) : Json :=
    temperature.elim .null Json.ofTemperature
  .object
    [("name", .string profile.name),
      ("backend", .ofString? profile.backend),
      ("model", .string profile.model),
      ("temperature", bound profile.temperature),
      ("max_tokens", .ofTokenLimit profile.maxTokens),
      ("policy",
        .array [bound profile.policy.minimum, bound profile.policy.maximum]),
      ("config", profile.settings),
      ("served_by", .ofString? ((providers.backendFor? profile).map (·.name))),
      ("invocation", (Invocation.ofProfile profile).summary)]

/-- A summary of providers. -/
def summary (providers : Providers) : Json :=
  .object
    [("default_backend", .ofString? providers.defaultBackend),
      ("default_model", .ofString? providers.defaultProfile),
      ("backends", .array (providers.backends.map Backend.summary)),
      ("models", .array (providers.profiles.map providers.profileSummary)),
      ("backend_names", .ofStrings (providers.backends.map (·.name))),
      ("model_names", .ofStrings (providers.profiles.map (·.name))),
      ("effective_backend",
        .ofString? (providers.effectiveBackend?.map (·.name))),
      ("effective_model",
        .ofString? (providers.effectiveProfile?.map (·.name)))]

end Providers
end PromptTuning
