import PromptTuning.Proofs.Binary.Widening
import PromptTuning.Proofs.Module.Config
import PromptTuning.Proofs.Provider.Selection

/-!
# Finding a served model again

The portable config of a served model leaves its profile out and names its
backend. Resolved among the same providers and in the same environment it leads
to the same backend and, unless the temperature is not finite, to the same
invocation, and so to the same model.
-/

namespace PromptTuning

/-- A finite number is written as the number it is read from. -/
theorem Json.asDouble?_ofDouble {value : Double}
    (finite : value.isFinite = true) :
    (ofDouble value).asDouble? = some value := by
  cases value with
  | finite value => rfl
  | _ => contradiction

/-- A number that is not finite is written as null, from which no
number is read. -/
theorem Json.asDouble?_ofDouble_of_not_finite {value : Double}
    (finite : value.isFinite = false) :
    (ofDouble value).asDouble? = none := by
  cases value with
  | finite value => contradiction
  | _ => rfl

namespace ServedModel

/-- The invocation that a portable config keeps: a temperature that is not
finite is lost. -/
def portableInvocation (model : ServedModel) : Invocation :=
  { model.invocation with
    temperature :=
      if model.temperature.isFinite then model.temperature
      else Invocation.defaultTemperature }

/-- Settings with a finite temperature lose nothing in a document. -/
theorem portableInvocation_of_isFinite {model : ServedModel}
    (finite : model.temperature.isFinite = true) :
    model.portableInvocation = model.invocation := by
  rw [portableInvocation, if_pos finite]
  rfl

end ServedModel

namespace Providers

variable {providers : Providers} {environment : Environment}
  {model : ServedModel}

/-- A temperature is written as a double and read back without a loss. -/
theorem temperature_inlineInvocation (model : ServedModel) (name : String) :
    (inlineInvocation (LanguageModel.served model).config name).temperature =
      model.portableInvocation.temperature := by
  have written :
      ((LanguageModel.served model).config.get? "temperature").bind
        Json.asDouble? =
        (Json.ofDouble (model.temperature.convert .double)).asDouble? := rfl
  have widened :=
    Binary.isFinite_convert BinaryFormat.within_double model.temperature
  rw [inlineInvocation, written, ServedModel.portableInvocation]
  cases finite : model.temperature.isFinite with
  | true =>
      rw [Json.asDouble?_ofDouble (widened.trans finite)]
      exact Binary.convert_convert BinaryFormat.within_double model.temperature
  | false =>
      rw [Json.asDouble?_ofDouble_of_not_finite (widened.trans finite)]
      rfl

/-- The bound on tokens is read back from the document of a served model. -/
theorem maxTokens_inlineInvocation (model : ServedModel) (name : String) :
    (inlineInvocation (LanguageModel.served model).config name).maxTokens =
      model.maxTokens := by
  have written :
      ((LanguageModel.served model).config.get? "max_tokens").bind Json.asNat? =
        (model.maxTokens.elim .null fun count =>
          Json.ofNat count.toNat).asNat? := rfl
  rw [inlineInvocation, written]
  cases model.maxTokens with
  | none => rfl
  | some count =>
      have bounded : count.toNat < UInt64.size :=
        Nat.lt_trans count.toNat_lt_size (by decide)
      rw [Option.elim_some, Json.asNat?_ofNat bounded, Option.map_some,
        UInt32.ofNat_toNat]

/-- The settings read from the document of a served model are its
portable ones. -/
theorem inlineInvocation_config (model : ServedModel) :
    inlineInvocation (LanguageModel.served model).config model.model =
      model.portableInvocation := by
  calc
    inlineInvocation (LanguageModel.served model).config model.model =
        ⟨model.model,
          (inlineInvocation (LanguageModel.served model).config
            model.model).temperature,
          (inlineInvocation (LanguageModel.served model).config
            model.model).maxTokens⟩ := rfl
    _ = ⟨model.model, model.portableInvocation.temperature,
      model.maxTokens⟩ := by
      rw [temperature_inlineInvocation, maxTokens_inlineInvocation]

/-- The config of a served model is resolved by asking the backend
that it names. -/
theorem resolve_config
    {backend : Backend}
    (named : model.backend = some backend.name)
    (found : providers.backend? backend.name = some backend) :
    providers.resolve environment (LanguageModel.served model).config =
      ((backend.serve environment model.portableInvocation).mapError
        ServingError.toLanguageModelError).map .served := by
  have kind : foreignKind? (LanguageModel.served model).config = none := rfl
  have profile :
      ((LanguageModel.served model).config.get? "profile").bind Json.asString? =
        none := rfl
  have name :
      ((LanguageModel.served model).config.get? "model").bind Json.asString? =
        some model.model := rfl
  have reference :
      ((LanguageModel.served model).config.get? "backend").bind Json.asString? =
        some backend.name :=
    (Json.asString?_ofString? model.backend).trans named
  simp only [resolve, kind, profile, serveInline, name, reference, found,
    inlineInvocation_config]

/-- The portable config of the model that a profile leads to is resolved to
the same model: same address, key, model name, temperature, limit, timeout
and backend. -/
theorem resolve_config_of_serveProfile
    {name : String}
    {profile : Profile}
    (found : providers.profile? name = some profile)
    (finite : (Invocation.ofProfile profile).temperature.isFinite = true)
    (served : providers.serveProfile environment name = .ok model) :
    providers.resolve environment (LanguageModel.served model).config =
      .ok (.served model) := by
  rw [serveProfile_of_profile? found] at served
  obtain ⟨backend, selected⟩ := exists_backendFor?_of_serve served
  rw [serve_of_backendFor? selected] at served
  obtain ⟨invocation, named⟩ := Backend.of_serve served
  have temperature : model.temperature.isFinite = true := by
    rw [← finite, ← invocation]
    rfl
  have kept : model.portableInvocation = .ofProfile profile :=
    (ServedModel.portableInvocation_of_isFinite temperature).trans invocation
  rw [resolve_config named (backend?_name_of_backendFor? selected), kept,
    served]
  rfl

/-- A profile that leaves its backend to the default and asks for a temperature
above its bound. -/
def boundedProfile : Profile where
  name := "meta"
  backend := none
  model := "llama3"
  temperature := some (.ofDecimal false 14 (-1))
  maxTokens := some 512
  policy := ⟨none, some (.ofDecimal false 3 (-1))⟩
  settings := .null

/-- A backend with a key and a timeout of its own. -/
def localBackend : Backend where
  name := "local"
  kind := "ollama"
  endpoint := none
  keyVariable := some "LOCAL_KEY"
  settings := .object [("timeout_secs", .ofNat 5)]

/-- Two backends and two profiles of one name each. -/
def twinProviders : Providers where
  defaultBackend := none
  defaultProfile := none
  backends := [localBackend, ⟨"local", "openai", none, none, .null⟩]
  profiles :=
    [boundedProfile,
      ⟨"meta", some "local", "gpt-4o", none, none, .unbounded, .null⟩]

/-- The model that the first of both profiles leads to. -/
def boundedModel : ServedModel where
  endpoint := "http://localhost:11434/v1/chat/completions"
  apiKey := some "secret"
  model := "llama3"
  temperature := .ofDecimal false 3 (-1)
  maxTokens := some 512
  timeoutSeconds := 5
  backend := some "local"

/-- The bound, which no 32-bit number is exactly, comes back as it was. -/
theorem resolve_config_of_twinProviders :
    twinProviders.profile? "meta" = some boundedProfile ∧
      (Invocation.ofProfile boundedProfile).temperature.isFinite = true ∧
      twinProviders.serveProfile [("LOCAL_KEY", "secret")] "meta" =
        .ok boundedModel ∧
      twinProviders.resolve [("LOCAL_KEY", "secret")]
        (LanguageModel.served boundedModel).config =
        .ok (.served boundedModel) := by
  have found : twinProviders.profile? "meta" = some boundedProfile := rfl
  have finite :
      (Invocation.ofProfile boundedProfile).temperature.isFinite = true := by
    decide +kernel
  have clamped : boundedProfile.policy.clamp (.ofDecimal false 14 (-1)) =
      boundedModel.temperature := by
    decide +kernel
  have invocation :
      Invocation.ofProfile boundedProfile = boundedModel.invocation :=
    congrArg (Invocation.mk "llama3" · (some 512)) clamped
  have selected :
      twinProviders.backendFor? boundedProfile = some localBackend := rfl
  have kind : BackendKind.ofName? localBackend.kind = some .ollama := by
    decide +kernel
  have served : twinProviders.serveProfile [("LOCAL_KEY", "secret")] "meta" =
      .ok boundedModel := by
    calc
      twinProviders.serveProfile [("LOCAL_KEY", "secret")] "meta" =
          localBackend.serve [("LOCAL_KEY", "secret")]
            (.ofProfile boundedProfile) := by
        rw [serveProfile_of_profile? found, serve_of_backendFor? selected]
      _ = localBackend.serve [("LOCAL_KEY", "secret")]
        boundedModel.invocation := by
        rw [invocation]
      _ = .ok boundedModel := by
        simp only [Backend.serve, kind]
        rfl
  exact ⟨found, finite, served,
    resolve_config_of_serveProfile found finite served⟩

end Providers
end PromptTuning
