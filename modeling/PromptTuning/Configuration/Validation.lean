import PromptTuning.Configuration.Basic
import PromptTuning.Text.Blank

/-!
# Valid configurations

A configuration is valid if it has no fault: names are not blank, names that are
referred to are declared, kinds are supported and numbers are not zero. The
first fault, in the order of the parts of the configuration, is the one
reported.
-/

namespace PromptTuning

/-- What can be wrong with a configuration. -/
inductive ConfigurationFault
  | zeroVersion
  | blankApplicationName
  | blankBackendName
  | blankBackendKind
  | blankProfileName
  | blankProfileModel (profile : String)
  | unknownProfileBackend (profile backend : String)
  | unknownDefaultBackend (backend : String)
  | unknownDefaultProfile (profile : String)
  | unsupportedOptimizer (kind : String)
  | zeroShown
  | unknownOptimizerProfile (profile : String)
  | zeroEpochs
  | zeroTimeout
  | unsupportedStore (backend : String)
  | zeroCapacity
  deriving DecidableEq

namespace ConfigurationFault

/-- The wording of a fault. -/
def message : ConfigurationFault -> String
  | .zeroVersion => "version must be greater than 0"
  | .blankApplicationName => "app.name must not be empty"
  | .blankBackendName => "providers.backends[].name must not be empty"
  | .blankBackendKind => "providers.backends[].kind must not be empty"
  | .blankProfileName => "providers.models[].name must not be empty"
  | .blankProfileModel profile =>
      "providers.models[" ++ profile ++ "].model must not be empty"
  | .unknownProfileBackend profile backend =>
      "providers.models[" ++ profile ++ "].backend '" ++
      backend ++ "' not found"
  | .unknownDefaultBackend backend =>
      "providers.default_backend '" ++ backend ++ "' not found"
  | .unknownDefaultProfile profile =>
      "providers.default_model '" ++ profile ++ "' not found"
  | .unsupportedOptimizer kind =>
      "optimizer.kind '" ++ kind ++ "' is not supported"
  | .zeroShown => "optimizer.k_best must be > 0"
  | .unknownOptimizerProfile profile =>
      "optimizer.model '" ++ profile ++ "' not found"
  | .zeroEpochs => "training.epochs must be > 0"
  | .zeroTimeout => "training.generation_timeout_secs must be > 0"
  | .unsupportedStore backend =>
      "stores.variables.backend '" ++ backend ++ "' is not supported"
  | .zeroCapacity => "stores.variables.max_variables must be > 0"

/-- A fault where a condition holds. -/
def when (condition : Bool) (fault : ConfigurationFault) :
    List ConfigurationFault :=
  if condition then [fault] else []

/-- A fault where a name is given that is not known. -/
def ofUnknown (isKnown : String -> Bool) (fault : String -> ConfigurationFault)
    (name : Option String) : List ConfigurationFault :=
  name.elim [] fun name => when (!isKnown name) (fault name)

end ConfigurationFault

open ConfigurationFault

namespace Backend

/-- The faults of a backend. -/
def faults (backend : Backend) : List ConfigurationFault :=
  when (Text.isAllBlank backend.name) .blankBackendName ++
    when (Text.isAllBlank backend.kind) .blankBackendKind

end Backend

namespace Providers

/-- Whether a backend of a name is declared. -/
def declaresBackend (providers : Providers) (name : String) : Bool :=
  (providers.backend? name).isSome

/-- Whether a profile of a name is declared. -/
def declaresProfile (providers : Providers) (name : String) : Bool :=
  (providers.profile? name).isSome

/-- The faults of a profile among providers. -/
def profileFaults (providers : Providers) (profile : Profile) :
    List ConfigurationFault :=
  when (Text.isAllBlank profile.name) .blankProfileName ++
    when (Text.isAllBlank profile.model) (.blankProfileModel profile.name) ++
    ofUnknown providers.declaresBackend (.unknownProfileBackend profile.name)
      profile.backend

/-- The faults of providers. -/
def faults (providers : Providers) : List ConfigurationFault :=
  providers.backends.flatMap Backend.faults ++
    providers.profiles.flatMap providers.profileFaults ++
    ofUnknown providers.declaresBackend .unknownDefaultBackend
      providers.defaultBackend ++
    ofUnknown providers.declaresProfile .unknownDefaultProfile
      providers.defaultProfile

end Providers

namespace Configuration

/-- The kinds of optimizer there are. -/
def supportedOptimizers : List String := ["opro"]

/-- The kinds of store there are. -/
def supportedStores : List String := ["in_memory"]

/-- The faults of a configuration, in the order in which they count. -/
def faults (configuration : Configuration) : List ConfigurationFault :=
  when (configuration.version == 0) .zeroVersion ++
    when (Text.isAllBlank configuration.application.name)
      .blankApplicationName ++
    configuration.providers.faults ++
    when (!supportedOptimizers.contains configuration.optimizer.kind)
      (.unsupportedOptimizer configuration.optimizer.kind) ++
    when (configuration.optimizer.shown == 0) .zeroShown ++
    ofUnknown configuration.providers.declaresProfile .unknownOptimizerProfile
      configuration.optimizer.profile ++
    when (configuration.training.epochs == 0) .zeroEpochs ++
    when (configuration.training.timeoutSeconds == 0) .zeroTimeout ++
    when (!supportedStores.contains configuration.store.backend)
      (.unsupportedStore configuration.store.backend) ++
    when (configuration.store.capacity == 0) .zeroCapacity

/-- Whether a configuration has no fault. -/
def IsValid (configuration : Configuration) : Prop :=
  configuration.faults = []

instance (configuration : Configuration) : Decidable configuration.IsValid :=
  inferInstanceAs (Decidable (configuration.faults = []))

/-- A configuration that is valid, or its first fault. -/
def validate (configuration : Configuration) :
    Except ConfigurationFault Configuration :=
  match configuration.faults with
  | [] => .ok configuration
  | fault :: _ => .error fault

theorem validate_eq_ok_iff (configuration validated : Configuration) :
    configuration.validate = .ok validated ↔
      configuration.IsValid ∧ configuration = validated := by
  unfold validate IsValid
  cases configuration.faults <;> simp

theorem isValid_standard : Configuration.standard.IsValid := by
  decide

end Configuration

end PromptTuning
