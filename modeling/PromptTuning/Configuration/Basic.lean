import PromptTuning.Optimizer.Basic
import PromptTuning.Provider.Basic
import PromptTuning.Provider.Serving
import PromptTuning.Store.Basic

/-!
# Configurations

One configuration sets up a training run: the providers of language models, the
optimizer, the training, the store and the records kept of it. Every part of it
has defaults. A summary shows every setting together with the profile that
writes instructions.
-/

namespace PromptTuning

/-- What an application is called and where it runs. -/
structure ApplicationSettings where
  name : String
  environment : String

/-- How instructions are optimized. -/
structure OptimizerSettings where
  kind : String
  /-- The number of instruction sets and of predictions shown at most. -/
  shown : Nat
  /-- The profile of the model that writes instructions; without one, the
  default profile. -/
  profile : Option String
  /-- A name in place of the usual one. -/
  name : Option String
  /-- Instructions for the writer of instructions in place of the usual ones. -/
  metaInstructions : Option (List String)

/-- How long training goes on. -/
structure TrainingSettings where
  epochs : Nat
  /-- The longest a pass over one variable may take. -/
  timeoutSeconds : Nat
  finalizeOnEpochEnd : Bool

/-- Where variables are kept. -/
structure StoreSettings where
  backend : String
  capacity : Nat
  /-- The file of the snapshot that is read at the start and written
  after training. -/
  snapshotPath : Option String

/-- What is recorded of a run. -/
structure ObservabilitySettings where
  logLevel : String
  tracesEnabled : Bool
  logFile : Option String

/-- The configuration of a training run. -/
structure Configuration where
  version : Nat
  application : ApplicationSettings
  providers : Providers
  optimizer : OptimizerSettings
  training : TrainingSettings
  store : StoreSettings
  observability : ObservabilitySettings

namespace ApplicationSettings

/-- The settings of an application unless others are given. -/
def standard : ApplicationSettings := ⟨"tessera", "development"⟩

end ApplicationSettings

namespace OptimizerSettings

/-- The settings of an optimizer unless others are given. -/
def standard : OptimizerSettings :=
  ⟨"opro", Optimizer.defaultShown, none, none, none⟩

/-- An optimizer with these settings that asks a language model. -/
def optimizer (settings : OptimizerSettings) (id : OptimizerId)
    (languageModel : LanguageModel) :
    Optimizer :=
  let base :=
    (Optimizer.standard id (some languageModel)).withShown settings.shown
  { base with
    name := settings.name.getD base.name
    metaInstructions := settings.metaInstructions.getD base.metaInstructions }

end OptimizerSettings

namespace TrainingSettings

/-- The settings of training unless others are given. -/
def standard : TrainingSettings := ⟨1, 60, true⟩

end TrainingSettings

namespace StoreSettings

/-- The settings of a store unless others are given. -/
def standard : StoreSettings := ⟨"in_memory", Store.defaultCapacity, none⟩

end StoreSettings

namespace ObservabilitySettings

/-- What is recorded unless other settings are given. -/
def standard : ObservabilitySettings := ⟨"info", false, none⟩

end ObservabilitySettings

namespace Configuration

/-- The configuration when nothing is given. -/
def standard : Configuration where
  version := 1
  application := .standard
  providers := .empty
  optimizer := .standard
  training := .standard
  store := .standard
  observability := .standard

/-- The profile of the model that writes instructions. -/
def optimizerProfile? (configuration : Configuration) : Option Profile :=
  match configuration.optimizer.profile with
  | some name => configuration.providers.profile? name
  | none => configuration.providers.effectiveProfile?

/-- A summary of a configuration. -/
def summary (configuration : Configuration) : Json :=
  let application := configuration.application
  let optimizer := configuration.optimizer
  let training := configuration.training
  let store := configuration.store
  let observability := configuration.observability
  .object
    [("version", .ofNat configuration.version),
      ("app",
        .array [.string application.name, .string application.environment]),
      ("providers", configuration.providers.summary),
      ("optimizer", .object
        [("kind", .string optimizer.kind),
          ("k_best", .ofNat optimizer.shown),
          ("model", .ofString? optimizer.profile),
          ("name", .ofString? optimizer.name),
          ("meta_instructions",
            optimizer.metaInstructions.elim .null Json.ofStrings)]),
      ("optimizer_model",
        .ofString? (configuration.optimizerProfile?.map (·.name))),
      ("training", .object
        [("epochs", .ofNat training.epochs),
          ("timeout", .string (toString training.timeoutSeconds ++ "s")),
          ("finalize", .boolean training.finalizeOnEpochEnd)]),
      ("stores", .object
        [("backend", .string store.backend),
          ("max_variables", .ofNat store.capacity),
          ("snapshot_path", .ofString? store.snapshotPath)]),
      ("observability", .array
        [.string observability.logLevel,
          .boolean observability.tracesEnabled,
          .ofString? observability.logFile])]

end Configuration
end PromptTuning
