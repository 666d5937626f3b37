import PromptTuning.Configuration.Loading
import PromptTuning.Json.Reader
import PromptTuning.Provider.Serving
import PromptTuning.Trainer.Fit

/-!
# Training applications

An application is started from the file of a configuration. It restores the
snapshot of its store, if there is one, trains for the configured number of
epochs, and persists its store as a snapshot. Its configuration can be loaded
anew, but what it was started with stays in force.
-/

namespace PromptTuning

/-- Why an application cannot be started, trained or persisted. -/
inductive ApplicationError
  | configuration (cause : ConfigurationError)
  | serving (cause : ServingError)
  | missingProfile
  | store (cause : StoreError)
  | trainer (cause : TrainerError)
  | unusableFile
  | malformedSnapshot
  deriving DecidableEq

namespace ApplicationError

/-- The code of an application error. -/
def code : ApplicationError -> String
  | .configuration cause => "App." ++ cause.code
  | .serving cause => "App." ++ cause.code
  | .missingProfile => "App.MissingModelProfile"
  | .store cause => "App." ++ cause.code
  | .trainer cause => "App." ++ cause.code
  | .unusableFile => "App.Io"
  | .malformedSnapshot => "App.Snapshot"

/-- A wording after what it is about; an empty one stays empty. -/
def about (subject wording : String) : String :=
  if wording.isEmpty then "" else subject ++ ": " ++ wording

/-- The wording of an application error, empty where there is none. -/
def message : ApplicationError -> String
  | .configuration cause => about "config error" (cause.message?.getD "")
  | .serving cause => about "language model build error" cause.message
  | .missingProfile => "no model profile configured for the optimizer"
  | .store cause => about "store error" cause.report
  | .trainer cause => about "training error" cause.message
  | .unusableFile | .malformedSnapshot => ""

instance : Diagnostic ApplicationError := ⟨code, message, fun _ => []⟩

end ApplicationError

/-- A training run set up by a configuration. -/
structure Application where
  /-- The configuration it was started with. -/
  settings : Configuration
  /-- The configuration that was loaded last. -/
  current : Configuration
  optimizer : Optimizer
  store : StoreId

/-- Where an application is started. -/
structure Surroundings where
  files : Files
  environment : Environment
  /-- The file of the configuration. -/
  configurationPath : String
  /-- A number for its optimizer and one for its store, not in use elsewhere. -/
  optimizer : OptimizerId
  store : StoreId

namespace StoreSettings

/-- The contents of a snapshot's file. -/
def readSnapshot (files : Files) (path : String) :
    Except ApplicationError Json :=
  match files.read? path with
  | none => .error .unusableFile
  | some text =>
      match Json.read? text with
      | none => .error .malformedSnapshot
      | some document => .ok document

/-- A store as configured, with the variables of the snapshot, if
there is one. -/
def openStore (settings : StoreSettings) (files : Files) :
    Except ApplicationError Store :=
  let empty := Store.withCapacity settings.capacity
  match settings.snapshotPath.filter files.holds with
  | none => .ok empty
  | some path => do
      let document ← readSnapshot files path
      return (← (empty.restore document).mapError .store).2

end StoreSettings

namespace Application

/-- The model that writes instructions under a configuration. -/
def configuredModel (environment : Environment)
    (configuration : Configuration) :
    Except ApplicationError LanguageModel :=
  match configuration.optimizerProfile? with
  | none => .error .missingProfile
  | some profile =>
      ((configuration.providers.serveProfile environment profile.name).mapError
        .serving).map .served

/--
Start an application from the file of its configuration. A language model that
is given takes the place of the configured one.
-/
def start (surroundings : Surroundings) (languageModel : Option LanguageModel) :
    Except ApplicationError (Application × Store) := do
  let configuration ←
    (Configuration.load surroundings.files
      surroundings.configurationPath).mapError .configuration
  let languageModel ←
    match languageModel with
    | some languageModel => .ok languageModel
    | none => configuredModel surroundings.environment configuration
  let store ← configuration.store.openStore surroundings.files
  let optimizer :=
    configuration.optimizer.optimizer surroundings.optimizer languageModel
  return (⟨configuration, configuration, optimizer, surroundings.store⟩, store)

/-- The number of epochs to train for. -/
def epochs (application : Application) : Nat :=
  application.settings.training.epochs

/-- The file of the snapshot, if there is one. -/
def snapshotPath (application : Application) : Option String :=
  application.settings.store.snapshotPath

/-- The trainer of an application. -/
def trainer (application : Application) : Trainer where
  optimizer := application.optimizer
  store := application.store
  timeout := 1000 * application.settings.training.timeoutSeconds
  finalizeOnEpochEnd := application.settings.training.finalizeOnEpochEnd

/-- Train for the configured number of epochs. -/
def fit {σ : Type} (application : Application) (host : ModelHost σ)
    (limit : Nat)
    (rewards : RewardSource) : Run σ (Except ApplicationError History) := do
  return (← application.trainer.fit host limit application.epochs
    rewards).mapError .trainer

/-- Write the snapshot of a store to the file for it, if there is one. -/
def persist (application : Application) (store : Store) (files : Files) :
    Files × Except ApplicationError Unit :=
  match application.snapshotPath with
  | none => (files, .ok ())
  | some path =>
      let (files, written) := files.write path store.snapshot.pretty
      (files, if written then .ok () else .error .unusableFile)

/-- Load the configuration anew; one that cannot be loaded changes nothing. -/
def reload (application : Application)
    (loaded : Except ConfigurationError Configuration) :
    Application :=
  { application with current := application.current.replaceWith loaded }

/-- Start an application, train it and persist its store. -/
def run {σ : Type} (surroundings : Surroundings) (host : ModelHost σ)
    (limit : Nat) (rewards : RewardSource) :
    Run σ (Files × Except ApplicationError History) := do
  match start surroundings none with
  | .error cause => return (surroundings.files, .error cause)
  | .ok (application, store) =>
      modifyThe (World σ) fun world => world.setStore application.store store
      match ← application.fit host limit rewards with
      | .error cause => return (surroundings.files, .error cause)
      | .ok history =>
          let world ← getThe (World σ)
          let (files, persisted) :=
            application.persist (world.stores application.store)
              surroundings.files
          return (files, persisted.map fun _ => history)

end Application

end PromptTuning
