import PromptTuning.Configuration.Basic
import PromptTuning.Yaml.Extraction

/-!
# Configurations as written

A configuration is written as a mapping of its parts, each a mapping of its
fields. Every part and nearly every field may be left out. Values of a backend's
or a profile's own settings may be nested as deep as collections can be at all.
-/

namespace PromptTuning

open Yaml Yaml.Extractor

/-- How deep the settings of a backend or a profile may be nested: 128 levels
less four around them. -/
def settingsDepth : Nat := 124

namespace Backend

/-- The backend that a node describes. -/
def ofNode? : Extractor Backend := fun node => do
  let found ← fields ["name", "kind", "endpoint", "api_key_env", "config"] node
  return {
    name := ← required found "name" text
    kind := ← required found "kind" text
    endpoint := ← defaulted found "endpoint" (nullable text) none
    keyVariable := ← defaulted found "api_key_env" (nullable text) none
    settings := ← defaulted found "config" (json settingsDepth) .null }

end Backend

namespace TemperaturePolicy

/-- The bounds that a node describes. -/
def ofNode? : Extractor TemperaturePolicy := fun node => do
  let found ← fields ["temperature_min", "temperature_max"] node
  return {
    minimum := ← defaulted found "temperature_min" (nullable single) none
    maximum := ← defaulted found "temperature_max" (nullable single) none }

end TemperaturePolicy

namespace Profile

/-- The profile that a node describes. -/
def ofNode? : Extractor Profile := fun node => do
  let found ← fields
    ["name", "backend", "model", "temperature", "max_tokens", "policy",
      "config"] node
  let limit ← defaulted found "max_tokens" (nullable (natural UInt32.size)) none
  return {
    name := ← required found "name" text
    backend := ← defaulted found "backend" (nullable text) none
    model := ← required found "model" text
    temperature := ← defaulted found "temperature" (nullable single) none
    maxTokens := limit.map UInt32.ofNat
    policy := ← defaulted found "policy" TemperaturePolicy.ofNode? .unbounded
    settings := ← defaulted found "config" (json settingsDepth) .null }

end Profile

namespace Providers

/-- The providers that a node describes. -/
def ofNode? : Extractor Providers := fun node => do
  let found ←
    fields ["default_backend", "default_model", "backends", "models"] node
  return {
    defaultBackend := ← defaulted found "default_backend" (nullable text) none
    defaultProfile := ← defaulted found "default_model" (nullable text) none
    backends := ← defaulted found "backends" (list Backend.ofNode?) []
    profiles := ← defaulted found "models" (list Profile.ofNode?) [] }

end Providers

namespace ApplicationSettings

/-- The settings of an application that a node describes. -/
def ofNode? : Extractor ApplicationSettings := fun node => do
  let found ← fields ["name", "environment"] node
  return {
    name := ← defaulted found "name" text standard.name
    environment := ← defaulted found "environment" text standard.environment }

end ApplicationSettings

namespace OptimizerSettings

/-- The settings of an optimizer that a node describes. -/
def ofNode? : Extractor OptimizerSettings := fun node => do
  let found ←
    fields ["kind", "k_best", "model", "name", "meta_instructions"] node
  return {
    kind := ← defaulted found "kind" text standard.kind
    shown := ← defaulted found "k_best" count standard.shown
    profile := ← defaulted found "model" (nullable text) none
    name := ← defaulted found "name" (nullable text) none
    metaInstructions := ← defaulted found "meta_instructions"
      (nullable (list text)) none }

end OptimizerSettings

namespace TrainingSettings

/-- The settings of training that a node describes. -/
def ofNode? : Extractor TrainingSettings := fun node => do
  let found ←
    fields ["epochs", "generation_timeout_secs", "finalize_on_epoch_end"] node
  return {
    epochs := ← defaulted found "epochs" count standard.epochs
    timeoutSeconds := ← defaulted found "generation_timeout_secs" count
      standard.timeoutSeconds
    finalizeOnEpochEnd :=
      ← defaulted found "finalize_on_epoch_end" truth
        standard.finalizeOnEpochEnd }

end TrainingSettings

namespace StoreSettings

/-- The settings of a store that a node describes. -/
def ofNode? : Extractor StoreSettings := fun node => do
  let found ← fields ["backend", "max_variables", "snapshot_path"] node
  return {
    backend := ← defaulted found "backend" text standard.backend
    capacity := ← defaulted found "max_variables" count standard.capacity
    snapshotPath := ← defaulted found "snapshot_path" (nullable text) none }

/-- The settings of the store of variables among those of all stores. -/
def ofStoresNode? : Extractor StoreSettings := fun node => do
  defaulted (← fields ["variables"] node) "variables" ofNode? standard

end StoreSettings

namespace ObservabilitySettings

/-- What a node says is recorded. -/
def ofNode? : Extractor ObservabilitySettings := fun node => do
  let found ← fields ["log_level", "traces_enabled", "log_file"] node
  return {
    logLevel := ← defaulted found "log_level" text standard.logLevel
    tracesEnabled := ← defaulted found "traces_enabled" truth
      standard.tracesEnabled
    logFile := ← defaulted found "log_file" (nullable text) none }

end ObservabilitySettings

namespace Configuration

/-- The configuration that a node describes. -/
def ofNode? : Extractor Configuration := fun node => do
  let found ← fields
    ["version", "app", "providers", "optimizer", "training", "stores",
      "observability"] node
  return {
    version := ← defaulted found "version" (natural UInt32.size)
      standard.version
    application := ← defaulted found "app" ApplicationSettings.ofNode? .standard
    providers := ← defaulted found "providers" Providers.ofNode? .empty
    optimizer := ← defaulted found "optimizer"
      OptimizerSettings.ofNode? .standard
    training := ← defaulted found "training" TrainingSettings.ofNode? .standard
    store := ← defaulted found "stores" StoreSettings.ofStoresNode? .standard
    observability := ← defaulted found "observability"
      ObservabilitySettings.ofNode? .standard }

/-- The configuration that a source describes. -/
def ofSource? (source : String) : Option Configuration :=
  (Document.ofSource? source).bind (·.extract? ofNode?)

end Configuration

end PromptTuning
