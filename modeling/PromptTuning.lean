import PromptTuning.Application.Basic
import PromptTuning.Binary.Basic
import PromptTuning.Binary.Shortest
import PromptTuning.Concurrency.Activity
import PromptTuning.Concurrency.Pool
import PromptTuning.Concurrency.Progress
import PromptTuning.Concurrency.Schedule
import PromptTuning.Concurrency.World
import PromptTuning.Configuration.Basic
import PromptTuning.Configuration.Loading
import PromptTuning.Configuration.Reloading
import PromptTuning.Configuration.Source
import PromptTuning.Configuration.Validation
import PromptTuning.Diagnostic
import PromptTuning.Files
import PromptTuning.Json.Basic
import PromptTuning.Json.Decode
import PromptTuning.Json.Numeral
import PromptTuning.Json.Printer
import PromptTuning.Json.Reader
import PromptTuning.LanguageModel.Basic
import PromptTuning.LanguageModel.Chat
import PromptTuning.LanguageModel.Scripted
import PromptTuning.Module.Basic
import PromptTuning.Module.Call
import PromptTuning.Module.Config
import PromptTuning.Optimizer.Basic
import PromptTuning.Optimizer.Lifecycle
import PromptTuning.Optimizer.Optimize
import PromptTuning.Prompt.Basic
import PromptTuning.Proofs.Binary.Whole
import PromptTuning.Proofs.Binary.Widening
import PromptTuning.Proofs.Concurrency.Alike
import PromptTuning.Proofs.Concurrency.Discipline
import PromptTuning.Proofs.Concurrency.Pool
import PromptTuning.Proofs.Concurrency.Proceeding
import PromptTuning.Proofs.Concurrency.Progress
import PromptTuning.Proofs.Concurrency.Rehearsal
import PromptTuning.Proofs.Concurrency.Serial
import PromptTuning.Proofs.Concurrency.Serializable
import PromptTuning.Proofs.Concurrency.Sparing
import PromptTuning.Proofs.Concurrency.Standing
import PromptTuning.Proofs.Json.Sameness
import PromptTuning.Proofs.Optimizer.Commitment
import PromptTuning.Proofs.Optimizer.Pass
import PromptTuning.Proofs.Optimizer.Pool
import PromptTuning.Proofs.Optimizer.Result
import PromptTuning.Proofs.Schema.Acceptance
import PromptTuning.Proofs.Schema.Checked
import PromptTuning.Proofs.Schema.Composition
import PromptTuning.Proofs.Schema.Document
import PromptTuning.Proofs.Schema.Equivalence
import PromptTuning.Proofs.Schema.Meet
import PromptTuning.Proofs.Schema.Monoid
import PromptTuning.Proofs.Schema.Narrowing
import PromptTuning.Proofs.Schema.Normalization
import PromptTuning.Proofs.Schema.WellFormed
import PromptTuning.Proofs.Store.Contents
import PromptTuning.Proofs.Store.Entries
import PromptTuning.Proofs.Store.Holding
import PromptTuning.Proofs.Value.Conformance
import PromptTuning.Proofs.Value.RoundTrip
import PromptTuning.Proofs.Variable.Soundness
import PromptTuning.Proofs.Variable.Undated
import PromptTuning.Provider.Basic
import PromptTuning.Provider.Serving
import PromptTuning.Ranking
import PromptTuning.Schema.Basic
import PromptTuning.Schema.Catalogue
import PromptTuning.Schema.Composition
import PromptTuning.Schema.Document
import PromptTuning.Schema.Narrowing
import PromptTuning.Schema.Validation
import PromptTuning.Session
import PromptTuning.Store.Basic
import PromptTuning.Store.Calls
import PromptTuning.Store.LockObjects
import PromptTuning.Store.Locking
import PromptTuning.Template.Basic
import PromptTuning.Template.Piece
import PromptTuning.Template.Rendering
import PromptTuning.Template.Tag
import PromptTuning.Template.Tree
import PromptTuning.Text.Blank
import PromptTuning.Text.Display
import PromptTuning.Trainer.Event
import PromptTuning.Trainer.Fit
import PromptTuning.Trainer.Report
import PromptTuning.Trainer.Reward
import PromptTuning.Value
import PromptTuning.Variable.Basic
import PromptTuning.Variable.Record
import PromptTuning.Variable.Timestamp
import PromptTuning.Yaml.Extraction
import PromptTuning.Yaml.Glyph
import PromptTuning.Yaml.Lexeme
import PromptTuning.Yaml.Node
import PromptTuning.Yaml.Property
import PromptTuning.Yaml.Resolution
import PromptTuning.Yaml.Scalar
import PromptTuning.Proofs.Schema.Soundness
import PromptTuning.Proofs.Value.Presence
import PromptTuning.Proofs.Module.Admission
import PromptTuning.Proofs.Value.Validity
import PromptTuning.Proofs.Value.Concatenation
import PromptTuning.Proofs.Store.Writing
import PromptTuning.Proofs.Store.LockObjects
import PromptTuning.Proofs.Store.Exclusion
import PromptTuning.Proofs.Store.Tables
import PromptTuning.Proofs.Store.Calls
import PromptTuning.Proofs.Application.Persistence
import PromptTuning.Proofs.Concurrency.Alone
import PromptTuning.Proofs.Concurrency.Invariance
import PromptTuning.Proofs.Concurrency.Rewards
import PromptTuning.Proofs.Concurrency.Service
import PromptTuning.Proofs.Concurrency.Upkeep
import PromptTuning.Proofs.Files.Writing
import PromptTuning.Proofs.Json.Characters
import PromptTuning.Proofs.Json.Equality
import PromptTuning.Proofs.Optimizer.Building
import PromptTuning.Proofs.Optimizer.Lifecycle
import PromptTuning.Proofs.Optimizer.Rewards
import PromptTuning.Proofs.Store.Atomicity
import PromptTuning.Proofs.Store.Restoration
import PromptTuning.Proofs.Store.Snapshot
import PromptTuning.Proofs.Variable.Document
import PromptTuning.Proofs.Variable.Rewards
import PromptTuning.Proofs.Concurrency.Guarding
import PromptTuning.Proofs.Optimizer.Eviction
import PromptTuning.Proofs.Concurrency.Consulting
import PromptTuning.Proofs.Concurrency.Touching
import PromptTuning.Proofs.Trainer.Passes
import PromptTuning.Proofs.Trainer.SideBySide
import PromptTuning.Proofs.Trainer.Epoch
import PromptTuning.Proofs.Concurrency.Returning
import PromptTuning.Proofs.Module.OutputSchema
import PromptTuning.Proofs.Module.Recording
import PromptTuning.Proofs.Concurrency.Cohort
import PromptTuning.Proofs.Optimizer.Determined
import PromptTuning.Proofs.Optimizer.Attempt
import PromptTuning.Proofs.Optimizer.Interleaved
import PromptTuning.Proofs.Optimizer.Uninterrupted
import PromptTuning.Proofs.Trainer.Interleaving
import PromptTuning.Proofs.Optimizer.Stamps
import PromptTuning.Proofs.Trainer.Epochs
import PromptTuning.Proofs.Application.Restart
import PromptTuning.Proofs.Schema.Recognition
import PromptTuning.Proofs.Variable.Recognition
import PromptTuning.Proofs.Schema.Rearrangement
import PromptTuning.Proofs.Module.Config
import PromptTuning.Proofs.Optimizer.Config
import PromptTuning.Proofs.Provider.Selection
import PromptTuning.Proofs.Provider.Resolution
import PromptTuning.Proofs.Configuration.References
import PromptTuning.Proofs.Schema.Faults
import PromptTuning.Proofs.Value.Reporting
import PromptTuning.Proofs.Value.Updating
import PromptTuning.Proofs.Ranking.Stability
import PromptTuning.Proofs.LanguageModel.Extraction
import PromptTuning.Proofs.Binary.Narrowing
import PromptTuning.Proofs.Provider.Inline
import PromptTuning.Proofs.Optimizer.Blame
import PromptTuning.Proofs.Module.Thinking
import PromptTuning.Proofs.Binary.Rounding
import PromptTuning.Proofs.Binary.Counting
import PromptTuning.Proofs.Trainer.MeanScore
import PromptTuning.Proofs.Optimizer.BuildingOnce
import PromptTuning.Proofs.Concurrency.Unobserved
import PromptTuning.Proofs.Concurrency.Announcing
import PromptTuning.Proofs.Optimizer.LettingGo
import PromptTuning.Proofs.Trainer.Completing
import PromptTuning.Proofs.Trainer.Hearing
import PromptTuning.Proofs.Configuration.Reloading
import PromptTuning.Proofs.Concurrency.Versions
import PromptTuning.Proofs.Store.StrayLocks
import PromptTuning.Proofs.Schema.Obtainable
import PromptTuning.Proofs.Schema.Splitting
import PromptTuning.Proofs.Value.Splitting
