import PromptTuning.Variable.Record
import PromptTuning.Variable.Timestamp

/-!
# Trainable variables

A variable is the optimization state kept under one key: recorded predictions,
the active instruction set, the pool of superseded instruction sets, the phase
of optimization and a version that counts committed writes. An update replaces
some of its fields and leaves the others. A summary shows how far a variable has
come.
-/

namespace PromptTuning

/-- How far the optimization of a variable has come. -/
inductive Phase
  | unbuilt
  | idle
  | optimizing
  | finalized
  deriving DecidableEq

namespace Phase

/-- The name of a phase in documents. -/
def name : Phase -> String
  | .unbuilt => "unbuilt"
  | .idle => "idle"
  | .optimizing => "optimizing"
  | .finalized => "finalized"

/-- Every phase under its name. -/
def named : List (String × Phase) :=
  [Phase.unbuilt, .idle, .optimizing, .finalized].map fun phase =>
    (phase.name, phase)

/-- Whether a variable in this phase has been built. -/
def isBuilt (phase : Phase) : Bool :=
  phase != .unbuilt

/-- The phase of a document. -/
def decode : Decoder Phase :=
  Decoder.variant named

end Phase

/-- The optimization state of one key. -/
structure Variable where
  key : String
  predictions : List Prediction
  /-- The active instruction set. -/
  instructions : Option Instructions
  /-- Superseded instruction sets with the rewards they earned. -/
  candidates : List Instructions
  phase : Phase
  /-- The number of committed writes, modulo the range of its width. -/
  version : UInt64
  updatedAt : Timestamp

/-- New contents for some fields of a variable. -/
structure VariableUpdate where
  predictions : Option (List Prediction)
  /-- A new active instruction set, or none to clear it. -/
  instructions : Option (Option Instructions)
  candidates : Option (List Instructions)
  phase : Option Phase

namespace Variable

/-- A new variable, not yet built. -/
def create (key : String) (now : Timestamp) : Variable :=
  ⟨key, [], none, [], .unbuilt, 0, now⟩

/-- The variable with an active instruction set. -/
def withInstructions (instructions : Instructions) (entry : Variable) :
    Variable :=
  { entry with instructions := some instructions }

/-- The number of predictions without a reward. -/
def unscoredCount (entry : Variable) : Nat :=
  entry.predictions.countP Prediction.isUnscored

/-- The variable after an update. -/
def apply (update : VariableUpdate) (entry : Variable) : Variable :=
  { entry with
    predictions := update.predictions.getD entry.predictions
    instructions := update.instructions.getD entry.instructions
    candidates := update.candidates.getD entry.candidates
    phase := update.phase.getD entry.phase }

/-- The variable after a committed write. The count of writes goes on from
zero after its largest value; a program that checks its arithmetic does not
get that far. -/
def touch (now : Timestamp) (entry : Variable) : Variable :=
  { entry with version := entry.version + 1, updatedAt := now }

/-- Whether the count of writes is at its largest value, so that one
more overflows. -/
def isExhausted (entry : Variable) : Bool :=
  entry.version.toNat + 1 == UInt64.size

/-- Equality of optional instruction sets. -/
def sameInstructions : Option Instructions -> Option Instructions -> Bool
  | none, none => true
  | some left, some right => left.same right
  | _, _ => false

/-- Equality of variables; a reward that is not a number differs from itself. -/
def same (left right : Variable) : Bool :=
  left.key == right.key &&
    left.predictions.isEqv right.predictions Prediction.same &&
    sameInstructions left.instructions right.instructions &&
    left.candidates.isEqv right.candidates Instructions.same &&
    left.phase == right.phase && left.version == right.version &&
    left.updatedAt == right.updatedAt

/-- The JSON form of a variable, given how its timestamp is written. -/
def toJsonWith (stamp : Timestamp -> String) (entry : Variable) : Json :=
  .object
    [("key", .string entry.key),
      ("predictions", .array (entry.predictions.map Prediction.toJson)),
      ("instructions", entry.instructions.elim .null Instructions.toJson),
      ("instructions_candidates",
        .array (entry.candidates.map Instructions.toJson)),
      ("phase", .string entry.phase.name),
      ("version", .number (.ofWord entry.version)),
      ("updated_at", .string (stamp entry.updatedAt))]

/-- The JSON form of a variable. -/
def toJson (entry : Variable) : Json :=
  entry.toJsonWith Timestamp.render

end Variable

namespace Timestamp

/-- The timestamp of a document. -/
def decode : Decoder Timestamp
  | .string text =>
      match ofText? text with
      | some time => .ok time
      | none => .error .malformedText
  | value =>
      Decoder.wrongType "an RFC 3339 formatted date and time string" value

end Timestamp

namespace Variable

/-- The fields of the JSON form. -/
def rules : List FieldRule :=
  [.required "key" Decoder.string,
    .defaulted "predictions" (Decoder.list Prediction.decode),
    .defaulted "instructions" (Decoder.optional Instructions.decode),
    .defaulted "instructions_candidates" (Decoder.list Instructions.decode),
    .defaulted "phase" Phase.decode,
    .defaulted "version" Decoder.word,
    .required "updated_at" Timestamp.decode]

/-- The variable of a JSON form. -/
def decode : Decoder Variable := fun value => do
  let members ← Decoder.record "struct TrainableVariable" rules value
  return {
    key := ← Decoder.required members "key" Decoder.string
    predictions :=
      ← Decoder.defaulted members "predictions"
        (Decoder.list Prediction.decode) []
    instructions := ← Decoder.nullable members "instructions"
      Instructions.decode
    candidates :=
      ← Decoder.defaulted members "instructions_candidates"
        (Decoder.list Instructions.decode) []
    phase := ← Decoder.defaulted members "phase" Phase.decode .unbuilt
    version := ← Decoder.defaulted members "version" Decoder.word 0
    updatedAt := ← Decoder.required members "updated_at" Timestamp.decode }

end Variable

namespace Instructions

/-- A summary of an instruction set. -/
def summary (instructions : Instructions) : Json :=
  .array
    [.string instructions.label,
      .ofStrings instructions.instructions,
      .ofNamedReward instructions.reward]

end Instructions

namespace Variable

/-- A summary of a variable. -/
def summary (entry : Variable) : Json :=
  .array
    [.string entry.key,
      .number (.ofWord entry.version),
      .string entry.phase.name,
      .array
        (entry.predictions.map fun prediction =>
          .ofNamedReward prediction.reward),
      .ofNat entry.unscoredCount,
      entry.instructions.elim .null Instructions.summary,
      .array (entry.candidates.map Instructions.summary)]

end Variable
end PromptTuning
