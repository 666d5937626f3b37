import PromptTuning.Json.Decode
import PromptTuning.Schema.Catalogue
import PromptTuning.Value

/-!
# Predictions and instruction sets

A prediction records the inputs and outputs of one execution, an instruction set
the lines that steer a generator. Either may carry a reward. Both have a JSON
form, in which a reward that is not finite is null, and a form as a structural
value under their reference schema.
-/

namespace PromptTuning

/-- A reward is a finite number from zero to one. -/
def isValidReward (reward : Double) : Bool :=
  reward.isFinite && (Binary.zero .double).le reward && reward.le (.one .double)

/-- A recorded execution. -/
structure Prediction where
  label : String
  inputs : Members
  outputs : Members
  reward : Option Double

/-- A set of instructions. -/
structure Instructions where
  label : String
  instructions : List String
  reward : Option Double

namespace Json

/-- A reward, null if absent or not finite. -/
def ofReward (reward : Option Double) : Json :=
  reward.elim .null .ofDouble

end Json

/-- Whether two rewards agree: both absent, or at one place of the
number line. -/
def sameReward : Option Double -> Option Double -> Bool
  | none, none => true
  | some left, some right => left.le right && right.le left
  | _, _ => false

namespace Prediction

/-- An unscored prediction. -/
def unscored (inputs outputs : Members) : Prediction :=
  ⟨Catalogue.predictionLabel, inputs, outputs, none⟩

/-- Whether a prediction carries no reward. -/
def isUnscored (prediction : Prediction) : Bool :=
  prediction.reward.isNone

/-- The prediction with a reward. -/
def withReward (reward : Double) (prediction : Prediction) : Prediction :=
  { prediction with reward := some reward }

/-- Equality of predictions, their inputs and outputs compared as JSON. -/
def same (left right : Prediction) : Bool :=
  left.label == right.label &&
    (Json.object left.inputs).same (.object right.inputs) &&
    (Json.object left.outputs).same (.object right.outputs) &&
    sameReward left.reward right.reward

/-- The members of the JSON form. -/
def toMembers (prediction : Prediction) : Members :=
  [("label", .string prediction.label),
    ("inputs", .object prediction.inputs),
    ("outputs", .object prediction.outputs),
    ("reward", .ofReward prediction.reward)]

/-- The JSON form. -/
def toJson (prediction : Prediction) : Json :=
  .object prediction.toMembers

/-- The fields of the JSON form. -/
def rules : List FieldRule :=
  [.defaulted "label" Decoder.string,
    .required "inputs" Decoder.map,
    .required "outputs" Decoder.map,
    .defaulted "reward" (Decoder.optional Decoder.double)]

/-- The prediction of a JSON form. -/
def decode : Decoder Prediction := fun value => do
  let members ← Decoder.record "struct Prediction" rules value
  return {
    label := ← Decoder.defaulted members "label" Decoder.string
      Catalogue.predictionLabel
    inputs := ← Decoder.required members "inputs" Decoder.map
    outputs := ← Decoder.required members "outputs" Decoder.map
    reward := ← Decoder.nullable members "reward" Decoder.double }

/-- The prediction as a structural value. -/
def toValue (prediction : Prediction) : Except ValueError Value :=
  (Value.ofMembers Catalogue.prediction prediction.toMembers).mapError
    .validation

/-- The prediction in the data of a structural value. -/
def ofValue (value : Value) : Except ValueError Prediction :=
  (decode (.object value.data)).mapError fun reason => .format reason.message

end Prediction

namespace Instructions

/-- An instruction set without a reward. -/
def ofLines (lines : List String) : Instructions :=
  ⟨Catalogue.instructionsLabel, lines, none⟩

/-- The instruction set with a reward. -/
def withReward (reward : Double) (instructions : Instructions) : Instructions :=
  { instructions with reward := some reward }

/-- Equality of instruction sets. -/
def same (left right : Instructions) : Bool :=
  left.label == right.label && left.instructions == right.instructions &&
    sameReward left.reward right.reward

/-- The members of the JSON form. -/
def toMembers (instructions : Instructions) : Members :=
  [("label", .string instructions.label),
    ("instructions", .ofStrings instructions.instructions),
    ("reward", .ofReward instructions.reward)]

/-- The JSON form. -/
def toJson (instructions : Instructions) : Json :=
  .object instructions.toMembers

/-- The fields of the JSON form. -/
def rules : List FieldRule :=
  [.defaulted "label" Decoder.string,
    .required "instructions" (Decoder.list Decoder.string),
    .defaulted "reward" (Decoder.optional Decoder.double)]

/-- The instruction set of a JSON form. -/
def decode : Decoder Instructions := fun value => do
  let members ← Decoder.record "struct Instructions" rules value
  return {
    label := ← Decoder.defaulted members "label" Decoder.string
      Catalogue.instructionsLabel
    instructions := ← Decoder.required members "instructions"
      (Decoder.list Decoder.string)
    reward := ← Decoder.nullable members "reward" Decoder.double }

/-- The instruction set as a structural value. -/
def toValue (instructions : Instructions) : Except ValueError Value :=
  (Value.ofMembers Catalogue.instructions instructions.toMembers).mapError
    .validation

/-- The instruction set in the data of a structural value. -/
def ofValue (value : Value) : Except ValueError Instructions :=
  (decode (.object value.data)).mapError fun reason => .format reason.message

end Instructions

end PromptTuning
