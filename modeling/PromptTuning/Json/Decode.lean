import PromptTuning.Diagnostic
import PromptTuning.Json.Printer
import PromptTuning.Text.Display

/-!
# Decoding records

Typed records are decoded from JSON values. A record is an object, of which
unknown members are ignored, or a list of its fields in declaration order. The
fields are checked in the order of the input and the first one that cannot be
decoded is reported; after that the first missing one, in declaration order.
-/

namespace PromptTuning

/-- Why a value cannot be decoded. -/
inductive DecodeError
  | missingField (name : String)
  | invalidType (found expected : String)
  | invalidValue (found expected : String)
  | unknownVariant (name : String) (variants : List String)
  | invalidLength (length : Nat) (expected : String)
  /-- A text that is not in its format; there is no wording for it. -/
  | malformedText
  deriving DecidableEq

namespace DecodeError

/-- A name in a message. -/
def quotedName (name : String) : String :=
  "`" ++ name ++ "`"

/-- The wording of a decoding error, where it has one. -/
def message? : DecodeError -> Option String
  | .missingField name => some ("missing field " ++ quotedName name)
  | .invalidType found expected =>
      some ("invalid type: " ++ found ++ ", expected " ++ expected)
  | .invalidValue found expected =>
      some ("invalid value: " ++ found ++ ", expected " ++ expected)
  | .unknownVariant name variants =>
      some ("unknown variant " ++ quotedName name ++ ", expected one of " ++
        ", ".intercalate (variants.map quotedName))
  | .invalidLength length expected =>
      some ("invalid length " ++ toString length ++ ", expected " ++ expected)
  | .malformedText => none

/-- The wording of a decoding error, empty where it has none. -/
def message (error : DecodeError) : String :=
  error.message?.getD ""

instance : Diagnostic DecodeError := ⟨fun _ => "Decode", message, fun _ => []⟩

end DecodeError

/-- A way to decode a JSON value. -/
abbrev Decoder (α : Type) := Json -> Except DecodeError α

namespace Decoder

/-- What was found in place of an expected value. -/
def found : Json -> String
  | .null => "null"
  | .boolean true => "boolean `true`"
  | .boolean false => "boolean `false`"
  | .number (.integer value _) => "integer `" ++ toString value ++ "`"
  | .number (.double value) =>
      "floating point `" ++ DecimalLayout.document.renderFinite value ++ "`"
  | .string value => "string " ++ Text.display value
  | .array _ => "sequence"
  | .object _ => "map"

/-- Refuse a value of the wrong type. -/
def wrongType {α : Type} (expected : String) (value : Json) :
    Except DecodeError α :=
  .error (.invalidType (found value) expected)

/-- A value as it stands. -/
def json : Decoder Json := .ok

/-- A string. -/
def string : Decoder String
  | .string value => .ok value
  | value => wrongType "a string" value

/-- A truth value. -/
def boolean : Decoder Bool
  | .boolean value => .ok value
  | value => wrongType "a boolean" value

/-- An object. -/
def map : Decoder Members
  | .object members => .ok members
  | value => wrongType "a map" value

/-- A natural number below a bound, under the name of its width. -/
def natural (width : String) (bound : Nat) : Decoder Nat
  | .number (.integer value bounded) =>
      if 0 ≤ value ∧ value < bound then .ok value.toNat
      else .error
        (.invalidValue (found (.number (.integer value bounded))) width)
  | value => wrongType width value

/-- An unsigned 64-bit number. -/
def word : Decoder UInt64 := fun value =>
  (natural "u64" UInt64.size value).map UInt64.ofNat

/-- An unsigned 32-bit number. -/
def halfWord : Decoder UInt32 := fun value =>
  (natural "u32" UInt32.size value).map UInt32.ofNat

/-- A 64-bit floating-point number. -/
def double : Decoder Double
  | .number value => .ok value.toDouble
  | value => wrongType "f64" value

/-- A 32-bit floating-point number. -/
def single : Decoder Single
  | .number (.integer value _) => .ok (.ofInt value)
  | .number (.double value) => .ok ((Binary.finite value).convert .single)
  | value => wrongType "f32" value

/-- Null or a value. -/
def optional {α : Type} (decode : Decoder α) : Decoder (Option α)
  | .null => .ok none
  | value => (decode value).map some

/-- The items of an array, decoded in order. -/
def list {α : Type} (decode : Decoder α) : Decoder (List α)
  | .array items => items.mapM decode
  | value => wrongType "a sequence" value

/-- One of several names, also as the only key of an object with the
value null. -/
def variant {α : Type} (variants : List (String × α)) : Decoder α :=
  let named (name : String) : Except DecodeError α :=
    match variants.lookup name with
    | some choice => .ok choice
    | none => .error (.unknownVariant name (variants.map (·.1)))
  fun value =>
    match value with
    | .string name => named name
    | .object [(name, content)] => do
        let choice ← named name
        match content with
        | .null => return choice
        | other => wrongType "unit" other
    | .object _ => .error (.invalidValue "map" "map with a single key")
    | other => wrongType "string or map" other

end Decoder

/-- What decoding has to know of a field before the record is assembled. -/
structure FieldRule where
  name : String
  /-- Whether a value of the field can be decoded. -/
  check : Json -> Except DecodeError Unit
  /-- Whether the field may be absent from an object. -/
  absentInObject : Bool
  /-- Whether the field may be absent from the end of a list. -/
  absentInList : Bool

namespace FieldRule

/-- A field that must be present. -/
def required {α : Type} (name : String) (decode : Decoder α) : FieldRule :=
  ⟨name, fun value => (decode value).map fun _ => (), false, false⟩

/-- A field with a default. -/
def defaulted {α : Type} (name : String) (decode : Decoder α) : FieldRule :=
  ⟨name, fun value => (decode value).map fun _ => (), true, true⟩

end FieldRule

namespace Decoder

/-- Check the known members of an object in order. -/
def checkMembers (rules : List FieldRule) : Members -> Except DecodeError Unit
  | [] => .ok ()
  | (name, value) :: rest =>
      match rules.find? (·.name == name) with
      | none => checkMembers rules rest
      | some rule =>
          match rule.check value with
          | .error reason => .error reason
          | .ok _ => checkMembers rules rest

/-- Name the items of a list after the fields of a record and check them. -/
def nameItems : List FieldRule -> List Json -> Except DecodeError Members
  | rule :: rules, item :: items =>
      match rule.check item with
      | .error reason => .error reason
      | .ok _ => (nameItems rules items).map ((rule.name, item) :: ·)
  | _, _ => .ok []

/-- The words for a record of so many elements. -/
def elementsOf (title : String) (count : Nat) : String :=
  title ++ " with " ++ toString count ++
  (if count = 1 then " element" else " elements")

/-- The members of a record given as an object or as a list, checked
against its rules. -/
def record (title : String) (rules : List FieldRule) : Decoder Members
  | .object members => do
      checkMembers rules members
      match rules.find? fun rule =>
        !rule.absentInObject && !Members.has members rule.name with
      | some rule => .error (.missingField rule.name)
      | none => return members
  | .array items => do
      let members ← nameItems rules items
      match (rules.zipIdx.drop items.length).find? fun (rule, _) =>
        !rule.absentInList with
      | some (_, index) =>
          .error (.invalidLength index (elementsOf title rules.length))
      | none =>
          if rules.length < items.length then
            .error (.invalidLength items.length "fewer elements in array")
          else return members
  | value => wrongType title value

/-- The value of a required member of a checked record. -/
def required {α : Type} (members : Members) (name : String)
    (decode : Decoder α) :
    Except DecodeError α :=
  match members.lookup name with
  | some value => decode value
  | none => .error (.missingField name)

/-- The value of a member of a checked record, or a default. -/
def defaulted {α : Type} (members : Members) (name : String)
    (decode : Decoder α) (default : α) :
    Except DecodeError α :=
  match members.lookup name with
  | some value => decode value
  | none => .ok default

/-- The value of a nullable member of a checked record. -/
def nullable {α : Type} (members : Members) (name : String)
    (decode : Decoder α) :
    Except DecodeError (Option α) :=
  defaulted members name (optional decode) none

end Decoder

end PromptTuning
