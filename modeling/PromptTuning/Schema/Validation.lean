import PromptTuning.Schema.Narrowing

/-!
# Validation of data

Data is checked against a type in two independent recursions. One lists every
violation with the path to its position and never stops early. The other gives
the normal form: defaults filled in, undeclared members dropped and integral
doubles of an integer field turned into integers. The normal form is of use when
there is no violation.
-/

namespace PromptTuning

/-- One step from a value to a part of it. -/
inductive Segment
  | member (name : String)
  | item (index : Nat)
  deriving DecidableEq

/-- A position in a value, from the outermost step. -/
abbrev Path := List Segment

namespace Path

/-- The text of a path one step longer. -/
def extend (text : String) : Segment -> String
  | .member name => if text.isEmpty then name else text ++ "." ++ name
  | .item index => text ++ "[" ++ toString index ++ "]"

/-- The text of a path; the whole value is written as a dollar sign. -/
def render : Path -> String
  | [] => "$"
  | path => path.foldl extend ""

end Path

/-- What is wrong at a position. -/
inductive Fault
  | notAnObject
  | missing
  | unexpected
  | mismatch (expected kind : String)
  | notMember (literal choices : String)
  deriving DecidableEq

namespace Fault

/-- The wording of a fault. -/
def message : Fault -> String
  | .notAnObject => "expected an object"
  | .missing => "missing required field"
  | .unexpected => "unexpected field"
  | .mismatch expected kind => "expected " ++ expected ++ ", got " ++ kind
  | .notMember literal choices => literal ++ " is not one of " ++ choices

end Fault

/-- A fault and its position. -/
structure Violation where
  path : Path
  fault : Fault
  deriving DecidableEq

namespace Violation

/-- The wording of a violation. -/
def render (violation : Violation) : String :=
  violation.path.render ++ ": " ++ violation.fault.message

/-- The wording of several violations. -/
def summary (violations : List Violation) : String :=
  "; ".intercalate (violations.map render)

end Violation

namespace Json

/-- The name of a value's kind in messages. -/
def kind : Json -> String
  | .null => "null"
  | .boolean _ => "boolean"
  | .number (.double _) => "number"
  | .number (.integer _ _) => "integer"
  | .string _ => "string"
  | .array _ => "array"
  | .object _ => "object"

end Json

namespace Number

/-- The integer a number stands for in an integer field. -/
def coerceInteger? : Number -> Option Number
  | .integer value bounded => some (.integer value bounded)
  | .double value =>
      match value.toInt? with
      | some whole => if whole.natAbs < Nat.pow 2 63 then ofInt? whole else none
      | none => none

end Number

namespace FieldType

/-- The integer a value stands for in an integer field. -/
def coerceInteger? : Json -> Option Json
  | .number value => value.coerceInteger?.map .number
  | _ => none

/-- The violation of a type by a value of another kind. -/
def mismatch (type : FieldType) (path : Path) (value : Json) : List Violation :=
  [⟨path, .mismatch type.describe value.kind⟩]

/-- The members of an object that a list of fields does not declare. -/
def unexpected (fields : List Field) (path : Path) (members : Members) :
    List Violation :=
  (members.keys.filter fun key => !fields.any (·.name == key)).map fun key =>
    ⟨path ++ [.member key], .unexpected⟩

/-- Violations of consecutive items, starting from an index. -/
def itemViolations
    (check : Path -> Json -> List Violation)
    (path : Path) :
    Nat -> List Json -> List Violation
  | _, [] => []
  | index, item :: rest =>
      check (path ++ [.item index]) item ++
      itemViolations check path (index + 1) rest

/-- Violations of the values of a map. -/
def valueViolations
    (check : Path -> Json -> List Violation)
    (path : Path)
    (members : Members) :
    List Violation :=
  members.flatMap fun (key, value) => check (path ++ [.member key]) value

mutual

/-- Every violation of a type by the value at a path. -/
def violations : FieldType -> Path -> Json -> List Violation
  | .any, _, _ => []
  | .optional present, path, value =>
      match value with
      | .null => []
      | _ => present.violations path value
  | .integer, path, value =>
      if (coerceInteger? value).isSome then [] else mismatch .integer path value
  | .string, path, value =>
      if FieldType.string.acceptsLiteral value then []
      else mismatch .string path value
  | .number, path, value =>
      if FieldType.number.acceptsLiteral value then []
      else mismatch .number path value
  | .boolean, path, value =>
      if FieldType.boolean.acceptsLiteral value then []
      else mismatch .boolean path value
  | .oneOf choices, path, value =>
      if choices.any fun choice => sameLiteral choice value then []
      else [⟨path, .notMember value.compact (FieldType.oneOf choices).describe⟩]
  | .object ⟨title, fields⟩, path, value =>
      match value with
      | .object members =>
          fieldViolations fields path members ++ unexpected fields path members
      | _ => mismatch (.object ⟨title, fields⟩) path value
  | .list item, path, value =>
      match value with
      | .array items => itemViolations item.violations path 0 items
      | _ => mismatch (.list item) path value
  | .map entry, path, value =>
      match value with
      | .object members => valueViolations entry.violations path members
      | _ => mismatch (.map entry) path value

/-- Every violation of the declared fields by the members of an object. -/
def fieldViolations : List Field -> Path -> Members -> List Violation
  | [], _, _ => []
  | ⟨name, type, required, default, _⟩ :: rest, path, members =>
      (match members.lookup name with
        | some value => type.violations (path ++ [.member name]) value
        | none =>
            if required && default.isNone then
              [⟨path ++ [.member name], .missing⟩] else []) ++
        fieldViolations rest path members

end

mutual

/-- The normal form of a value under a type. -/
def normalize : FieldType -> Json -> Json
  | .optional present, value =>
      match value with
      | .null => .null
      | _ => present.normalize value
  | .integer, value => (coerceInteger? value).getD value
  | .object ⟨_, fields⟩, value =>
      match value with
      | .object members => .object (normalizeFields fields members)
      | _ => value
  | .list item, value =>
      match value with
      | .array items => .array (items.map item.normalize)
      | _ => value
  | .map entry, value =>
      match value with
      | .object members =>
          .object (members.map fun (key, part) => (key, entry.normalize part))
      | _ => value
  | _, value => value

/-- The declared members of an object in normal form, absent ones with
their defaults. -/
def normalizeFields : List Field -> Members -> Members
  | [], _ => []
  | ⟨name, type, _, default, _⟩ :: rest, members =>
      match members.lookup name with
      | some value =>
          (name, type.normalize value) :: normalizeFields rest members
      | none =>
          match default with
          | some value => (name, value) :: normalizeFields rest members
          | none => normalizeFields rest members

end

end FieldType

namespace Schema

/-- Every violation of a schema by the members of an object. -/
def violations (schema : Schema) (members : Members) : List Violation :=
  FieldType.fieldViolations schema.fields [] members ++
    FieldType.unexpected schema.fields [] members

/-- The members of an object in normal form under a schema. -/
def normalize (schema : Schema) (members : Members) : Members :=
  FieldType.normalizeFields schema.fields members

end Schema

end PromptTuning
