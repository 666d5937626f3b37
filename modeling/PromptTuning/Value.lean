import PromptTuning.Schema.Document

/-!
# Structural values

A value pairs a schema with the members of an object that conform to it.
Construction validates the data and keeps its normal form; the other operations
make new values from old ones. The portable form of a value is an object with
the document of its schema and its data, its summary shows the data beside the
names of the fields.
-/

namespace PromptTuning

/-- A schema and data; values built by the operations below conform to
their schema. -/
structure Value where
  schema : Schema
  data : Members

instance : Inhabited Value := ⟨⟨.empty, []⟩⟩

/-- Why a value cannot be made. -/
inductive ValueError
  | schema (cause : SchemaError)
  | validation (violations : List Violation)
  | format (reason : String)
  deriving DecidableEq

namespace ValueError

/-- The wording of a list of violations as an error of its own. -/
def validationMessage (violations : List Violation) : String :=
  "validation failed: " ++ Violation.summary violations

/-- The wording of a value error. -/
def message : ValueError -> String
  | .schema cause => cause.message
  | .validation violations => validationMessage violations
  | .format reason => "malformed portable value: " ++ reason

/-- The code of a value error. -/
def code : ValueError -> String
  | .schema cause => cause.code
  | .validation _ => "Validation"
  | .format _ => "Format"

/-- The violations behind a value error, each as path and wording, and
their paths. -/
def details : ValueError -> Members
  | .validation violations =>
      [("violations", .array (violations.map fun violation =>
          .ofStrings [violation.path.render, violation.fault.message])),
        ("paths",
          .ofStrings (violations.map fun violation => violation.path.render))]
  | _ => []

instance : Diagnostic ValueError := ⟨code, message, details⟩

end ValueError

namespace Value

/-- The value of a schema and an object, with the data in normal form. -/
def ofMembers (schema : Schema) (members : Members) :
    Except (List Violation) Value :=
  match schema.violations members with
  | [] => .ok ⟨schema, schema.normalize members⟩
  | violations => .error violations

/-- The value of a schema and a JSON value, which has to be an object. -/
def construct (schema : Schema) : Json -> Except (List Violation) Value
  | .object members => ofMembers schema members
  | _ => .error [⟨[], .notAnObject⟩]

/-- The value of a field, if it is present. -/
def field? (value : Value) (name : String) : Option Json :=
  value.data.lookup name

/-- The value with one declared field replaced. -/
def updateField (value : Value) (name : String) (content : Json) :
    Except ValueError Value :=
  match value.schema.field? name with
  | none => .error (.schema (.unknownField name))
  | some field =>
      match field.type.violations [.member name] content with
      | [] => .ok
          { value with
            data := value.data.put name (field.type.normalize content) }
      | violations => .error (.validation violations)

/-- The value with the fields of both; on a shared field the right one wins. -/
def concat (left right : Value) : Except ValueError Value :=
  match left.schema.compose right.schema with
  | .error cause => .error (.schema cause)
  | .ok schema =>
      (ofMembers schema (left.data.union right.data)).mapError .validation

/-- The value under a smaller schema, without the data it does not declare. -/
def restrict (value : Value) (schema : Schema) : Value :=
  ⟨schema, value.data.filter fun member => schema.declares member.1⟩

/-- The value without the named fields. -/
def project (value : Value) (names : List String) : Except ValueError Value :=
  match value.schema.mask names with
  | .error cause => .error (.schema cause)
  | .ok schema => .ok (value.restrict schema)

/-- The value with only the named fields. -/
def keep (value : Value) (names : List String) : Except ValueError Value :=
  match value.schema.keep names with
  | .error cause => .error (.schema cause)
  | .ok schema => .ok (value.restrict schema)

/-- The portable form of a value. -/
def toPortable (value : Value) : Json :=
  .object [("schema", value.schema.toDocument), ("data", .object value.data)]

/-- The value of a portable form. -/
def ofPortable (portable : Json) : Except ValueError Value :=
  match portable.get? "schema", portable.get? "data" with
  | none, _ => .error (.format "missing 'schema'")
  | some _, none => .error (.format "missing 'data'")
  | some document, some data =>
      match document.toSchema with
      | .error cause => .error (.schema cause)
      | .ok schema => (construct schema data).mapError .validation

/-- Whether two values have the same schema and the same data. -/
def same (left right : Value) : Bool :=
  left.schema.same right.schema &&
  (Json.object left.data).same (.object right.data)

/-- A summary of a value. -/
def summary (value : Value) : Json :=
  .object
    [("title", .ofString? value.schema.title),
      ("names", .ofStrings value.schema.names),
      ("keys", .ofStrings value.data.keys),
      ("data", .object value.data)]

end Value
end PromptTuning
