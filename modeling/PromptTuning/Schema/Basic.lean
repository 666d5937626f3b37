import PromptTuning.Diagnostic
import PromptTuning.Json.Printer

/-!
# Schemas

A schema is the structural description of a record: an ordered list of named
fields, each with a type, a required flag and possibly a default and a
description. Types nest through objects, lists, maps and optionals. The raw data
may repeat a field name; `Schema.Distinct` says that none is repeated.
-/

namespace PromptTuning

mutual

/-- A named field of a record. -/
structure Field where
  name : String
  type : FieldType
  /-- Whether data without the field and without a default is refused. -/
  required : Bool
  /-- The value that stands in for an absent field. -/
  default : Option Json
  description : Option String

/-- The type of a field. -/
inductive FieldType
  | string
  | integer
  | number
  | boolean
  | any
  | object (schema : Schema)
  | list (item : FieldType)
  | map (value : FieldType)
  | optional (present : FieldType)
  | oneOf (values : List Json)

/-- A structural description of a record. -/
structure Schema where
  title : Option String
  fields : List Field

end

instance : Inhabited FieldType := ⟨.any⟩

namespace Field

/-- A required field without default or description. -/
def mandatory (name : String) (type : FieldType) : Field :=
  ⟨name, type, true, none, none⟩

/-- An optional field without default or description. -/
def voluntary (name : String) (type : FieldType) : Field :=
  ⟨name, type, false, none, none⟩

/-- A field with a default. -/
def withDefault (default : Json) (field : Field) : Field :=
  { field with default := some default }

/-- A field with a description. -/
def withDescription (description : String) (field : Field) : Field :=
  { field with description := some description }

end Field

namespace Schema

/-- The schema without fields. -/
def empty : Schema := ⟨none, []⟩

instance : Inhabited Schema := ⟨empty⟩

/-- A schema with a title. -/
def withTitle (title : String) (schema : Schema) : Schema :=
  { schema with title := some title }

/-- The first field of a given name. -/
def field? (schema : Schema) (name : String) : Option Field :=
  schema.fields.find? (·.name == name)

/-- Whether a field of a given name is declared. -/
def declares (schema : Schema) (name : String) : Bool :=
  (schema.field? name).isSome

/-- The names of the fields, in order. -/
def names (schema : Schema) : List String :=
  schema.fields.map (·.name)

/-- No field name is declared twice. -/
def Distinct (schema : Schema) : Prop :=
  schema.names.Nodup

end Schema

namespace FieldType

/-- A choice among strings. -/
def oneOfStrings (values : List String) : FieldType :=
  .oneOf (values.map .string)

/-- Whether a type is a string, a number or a boolean. -/
def isPrimitive : FieldType -> Bool
  | .string | .integer | .number | .boolean => true
  | _ => false

/-- The short name of a type in messages. -/
def describe : FieldType -> String
  | .string => "string"
  | .integer => "integer"
  | .number => "number"
  | .boolean => "boolean"
  | .any => "any"
  | .object schema => "object\x7b" ++ ",".intercalate schema.names ++ "\x7d"
  | .list item => "list<" ++ item.describe ++ ">"
  | .map value => "map<" ++ value.describe ++ ">"
  | .optional present => "optional<" ++ present.describe ++ ">"
  | .oneOf values => "enum[" ++ ",".intercalate (values.map Json.compact) ++ "]"

end FieldType

/-- Why a schema cannot be built. -/
inductive SchemaError
  | conflict (field left right : String)
  | unknownField (name : String)
  | duplicateField (name : String)
  | invalidDocument (path reason : String)
  | invalidDefault (field reason : String)
  deriving DecidableEq

namespace SchemaError

/-- The wording of a schema error. -/
def message : SchemaError -> String
  | .conflict field left right =>
      "conflicting definitions for field '" ++ field ++ "': " ++
      left ++ " vs " ++ right
  | .unknownField name => "unknown field: " ++ name
  | .duplicateField name => "duplicate field: " ++ name
  | .invalidDocument path reason =>
      "invalid json schema at '" ++ path ++ "': " ++ reason
  | .invalidDefault field reason =>
      "invalid default for field '" ++ field ++ "': " ++ reason

/-- The code of a schema error. -/
def code : SchemaError -> String
  | .conflict .. => "Conflict"
  | .unknownField _ => "UnknownField"
  | .duplicateField _ => "DuplicateField"
  | .invalidDocument .. => "InvalidJsonSchema"
  | .invalidDefault .. => "InvalidDefault"

instance : Diagnostic SchemaError := ⟨code, message, fun _ => []⟩

end SchemaError

end PromptTuning
