import PromptTuning.Schema.Composition

/-!
# Schemas as JSON documents

A schema is written in a dialect of JSON schema: an object lists its properties
and forbids others, a map gives the type of its values, an optional is a choice
between a type and null. Reading accepts what writing produces and the common
variations of other generators: a type given as a list of names, a missing list
of required names, properties without a type.
-/

namespace PromptTuning

namespace FieldType

/-- A document with only a type name. -/
def namedDocument (name : String) : Json :=
  .object [("type", .string name)]

/-- The members a field adds to the document of its type. -/
def annotate (description : Option String) (default : Option Json) :
    Json -> Json
  | .object members =>
      let described :=
        match description with
        | some text => Members.put "description" (.string text) members
        | none => members
      match default with
      | some value => .object (Members.put "default" value described)
      | none => .object described
  | other => other

/-- The document of an object type, from its title, properties and
required names. -/
def objectDocument (title : Option String) (properties : Members)
    (required : List String) : Json :=
  .object <|
    (title.elim ([] : Members) fun text => [("title", .string text)]) ++
      [("type", .string "object"),
        ("properties", .object properties),
        ("required", .ofStrings required),
        ("additionalProperties", .boolean false)]

/-- The names of the required fields. -/
def requiredNames (fields : List Field) : List String :=
  (fields.filter (·.required)).map (·.name)

mutual

/-- The document of a type. -/
def toDocument : FieldType -> Json
  | .string => namedDocument "string"
  | .integer => namedDocument "integer"
  | .number => namedDocument "number"
  | .boolean => namedDocument "boolean"
  | .any => .object []
  | .object ⟨title, fields⟩ =>
      objectDocument title (fieldDocuments fields) (requiredNames fields)
  | .list item =>
      .object [("type", .string "array"), ("items", item.toDocument)]
  | .map value =>
      .object
        [("type", .string "object"), ("additionalProperties", value.toDocument)]
  | .optional present =>
      .object [("anyOf", .array [present.toDocument, namedDocument "null"])]
  | .oneOf values => .object [("enum", .array values)]

/-- The documents of fields, under their names. -/
def fieldDocuments : List Field -> Members
  | [] => []
  | ⟨name, type, _, default, description⟩ :: rest =>
      (name, annotate description default type.toDocument) ::
      fieldDocuments rest

end

end FieldType

namespace Schema

/-- The document of a schema. -/
def toDocument (schema : Schema) : Json :=
  (FieldType.object schema).toDocument

end Schema

namespace Json

/-- Whether a document is the type of null alone. -/
def isNullDocument (document : Json) : Bool :=
  match document.get? "type" with
  | some (.string name) => name == "null"
  | _ => false

/-- The strings among the items of an array. -/
def strings (items : List Json) : List String :=
  items.filterMap asString?

/-- What the type names of a document ask for. -/
inductive NamedType
  | plain (name : String)
  | orNull (name : String)
  | union

/-- The type that a list of names asks for. -/
def NamedType.ofNames (names : List String) : NamedType :=
  match names.filter (· != "null") with
  | [name] => if names.length = 2 then .orNull name else .plain name
  | _ => .union

/-- Refuse a document at a path. -/
def refuse {α : Type} (path reason : String) : Except SchemaError α :=
  .error (.invalidDocument path reason)

/-- The field that a property declares, once its type is known. -/
def declaredField (name : String) (type : FieldType) (required : Bool)
    (document : Json) : Field :=
  ⟨name, type, required, document.get? "default",
    (document.get? "description").bind asString?⟩

/-- The names listed under `required`. -/
def requiredList (members : Members) : List String :=
  match members.lookup "required" with
  | some (.array items) => strings items
  | _ => []

/-- Whether an object's values have a type of their own. -/
def hasValueDocument (members : Members) : Bool :=
  match members.lookup "additionalProperties" with
  | some (.object (_ :: _)) => true
  | _ => false

/-- Check the fields of an object document and give the schema its title. -/
def assemble (members : Members) (fields : List Field) :
    Except SchemaError Schema :=
  (Schema.ofFields fields).map fun schema =>
    { schema with title := (members.lookup "title").bind asString? }

/-- What the nested documents of an object document describe, each where it
is present. -/
structure NestedTypes where
  /-- The type under `items`. -/
  item : Option (Except SchemaError FieldType)
  /-- The type under `additionalProperties`. -/
  value : Option (Except SchemaError FieldType)
  /-- The type of the first variant that is not null. -/
  variant : Except SchemaError FieldType
  /-- The fields under `properties`. -/
  properties : Except SchemaError (List Field)

/-- The type a document describes under a type name. -/
def namedFieldType
    (path : String)
    (members : Members)
    (nested : NestedTypes) :
    String -> Except SchemaError FieldType
  | "string" => .ok .string
  | "integer" => .ok .integer
  | "number" => .ok .number
  | "boolean" => .ok .boolean
  | "array" => (nested.item.getD (.ok .any)).map .list
  | "object" =>
      if members.has "properties" then
        (nested.properties.bind (assemble members)).map .object
      else if hasValueDocument members then
        (nested.value.getD (.ok .any)).map .map
      else .ok (.map .any)
  | other => refuse path ("unsupported type '" ++ other ++ "'")

/-- The type that the variants of a document describe. -/
def variantFieldType
    (path : String)
    (variants : List Json)
    (nested : NestedTypes) :
    Except SchemaError FieldType :=
  match (variants.filter fun variant => !variant.isNullDocument).length,
      variants.any isNullDocument with
  | 1, true => nested.variant.map .optional
  | 1, false => nested.variant
  | _, _ => refuse path "only anyOf[T, null] is supported"

/-- The type an object document describes, given its nested types. -/
def describedType
    (path : String)
    (members : Members)
    (nested : NestedTypes) :
    Except SchemaError FieldType :=
  match members.lookup "enum", members.lookup "anyOf",
  members.lookup "type" with
  | some (.array values), _, _ => .ok (.oneOf values)
  | some _, _, _ => refuse path "enum must be an array"
  | none, some (.array variants), _ => variantFieldType path variants nested
  | none, _, none => .ok .any
  | none, _, some (.string name) => namedFieldType path members nested name
  | none, _, some (.array names) =>
      match NamedType.ofNames (strings names) with
      | .plain name => namedFieldType path members nested name
      | .orNull name => (namedFieldType path members nested name).map .optional
      | .union => refuse path "union types are not supported"
  | none, _, some _ => refuse path "type must be a string or an array"

mutual

/-- The type a document describes. -/
def toFieldType (path : String) : Json -> Except SchemaError FieldType
  | .object members =>
      describedType path members
        { item := typeUnder "items" (path ++ "[]") members
          value := typeUnder "additionalProperties" path members
          variant := firstVariant path members
          properties := propertiesUnder path (requiredList members) members }
  | _ => refuse path "expected a type object"

/-- The type described under a key. -/
def typeUnder (key path : String) :
    Members -> Option (Except SchemaError FieldType)
  | [] => none
  | (name, document) :: rest =>
      if name = key then some (toFieldType path document)
      else typeUnder key path rest

/-- The type of the first variant under `anyOf` that is not null. -/
def firstVariant (path : String) : Members -> Except SchemaError FieldType
  | [] => refuse path "only anyOf[T, null] is supported"
  | (name, document) :: rest =>
      if name = "anyOf" then variantOf path document else firstVariant path rest

/-- The type of the first item of an array that is not null. -/
def variantOf (path : String) : Json -> Except SchemaError FieldType
  | .array variants => firstOf path variants
  | _ => refuse path "only anyOf[T, null] is supported"

/-- The type of the first document that is not null. -/
def firstOf (path : String) : List Json -> Except SchemaError FieldType
  | [] => refuse path "only anyOf[T, null] is supported"
  | variant :: rest =>
      if variant.isNullDocument then firstOf path rest
      else toFieldType path variant

/-- The fields declared under `properties`. -/
def propertiesUnder (path : String) (required : List String) :
    Members -> Except SchemaError (List Field)
  | [] => .ok []
  | (name, document) :: rest =>
      if name = "properties" then propertiesOf path required document
      else propertiesUnder path required rest

/-- The fields that a document of properties declares. -/
def propertiesOf (path : String) (required : List String) :
    Json -> Except SchemaError (List Field)
  | .object properties => declaredFields path required properties
  | _ => refuse path "properties must be an object"

/-- The fields that properties declare, in order. -/
def declaredFields (path : String) (required : List String) :
    Members -> Except SchemaError (List Field)
  | [] => .ok []
  | (name, document) :: rest =>
      match toFieldType (path ++ "." ++ name) document with
      | .error reason => .error reason
      | .ok type =>
          match declaredFields path required rest with
          | .error reason => .error reason
          | .ok fields =>
              .ok (declaredField name type (required.contains name) document ::
                fields)

end

/-- The schema a document describes. -/
def toSchema : Json -> Except SchemaError Schema
  | .object members =>
      (propertiesUnder "$" (requiredList members) members).bind
        (assemble members)
  | _ => refuse "$" "expected a schema object"

end Json

end PromptTuning
