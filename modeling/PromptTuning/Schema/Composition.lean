import PromptTuning.Schema.Validation

/-!
# Building schemas

The checked way to make a schema from a list of fields refuses a repeated name
and a default that does not fit its type. Composition keeps the order of the
left schema and appends the fields only the right one has; a shared field must
have the same type on both sides. Masking and keeping select fields by name.
-/

namespace PromptTuning

namespace Field

/-- The violations of a field's type by its own default. -/
def defaultViolations (field : Field) : List Violation :=
  match field.default with
  | some value => field.type.violations [.member field.name] value
  | none => []

/-- A field of both sides: the left type, required if either side
requires it. -/
def merge (left right : Field) : Field :=
  { left with
    required := left.required || right.required
    default := left.default.orElse fun _ => right.default
    description := left.description.orElse fun _ => right.description }

end Field

namespace Schema

/-- Add fields one by one to those already accepted. -/
def appendFields (accepted : List Field) :
    List Field -> Except SchemaError (List Field)
  | [] => .ok accepted
  | field :: rest =>
      if accepted.any (·.name == field.name) then
        .error (.duplicateField field.name)
      else
        match field.defaultViolations with
        | [] => appendFields (accepted ++ [field]) rest
        | violations =>
            .error (.invalidDefault field.name (Violation.summary violations))

/-- The schema of a list of fields with distinct names and fitting defaults. -/
def ofFields (fields : List Field) : Except SchemaError Schema :=
  (appendFields [] fields).map fun accepted => ⟨none, accepted⟩

/-- Merge a field into the field of the same name, or append it. -/
def mergeField (right : Field) : List Field -> Except SchemaError (List Field)
  | [] => .ok [right]
  | left :: rest =>
      if left.name = right.name then
        if left.type.same right.type then .ok (left.merge right :: rest)
        else .error
          (.conflict right.name left.type.describe right.type.describe)
      else (mergeField right rest).map (left :: ·)

/-- Merge fields one by one. -/
def mergeFields (fields : List Field) :
    List Field -> Except SchemaError (List Field)
  | [] => .ok fields
  | right :: rest =>
      match mergeField right fields with
      | .ok merged => mergeFields merged rest
      | .error reason => .error reason

/-- The schema with the fields of both, in the order of the left one. -/
def compose (left right : Schema) : Except SchemaError Schema :=
  (mergeFields left.fields right.fields).map fun fields =>
    ⟨left.title.orElse fun _ => right.title, fields⟩

/-- The first of the names that is not declared. -/
def undeclared? (schema : Schema) (names : List String) : Option String :=
  names.find? fun name => !schema.declares name

/-- The schema without the named fields. -/
def mask (schema : Schema) (names : List String) : Except SchemaError Schema :=
  match schema.undeclared? names with
  | some name => .error (.unknownField name)
  | none =>
      .ok { schema with
        fields :=
          schema.fields.filter fun field => !names.contains field.name }

/-- The schema with only the named fields. -/
def keep (schema : Schema) (names : List String) : Except SchemaError Schema :=
  match schema.undeclared? names with
  | some name => .error (.unknownField name)
  | none =>
      .ok { schema with
        fields := schema.fields.filter fun field => names.contains field.name }

end Schema

end PromptTuning
