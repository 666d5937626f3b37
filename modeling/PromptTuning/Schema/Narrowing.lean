import PromptTuning.Schema.Basic

/-!
# Sameness and narrowing of types

Two types are the same when they agree up to the order of fields and choices,
titles and descriptions. A type is narrower than another when it is meant to
admit no more values; a schema contains another when it has each of its fields,
at a narrower type and required where the other requires it. Choices compare
numbers by their value, so that a whole number equals a double.
-/

namespace PromptTuning

/-- Equality of literals, numbers by value. -/
def sameLiteral : Json -> Json -> Bool
  | .number left, .number right => left.numericallyEqual right
  | left, right => left.same right

namespace FieldType

/-- Whether a literal is an instance of a primitive type. -/
def acceptsLiteral : FieldType -> Json -> Bool
  | .string, .string _ => true
  | .integer, .number (.integer _ _) => true
  | .number, .number _ => true
  | .boolean, .boolean _ => true
  | .any, _ => true
  | _, _ => false

/-- How many of the values equal a literal. -/
def countLiteral (values : List Json) (literal : Json) : Nat :=
  values.countP (sameLiteral literal)

/-- Whether two lists of choices hold the same literals equally often. -/
def sameChoices (left right : List Json) : Bool :=
  left.length == right.length &&
    left.all fun literal =>
      countLiteral left literal == countLiteral right literal

/-- Whether two defaults are both absent or the same. -/
def sameDefault : Option Json -> Option Json -> Bool
  | none, none => true
  | some left, some right => left.same right
  | _, _ => false

mutual

/-- Whether two types agree up to order, titles and descriptions. -/
def same : FieldType -> FieldType -> Bool
  | .string, .string => true
  | .integer, .integer => true
  | .number, .number => true
  | .boolean, .boolean => true
  | .any, .any => true
  | .object ⟨_, left⟩, .object ⟨_, right⟩ =>
      left.length == right.length && fieldsWithin left right
  | .list left, .list right => left.same right
  | .map left, .map right => left.same right
  | .optional left, .optional right => left.same right
  | .oneOf left, .oneOf right => sameChoices left right
  | _, _ => false

/-- Whether every field has a counterpart of the same name, type, flag
and default. -/
def fieldsWithin : List Field -> List Field -> Bool
  | [], _ => true
  | ⟨name, type, required, default, _⟩ :: rest, fields =>
      (match fields.find? (·.name == name) with
        | some found =>
            type.same found.type && required == found.required &&
              sameDefault default found.default
        | none => false) && fieldsWithin rest fields

end

mutual

/-- Whether the first type is equal to or narrower than the second. -/
def isNarrowerThan (narrow : FieldType) : FieldType -> Bool
  | .any => true
  | .optional wide =>
      match narrow with
      | .optional present => present.isNarrowerThan wide
      | _ => narrow.isNarrowerThan wide
  | .string =>
      match narrow with
      | .string => true
      | .oneOf values => values.all FieldType.string.acceptsLiteral
      | _ => false
  | .integer =>
      match narrow with
      | .integer => true
      | .oneOf values => values.all FieldType.integer.acceptsLiteral
      | _ => false
  | .number =>
      match narrow with
      | .integer | .number => true
      | .oneOf values => values.all FieldType.number.acceptsLiteral
      | _ => false
  | .boolean =>
      match narrow with
      | .boolean => true
      | .oneOf values => values.all FieldType.boolean.acceptsLiteral
      | _ => false
  | .oneOf choices =>
      match narrow with
      | .oneOf values =>
          values.all fun literal => choices.any (sameLiteral literal)
      | _ => false
  | .list wide =>
      match narrow with
      | .list item => item.isNarrowerThan wide
      | _ => false
  | .map wide =>
      match narrow with
      | .map value => value.isNarrowerThan wide
      | _ => false
  | .object ⟨_, wanted⟩ =>
      match narrow with
      | .object schema => containsFields schema wanted
      | _ => false

/-- Whether a schema has each wanted field, at a narrower type and required
where wanted. -/
def containsFields (schema : Schema) : List Field -> Bool
  | [] => true
  | ⟨name, type, required, _, _⟩ :: rest =>
      (match schema.field? name with
        | some found =>
            (!required || found.required) && found.type.isNarrowerThan type
        | none => false) && containsFields schema rest

end

end FieldType

namespace Schema

/-- Whether two schemas agree up to order, titles and descriptions. -/
def same (left right : Schema) : Bool :=
  left.fields.length == right.fields.length &&
  FieldType.fieldsWithin left.fields right.fields

/-- Whether a schema has every field of another, at a narrower type. -/
def contains (schema needle : Schema) : Bool :=
  FieldType.containsFields schema needle.fields

end Schema

end PromptTuning
