import PromptTuning.Proofs.Schema.Document

/-!
# Checked schemas

A schema is checked when the constructor accepts its fields, and those of every
object type within it. That is the same as being well-formed. The document of a
checked schema is read back as exactly that schema, and reading a document
yields only such schemas.
-/

namespace PromptTuning

namespace FieldType

mutual

/-- The checked constructor accepts the fields of every object type within a
type, and no literal repeats a key. -/
def Checked : FieldType -> Prop
  | .object ⟨_, fields⟩ =>
      Schema.ofFields fields = .ok ⟨none, fields⟩ ∧ AllChecked fields
  | .list item => item.Checked
  | .map value => value.Checked
  | .optional present => present.Checked
  | .oneOf values => Json.DistinctItems values
  | _ => True

/-- Every field has a checked type, and no default repeats a key. -/
def AllChecked : List Field -> Prop
  | [] => True
  | ⟨_, type, _, default, _⟩ :: rest =>
      type.Checked ∧ (∀ value, default = some value -> value.Distinct) ∧
      AllChecked rest

end

/-- Fields are checked as a whole just if each of them is. -/
theorem allChecked_iff {fields : List Field} :
    AllChecked fields ↔ ∀ field ∈ fields, field.type.Checked ∧
      ∀ value, field.default = some value -> value.Distinct := by
  induction fields with
  | nil => simp [AllChecked]
  | cons field rest inductionHypothesis =>
      obtain ⟨name, type, required, default, description⟩ := field
      rw [AllChecked, inductionHypothesis, List.forall_mem_cons, and_assoc]

theorem wellFormed_iff_checked (type : FieldType) :
    type.WellFormed ↔ type.Checked := by
  induction type with
  | list item inner => exact inner
  | map value inner => exact inner
  | optional present inner => exact inner
  | object title fields types =>
      rw [WellFormed, Checked, Schema.ofFields_eq_ok_iff, allWellFormed_iff,
        allChecked_iff]
      constructor
      · rintro ⟨distinct, formed⟩
        refine ⟨⟨rfl, distinct, ?_⟩, fun field stored => ⟨?_, ?_⟩⟩
        · exact fun field stored value given =>
            ((formed field stored).default value given).2
        · exact (types field stored).mp (formed field stored).type
        · exact fun value given => ((formed field stored).default value given).1
      · rintro ⟨⟨_, distinct, fits⟩, checked⟩
        refine ⟨distinct, fun field stored => ⟨?_, fun value given => ⟨?_, ?_⟩⟩⟩
        · exact (types field stored).mpr (checked field stored).1
        · exact (checked field stored).2 value given
        · exact fits field stored value given
  | _ => exact Iff.rfl

end FieldType

namespace Schema

/-- A schema is checked as the type of its objects; its title is free. -/
def Checked (schema : Schema) : Prop :=
  (FieldType.object schema).Checked

theorem wellFormed_iff_checked {schema : Schema} :
    schema.WellFormed ↔ schema.Checked :=
  FieldType.wellFormed_iff_checked (.object schema)

/-- Writing a checked schema and reading the document gives exactly that
schema, with the order, types, flags, defaults and descriptions of its fields
and its titles at every depth. So does writing any schema that was itself read
from a document. -/
theorem read_of_written (schema : Schema) :
    (schema.Checked -> schema.toDocument.toSchema = .ok schema) ∧
      ∀ document : Json, document.Distinct -> document.toSchema = .ok schema ->
        schema.toDocument.toSchema = .ok schema := by
  constructor
  · intro checked
    exact toSchema_toDocument (wellFormed_iff_checked.mpr checked)
  · intro document distinct read
    exact toSchema_toDocument (Json.wellFormed_of_toSchema distinct read)

/-- A titled schema in a titled schema, beside a list of optional choices and a
map of anything. -/
def nestedExample : Schema where
  title := some "Report"
  fields :=
    [(Field.mandatory "entity" (.object ⟨some "Entity",
        [Field.mandatory "label" .string,
          (Field.voluntary "score" (.optional .number)).withDefault
            .null]⟩)).withDescription
            "What the report is about",
      (Field.voluntary "roles"
        (.list (.optional (.oneOf [.string "user", .ofNat 2])))).withDefault
        (.array [.null, .string "user"]),
      Field.voluntary "notes" (.map .any)]

/-- A document that leaves most keys out, and the schema that it is read as. -/
theorem read_of_written_nestedExample :
    (nestedExample.Checked ∧
      nestedExample.toDocument.toSchema = .ok nestedExample) ∧
      ∃ (document : Json) (schema : Schema), document.Distinct ∧
        document.toSchema = .ok schema ∧
        schema.toDocument.toSchema = .ok schema := by
  have checked : nestedExample.Checked := by
    refine ⟨rfl, ⟨rfl, trivial, nofun, trivial, ?_, trivial⟩, nofun,
      ⟨trivial, trivial, trivial⟩,
      ?_, trivial, nofun, trivial⟩
    · rintro _ ⟨⟩
      trivial
    · rintro _ ⟨⟩
      exact ⟨trivial, trivial, trivial⟩
  refine ⟨⟨checked, (read_of_written nestedExample).1 checked⟩, ?_⟩
  have distinct :
      (Json.object
        [("properties", .object [("notes", .object [])])]).Distinct :=
    ⟨by simp [Members.Distinct, Members.keys],
      ⟨by simp [Members.Distinct, Members.keys],
        ⟨List.nodup_nil, trivial⟩, trivial⟩, trivial⟩
  have read :
      (Json.object [("properties", .object [("notes", .object [])])]).toSchema =
        .ok ⟨none, [.voluntary "notes" .any]⟩ := rfl
  exact ⟨_, _, distinct, read, (read_of_written _).2 _ distinct read⟩

end Schema
end PromptTuning
