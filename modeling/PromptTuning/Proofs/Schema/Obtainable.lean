import PromptTuning.Proofs.Schema.Checked

/-!
# Schemas that can be obtained

Only the constructor checks the fields of a schema. Reading a document checks
them as it goes along, and composing, masking and keeping do not check anything.
In whatever order they are used, names stay distinct and defaults stay fitting,
in a schema and in every schema within it: the default that a composition takes
over from the right is accepted by the equal type on the left.
-/

namespace PromptTuning

mutual

/-- A schema that is made by the constructor, read from a document, or made of
such schemas by composing, masking, keeping or giving a title. No literal in it
repeats a key. -/
inductive Schema.Obtainable : Schema -> Prop
  | ofFields {fields : List Field} {schema : Schema}
      (types : ∀ field ∈ fields, FieldType.Obtainable field.type)
      (literals : ∀ field ∈ fields,
        ∀ value, field.default = some value -> value.Distinct)
      (made : Schema.ofFields fields = .ok schema) :
      Schema.Obtainable schema
  | ofDocument {document : Json} {schema : Schema}
      (distinct : document.Distinct)
      (read : document.toSchema = .ok schema) :
      Schema.Obtainable schema
  | compose {left right composed : Schema}
      (leftObtainable : Schema.Obtainable left)
      (rightObtainable : Schema.Obtainable right)
      (done : left.compose right = .ok composed) :
      Schema.Obtainable composed
  | mask {schema masked : Schema} {names : List String}
      (obtainable : Schema.Obtainable schema)
      (done : schema.mask names = .ok masked) :
      Schema.Obtainable masked
  | keep {schema kept : Schema} {names : List String}
      (obtainable : Schema.Obtainable schema)
      (done : schema.keep names = .ok kept) :
      Schema.Obtainable kept
  | withTitle {schema : Schema} (title : String)
      (obtainable : Schema.Obtainable schema) :
      Schema.Obtainable (schema.withTitle title)

/-- A type in which every object is described by a schema that can
be obtained. -/
inductive FieldType.Obtainable : FieldType -> Prop
  | string : FieldType.Obtainable .string
  | integer : FieldType.Obtainable .integer
  | number : FieldType.Obtainable .number
  | boolean : FieldType.Obtainable .boolean
  | any : FieldType.Obtainable .any
  | object {schema : Schema}
      (obtainable : Schema.Obtainable schema) :
      FieldType.Obtainable (.object schema)
  | list {item : FieldType}
      (obtainable : FieldType.Obtainable item) :
      FieldType.Obtainable (.list item)
  | map {value : FieldType}
      (obtainable : FieldType.Obtainable value) :
      FieldType.Obtainable (.map value)
  | optional {present : FieldType}
      (obtainable : FieldType.Obtainable present) :
      FieldType.Obtainable (.optional present)
  | oneOf {values : List Json}
      (distinct : Json.DistinctItems values) :
      FieldType.Obtainable (.oneOf values)

end

namespace Schema

/-- A title has no part in being well-formed. -/
theorem WellFormed.withTitle {schema : Schema} (formed : schema.WellFormed)
    (title : String) :
    (schema.withTitle title).WellFormed := by
  obtain ⟨distinct, fields⟩ := wellFormed_iff.mp formed
  exact wellFormed_iff.mpr ⟨distinct, fields⟩

end Schema

open Schema in
mutual

theorem Schema.Obtainable.wellFormed :
    ∀ {schema : Schema}, schema.Obtainable -> schema.WellFormed
  | _, .ofFields types literals made =>
      wellFormed_of_ofFields
        (fun field declared => (types field declared).wellFormed) literals made
  | _, .ofDocument distinct read => Json.wellFormed_of_toSchema distinct read
  | _, .compose left right done => left.wellFormed.compose right.wellFormed done
  | _, .mask obtainable done => by
      rw [fields_of_mask done]
      exact obtainable.wellFormed.withFields List.filter_sublist
  | _, .keep obtainable done => by
      rw [fields_of_keep done]
      exact obtainable.wellFormed.withFields List.filter_sublist
  | _, .withTitle title obtainable => obtainable.wellFormed.withTitle title

theorem FieldType.Obtainable.wellFormed :
    ∀ {type : FieldType}, type.Obtainable -> type.WellFormed
  | _, .object obtainable => obtainable.wellFormed
  | _, .list obtainable => obtainable.wellFormed
  | _, .map obtainable => obtainable.wellFormed
  | _, .optional obtainable => obtainable.wellFormed
  | _, .oneOf distinct => distinct
  | _, .string => trivial
  | _, .integer => trivial
  | _, .number => trivial
  | _, .boolean => trivial
  | _, .any => trivial

end

namespace FieldType

/-- The schema describes an object somewhere within a type, at any depth. -/
inductive Encloses : FieldType -> Schema -> Prop
  | here (schema : Schema) : Encloses (.object schema) schema
  | field {schema inner : Schema} {field : Field}
      (declared : field ∈ schema.fields)
      (within : Encloses field.type inner) :
      Encloses (.object schema) inner
  | list {item : FieldType} {inner : Schema}
      (within : Encloses item inner) :
      Encloses (.list item) inner
  | map {value : FieldType} {inner : Schema}
      (within : Encloses value inner) :
      Encloses (.map value) inner
  | optional {present : FieldType} {inner : Schema}
      (within : Encloses present inner) :
      Encloses (.optional present) inner

/-- A schema at any depth of a well-formed type is well-formed. -/
theorem Encloses.wellFormed
    {type : FieldType}
    {inner : Schema}
    (within : type.Encloses inner)
    (formed : type.WellFormed) :
    inner.WellFormed := by
  induction within with
  | here => exact formed
  | field declared _ inductionHypothesis =>
      exact inductionHypothesis
        ((Schema.wellFormed_iff.mp formed).2 _ declared).type
  | list _ inductionHypothesis | map _ inductionHypothesis
      | optional _ inductionHypothesis =>
      exact inductionHypothesis formed

end FieldType

namespace Schema

/-- What is well-formed passes the checks of the constructor. -/
theorem WellFormed.ofFields_eq_ok {schema : Schema}
    (formed : schema.WellFormed) :
    ofFields schema.fields = .ok ⟨none, schema.fields⟩ := by
  obtain ⟨distinct, fields⟩ := wellFormed_iff.mp formed
  refine ofFields_eq_ok_iff.mpr
    ⟨rfl, distinct, fun field declared value given => ?_⟩
  exact ((fields field declared).default value given).2

/-- In every schema that can be obtained, and in every schema within it at any
depth, names are distinct, each default validates against the type of its field,
and the constructor accepts the fields again as they are. -/
theorem checked_at_every_depth
    {schema inner : Schema}
    (obtainable : schema.Obtainable)
    (within : (FieldType.object schema).Encloses inner) :
    inner.Distinct ∧
      (∀ field ∈ inner.fields, ∀ value, field.default = some value ->
        field.type.violations [.member field.name] value = []) ∧
      ofFields inner.fields = .ok ⟨none, inner.fields⟩ := by
  have formed := within.wellFormed obtainable.wellFormed
  refine ⟨formed.distinct, fun field declared value given => ?_,
    formed.ofFields_eq_ok⟩
  exact (FieldType.violations_eq_nil_iff _ _ _).mpr
    (((wellFormed_iff.mp formed).2 field declared).default value given).2

/-- The document of a required choice. -/
def roleDocument : Json :=
  .object [("properties", .object [("role", .object
    [("enum", .array [.string "user", .string "tool"])])]),
    ("required", .array [.string "role"])]

/-- The same choice in another order and with a default, and a note. -/
def defaultedRoleExample : Schema where
  title := none
  fields :=
    [(Field.voluntary "role"
      (.oneOf [.string "tool", .string "user"])).withDefault
        (.string "tool"),
      .voluntary "note" .any]

/-- The required choice with the default that is taken over. -/
def speakerExample : Schema where
  title := none
  fields :=
    [(Field.mandatory "role"
      (.oneOf [.string "user", .string "tool"])).withDefault
      (.string "tool")]

/-- A list of objects with such a choice; its default leaves the choice out. -/
def turnsExample : Schema where
  title := none
  fields :=
    [(Field.voluntary "turns" (.list (.object speakerExample))).withDefault
      (.array [.object []])]

theorem obtainable_defaultedRoleExample : defaultedRoleExample.Obtainable := by
  refine .ofFields (fun field declared => ?_)
    (fun field declared value given => ?_)
    (rfl : ofFields defaultedRoleExample.fields = .ok defaultedRoleExample)
  · obtain rfl | rfl : field = _ ∨ field = _ := by
      simpa [defaultedRoleExample] using declared
    · exact .oneOf ⟨trivial, trivial, trivial⟩
    · exact .any
  · obtain rfl | rfl : field = _ ∨ field = _ := by
      simpa [defaultedRoleExample] using declared
    · obtain rfl := Option.some.inj given
      trivial
    · contradiction

/-- A choice is read from a document and composed with the one that
has a default for it; what is kept of the composition describes the
objects of a list. -/
theorem checked_at_every_depth_of_turnsExample :
    ∃ read composed : Schema,
      roleDocument.toSchema = .ok read ∧
        read.compose defaultedRoleExample = .ok composed ∧
        composed.keep ["role"] = .ok speakerExample ∧
        ofFields turnsExample.fields = .ok turnsExample ∧
        turnsExample.Obtainable ∧
        (FieldType.object turnsExample).Encloses speakerExample ∧
        speakerExample.Distinct ∧
        (∀ field ∈ speakerExample.fields, ∀ value, field.default = some value ->
          field.type.violations [.member field.name] value = []) ∧
        ofFields speakerExample.fields = .ok ⟨none, speakerExample.fields⟩ := by
  have reads : roleDocument.toSchema =
      .ok ⟨none,
        [.mandatory "role" (.oneOf [.string "user", .string "tool"])]⟩ := rfl
  have distinct : roleDocument.Distinct := by
    simp [roleDocument, Json.Distinct, Json.DistinctItems, Json.DistinctMembers,
      Members.Distinct, Members.keys]
  have composes :
      compose ⟨none,
        [.mandatory "role" (.oneOf [.string "user", .string "tool"])]⟩
          defaultedRoleExample =
        .ok ⟨none, speakerExample.fields ++ [.voluntary "note" .any]⟩ := rfl
  have keeps :
      keep ⟨none, speakerExample.fields ++ [.voluntary "note" .any]⟩ ["role"] =
        .ok speakerExample := rfl
  have makes : ofFields turnsExample.fields = .ok turnsExample := rfl
  have speaker : speakerExample.Obtainable :=
    .keep (.compose (.ofDocument distinct reads)
      obtainable_defaultedRoleExample composes) keeps
  have turns : turnsExample.Obtainable := by
    refine .ofFields (fun field declared => ?_)
      (fun field declared value given => ?_) makes
    · obtain rfl := List.mem_singleton.mp declared
      exact .list (.object speaker)
    · obtain rfl := List.mem_singleton.mp declared
      obtain rfl := Option.some.inj given
      exact ⟨⟨List.nodup_nil, trivial⟩, trivial⟩
  have within : (FieldType.object turnsExample).Encloses speakerExample :=
    .field List.mem_cons_self (.list (.here speakerExample))
  obtain ⟨names, fits, again⟩ := checked_at_every_depth turns within
  exact ⟨_, _, reads, composes, keeps, makes, turns, within, names, fits, again⟩

end Schema
end PromptTuning
