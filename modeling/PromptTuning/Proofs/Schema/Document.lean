import PromptTuning.Proofs.Schema.Composition
import PromptTuning.Schema.Document

/-!
# Reading written schemas

The document of a well-formed schema is read back as that schema, titles, flags,
defaults and descriptions included. Conversely whatever is read from a document
without repeated keys is well-formed.
-/

namespace PromptTuning

namespace FieldType

theorem annotate_none (type : FieldType) :
    annotate none none type.toDocument = type.toDocument := by
  cases type with
  | object schema =>
      obtain ⟨title, fields⟩ := schema
      cases title <;> rfl
  | _ => rfl

/-- No type is written as the document that stands for null. -/
theorem isNullDocument_toDocument (type : FieldType) :
    type.toDocument.isNullDocument = false := by
  cases type with
  | object schema =>
      obtain ⟨title, fields⟩ := schema
      cases title <;> rfl
  | _ => rfl

/-- The names of the required fields tell which fields are required. -/
theorem contains_requiredNames
    {fields : List Field}
    (distinct : (fields.map (·.name)).Nodup) :
    ∀ field ∈ fields,
      (requiredNames fields).contains field.name = field.required := by
  induction fields with
  | nil => simp
  | cons first rest inductionHypothesis =>
      rw [List.map_cons, List.nodup_cons] at distinct
      have others := inductionHypothesis distinct.2
      have fresh : (requiredNames rest).contains first.name = false := by
        rw [List.contains_eq_mem, decide_eq_false_iff_not]
        intro present
        obtain ⟨field, stored, same⟩ := List.mem_map.mp present
        exact distinct.1
          (List.mem_map.mpr ⟨field, List.mem_of_mem_filter stored, same⟩)
      rw [List.forall_mem_cons]
      unfold requiredNames at others fresh ⊢
      cases needed : first.required with
      | false =>
          rw [List.filter_cons_of_neg (by simp [needed])]
          exact ⟨fresh, others⟩
      | true =>
          rw [List.filter_cons_of_pos (by simp [needed]), List.map_cons]
          refine ⟨by simp, ?_⟩
          intro field stored
          have different : field.name ≠ first.name := fun same =>
            distinct.1 (same ▸ List.mem_map.mpr ⟨field, stored, rfl⟩)
          rw [List.contains_cons, others field stored,
            beq_false_of_ne different, Bool.false_or]

/-- Texts written as an array are read back. -/
theorem strings_ofStrings (names : List String) :
    Json.strings (names.map .string) = names := by
  induction names with
  | nil => rfl
  | cons name rest inductionHypothesis =>
      unfold Json.strings at inductionHypothesis ⊢
      simp [Json.asString?, inductionHypothesis]

/-- The members of the document of an object type, annotated as those
of a field. -/
def objectMembers
    (title : Option String)
    (fields : List Field)
    (description : Option String)
    (default : Option Json) : Members :=
  (title.elim ([] : Members) fun text => [("title", .string text)]) ++
    [("type", .string "object"),
      ("properties", .object (fieldDocuments fields)),
      ("required", .ofStrings (requiredNames fields)),
      ("additionalProperties", .boolean false)] ++
    (description.elim ([] : Members) fun text =>
      [("description", .string text)]) ++
    (default.elim ([] : Members) fun value => [("default", value)])

/-- The document of an object type is that of its members with what is noted
beside them. -/
theorem annotate_object
    (title : Option String)
    (fields : List Field)
    (description : Option String)
    (default : Option Json) :
    annotate description default (object ⟨title, fields⟩).toDocument =
      .object (objectMembers title fields description default) := by
  cases title <;> cases description <;> cases default <;> rfl

/-- A field is read back from its document with what is noted
beside its type. -/
theorem declaredField_eq
    (name : String)
    (type declared : FieldType)
    (required : Bool)
    (description : Option String)
    (default : Option Json) :
    Json.declaredField name type required
      (annotate description default declared.toDocument) =
      ⟨name, type, required, default, description⟩ := by
  cases declared with
  | object schema =>
      obtain ⟨title, fields⟩ := schema
      rw [annotate_object]
      cases title <;> cases description <;> cases default <;> rfl
  | _ => cases description <;> cases default <;> rfl

/-- The required names of an object are found in its members. -/
theorem requiredList_objectMembers
    (title : Option String)
    (fields : List Field)
    (description : Option String)
    (default : Option Json) :
    Json.requiredList (objectMembers title fields description default) =
      requiredNames fields := by
  rw [← strings_ofStrings (requiredNames fields)]
  cases title <;> rfl

/-- The properties of an object are found in its members. -/
theorem propertiesUnder_objectMembers
    (path : String)
    (names : List String)
    (title : Option String)
    (fields : List Field)
    (description : Option String)
    (default : Option Json) :
    Json.propertiesUnder path names
      (objectMembers title fields description default) =
      Json.declaredFields path names (fieldDocuments fields) := by
  cases title <;> rfl

/-- The title of an object is found in its members. -/
theorem title_objectMembers
    (title : Option String)
    (fields : List Field)
    (description : Option String)
    (default : Option Json) :
    ((objectMembers title fields description default).lookup "title").bind
      Json.asString? =
      title := by
  cases title with
  | none => cases description <;> cases default <;> rfl
  | some text => rfl

/-- Well-formed fields are assembled into their schema. -/
theorem assemble_objectMembers
    (title : Option String)
    {fields : List Field}
    (description : Option String)
    (default : Option Json)
    (formed : (object ⟨title, fields⟩).WellFormed) :
    Json.assemble (objectMembers title fields description default) fields =
      .ok ⟨title, fields⟩ := by
  rw [WellFormed, allWellFormed_iff] at formed
  have made := Schema.ofFields_eq_ok_iff.mpr
    ⟨rfl, formed.1, fun field stored value given =>
      ((formed.2 field stored).default value given).2⟩
  rw [Json.assemble, made]
  simp only [Except.map, title_objectMembers]

/-- The variants of an optional type are its own document and that of null. -/
theorem firstOf_optional (path : String) (present : FieldType) :
    Json.firstOf path [present.toDocument, namedDocument "null"] =
      Json.toFieldType path present.toDocument := by
  rw [Json.firstOf, isNullDocument_toDocument]
  rfl

/-- Two variants, of which the second is null, are read as an optional type. -/
theorem variantFieldType_optional (path : String) (present : FieldType)
    (nested : Json.NestedTypes) :
    Json.variantFieldType path [present.toDocument, namedDocument "null"]
      nested =
      nested.variant.map .optional := by
  have written := isNullDocument_toDocument present
  have other : (namedDocument "null").isNullDocument = true := rfl
  simp [Json.variantFieldType, written, other]

/-- The type of the values of a map is found again, also the one written
without members. -/
theorem namedFieldType_map
    (path : String)
    (value : FieldType)
    (description : Option String)
    (default : Option Json)
    (nested : Json.NestedTypes)
    (read : nested.value = some (.ok value)) :
    let members : Members :=
      [("type", .string "object"), ("additionalProperties", value.toDocument)]
        ++
        (description.elim ([] : Members) fun text =>
          [("description", .string text)]) ++
        (default.elim ([] : Members) fun value => [("default", value)])
    Json.namedFieldType path members nested "object" = .ok (.map value) := by
  intro members
  have properties : members.has "properties" = false := by
    cases description <;> cases default <;> rfl
  have values : members.lookup "additionalProperties" = some value.toDocument :=
    rfl
  unfold Json.namedFieldType
  simp only [properties, Json.hasValueDocument, values, read]
  cases value with
  | object schema =>
      obtain ⟨title, fields⟩ := schema
      cases title <;> rfl
  | _ => rfl

mutual

/-- The document of a type is read back as the type, whatever a field
adds to it. -/
theorem toFieldType_annotate :
    ∀ (type : FieldType) (path : String) (description :
      Option String) (default : Option Json),
      type.WellFormed ->
        Json.toFieldType path (annotate description default type.toDocument) =
          .ok type
  | .string, path, description, default, _ => by
      cases description <;> cases default <;> rfl
  | .integer, path, description, default, _ => by
      cases description <;> cases default <;> rfl
  | .number, path, description, default, _ => by
      cases description <;> cases default <;> rfl
  | .boolean, path, description, default, _ => by
      cases description <;> cases default <;> rfl
  | .any, path, description, default, _ => by
      cases description <;> cases default <;> rfl
  | .oneOf values, path, description, default, _ => by
      cases description <;> cases default <;> rfl
  | .list item, path, description, default, formed => by
      have read := toFieldType_annotate item (path ++ "[]") none none formed
      rw [annotate_none] at read
      have found :
          Json.toFieldType path
            (annotate description default (list item).toDocument) =
            (Json.toFieldType (path ++ "[]") item.toDocument).map .list := by
        cases description <;> cases default <;> rfl
      rw [found, read]
      rfl
  | .map value, path, description, default, formed => by
      have read := toFieldType_annotate value path none none formed
      rw [annotate_none] at read
      have written : annotate description default (map value).toDocument =
          .object
            ([("type", .string "object"),
              ("additionalProperties", value.toDocument)] ++
              (description.elim ([] : Members) fun text =>
                [("description", .string text)]) ++
              (default.elim ([] : Members) fun value =>
                [("default", value)])) := by
        cases description <;> cases default <;> rfl
      have under := namedFieldType_map path value description default
        ⟨none, some (Json.toFieldType path value.toDocument),
          Json.refuse path "only anyOf[T, null] is supported", .ok []⟩
        (congrArg some read)
      rw [written, ← under, Json.toFieldType]
      cases description <;> cases default <;> rfl
  | .optional present, path, description, default, formed => by
      have read := toFieldType_annotate present path none none formed
      rw [annotate_none, ← firstOf_optional] at read
      have found : Json.toFieldType path
          (annotate description default (optional present).toDocument) =
            Json.variantFieldType path
              [present.toDocument, namedDocument "null"]
              { item := none
                value := none
                variant :=
                  Json.firstOf path [present.toDocument, namedDocument "null"]
                properties := .ok [] } := by
        rw [variantFieldType_optional]
        cases description <;> cases default <;>
          exact variantFieldType_optional path present _
      rw [found, variantFieldType_optional, read]
      rfl
  | .object ⟨title, fields⟩, path, description, default, formed => by
      have made := assemble_objectMembers title description default formed
      rw [WellFormed] at formed
      have read := declaredFields_fieldDocuments fields path
        (requiredNames fields) formed.2
        (contains_requiredNames formed.1)
      have found : Json.toFieldType path
          (annotate description default (object ⟨title, fields⟩).toDocument) =
          ((Json.propertiesUnder path
            (Json.requiredList (objectMembers title fields description default))
            (objectMembers title fields description default)).bind
              (Json.assemble
                (objectMembers title fields description default))).map
            .object := by
        rw [annotate_object, Json.toFieldType]
        cases title <;> cases description <;> cases default <;> rfl
      rw [found, requiredList_objectMembers, propertiesUnder_objectMembers,
        read, Except.bind, made]
      rfl

/-- The documents of fields are read back as the fields. -/
theorem declaredFields_fieldDocuments :
    ∀ (fields : List Field) (path : String) (names : List String),
      AllWellFormed fields ->
      (∀ field ∈ fields, names.contains field.name = field.required) ->
        Json.declaredFields path names (fieldDocuments fields) = .ok fields
  | [], path, names, _, _ => rfl
  | ⟨name, type, required, default, description⟩ :: rest, path, names,
      formed, flags => by
        rw [AllWellFormed] at formed
        obtain ⟨flag, others⟩ := List.forall_mem_cons.mp flags
        rw [fieldDocuments, Json.declaredFields,
          toFieldType_annotate type (path ++ "." ++ name) description
            default formed.1]
        simp only [declaredFields_fieldDocuments rest path names
          formed.2.2 others,
          declaredField_eq, flag]

end

end FieldType

namespace Schema

/-- Reading the document of a well-formed schema gives that schema back. -/
theorem toSchema_toDocument {schema : Schema} (formed : schema.WellFormed) :
    schema.toDocument.toSchema = .ok schema := by
  obtain ⟨title, fields⟩ := schema
  have made := FieldType.assemble_objectMembers title none none formed
  rw [WellFormed, FieldType.WellFormed] at formed
  have declared := FieldType.declaredFields_fieldDocuments fields "$"
    (FieldType.requiredNames fields) formed.2
    (FieldType.contains_requiredNames formed.1)
  rw [toDocument, ← FieldType.annotate_none, FieldType.annotate_object,
    Json.toSchema, FieldType.requiredList_objectMembers,
    FieldType.propertiesUnder_objectMembers, declared, Except.bind, made]

end Schema

namespace Json

/-- Fields read from a document: well-formed types, and defaults that
repeat no key. -/
def SoundFields (fields : List Field) : Prop :=
  ∀ field ∈ fields, field.type.WellFormed ∧
    ∀ value, field.default = some value -> value.Distinct

/-- Sound fields that are assembled make a well-formed schema. -/
theorem wellFormed_of_assemble
    {members : Members}
    {fields : List Field}
    {schema : Schema}
    (sound : SoundFields fields)
    (made : assemble members fields = .ok schema) :
    schema.WellFormed := by
  unfold assemble at made
  cases built : Schema.ofFields fields with
  | error reason => simp [built, Except.map] at made
  | ok plain =>
      rw [built] at made
      obtain rfl := Except.ok.inj made
      have formed := Schema.wellFormed_of_ofFields
        (fun field stored => (sound field stored).1)
        (fun field stored => (sound field stored).2) built
      have parts := Schema.wellFormed_iff.mp formed
      exact Schema.wellFormed_iff.mpr parts

/-- What is read from the nested documents of an object document is sound. -/
structure SoundNested (nested : NestedTypes) : Prop where
  item : ∀ type, nested.item = some (.ok type) -> type.WellFormed
  value : ∀ type, nested.value = some (.ok type) -> type.WellFormed
  variant : ∀ type, nested.variant = .ok type -> type.WellFormed
  properties : ∀ fields, nested.properties = .ok fields -> SoundFields fields

/-- A type that wraps another one, or any value where none is given, is
well-formed if the other one is. -/
theorem wellFormed_of_map_getD
    {found : Option (Except SchemaError FieldType)}
    {wrap : FieldType -> FieldType}
    {type : FieldType}
    (wraps : ∀ inner, (wrap inner).WellFormed ↔ inner.WellFormed)
    (sound : ∀ inner, found = some (.ok inner) -> inner.WellFormed)
    (read : (found.getD (.ok .any)).map wrap = .ok type) :
    type.WellFormed := by
  cases found with
  | none =>
      obtain rfl := Except.ok.inj read
      exact (wraps _).mpr (by simp [FieldType.WellFormed])
  | some outcome =>
      cases outcome with
      | error reason => contradiction
      | ok inner =>
          obtain rfl := Except.ok.inj read
          exact (wraps inner).mpr (sound inner rfl)

/-- A type that is read from its name is well-formed if the nested types are. -/
theorem wellFormed_of_namedFieldType
    {path name : String}
    {members : Members}
    {nested : NestedTypes}
    {type : FieldType}
    (sound : SoundNested nested)
    (read : namedFieldType path members nested name = .ok type) :
    type.WellFormed := by
  unfold namedFieldType at read
  split at read
  case h_1 => exact Except.ok.inj read ▸ trivial
  case h_2 => exact Except.ok.inj read ▸ trivial
  case h_3 => exact Except.ok.inj read ▸ trivial
  case h_4 => exact Except.ok.inj read ▸ trivial
  case h_5 =>
      have wraps (inner : FieldType) :
          (FieldType.list inner).WellFormed ↔ inner.WellFormed := Iff.rfl
      exact wellFormed_of_map_getD wraps sound.item read
  case h_6 =>
      split at read
      · cases properties : nested.properties with
        | error reason => simp [properties, Except.bind, Except.map] at read
        | ok fields =>
            cases made : assemble members fields with
            | error reason =>
                simp [properties, made, Except.bind, Except.map] at read
            | ok schema =>
                simp only [properties, made, Except.bind, Except.map] at read
                obtain rfl := Except.ok.inj read
                exact wellFormed_of_assemble
                  (sound.properties fields properties) made
      · split at read
        · have wraps (inner : FieldType) :
              (FieldType.map inner).WellFormed ↔ inner.WellFormed :=
            Iff.rfl
          exact wellFormed_of_map_getD wraps sound.value read
        · obtain rfl := Except.ok.inj read
          trivial
  case h_7 => contradiction

/-- An optional type is well-formed if what it holds is. -/
theorem wellFormed_of_optional
    {outcome : Except SchemaError FieldType}
    {type : FieldType}
    (sound : ∀ inner, outcome = .ok inner -> inner.WellFormed)
    (read : outcome.map .optional = .ok type) :
    type.WellFormed := by
  cases outcome with
  | error reason => contradiction
  | ok inner =>
      obtain rfl := Except.ok.inj read
      exact sound inner rfl

/-- A type that is read from the members of its document is well-formed if the
nested types are. -/
theorem wellFormed_of_describedType
    {path : String}
    {members : Members}
    {nested : NestedTypes}
    {type : FieldType}
    (distinct : DistinctMembers members)
    (sound : SoundNested nested)
    (read : describedType path members nested = .ok type) :
    type.WellFormed := by
  unfold describedType at read
  split at read
  case h_1 values _ _ found =>
      obtain rfl := Except.ok.inj read
      have literals := distinct_of_mem distinct (Members.mem_of_lookup found)
      rwa [Distinct] at literals
  case h_2 => contradiction
  case h_3 =>
      unfold variantFieldType at read
      split at read
      · exact wellFormed_of_optional sound.variant read
      · exact sound.variant type read
      · contradiction
  case h_4 =>
      obtain rfl := Except.ok.inj read
      trivial
  case h_5 => exact wellFormed_of_namedFieldType sound read
  case h_6 =>
      split at read
      · exact wellFormed_of_namedFieldType sound read
      · exact wellFormed_of_optional
          (fun inner => wellFormed_of_namedFieldType sound) read
      · contradiction
  case h_7 => contradiction

/-- A default that is read from a document repeats no key if the
document does not. -/
theorem distinct_of_declaredField
    {name : String}
    {type : FieldType}
    {required : Bool}
    {document value : Json}
    (distinct : document.Distinct)
    (given : (declaredField name type required document).default = some value) :
    value.Distinct := by
  cases document with
  | object members =>
      rw [Distinct] at distinct
      exact distinct_of_mem distinct.2 (Members.mem_of_lookup given)
  | _ => contradiction

mutual

/-- A type read from a document without repeated keys is well-formed. -/
theorem wellFormed_of_toFieldType :
    ∀ (document : Json) (path : String) (type : FieldType), document.Distinct ->
      toFieldType path document = .ok type -> type.WellFormed
  | .object members, path, type, distinct, read => by
      rw [Distinct] at distinct
      rw [toFieldType] at read
      exact wellFormed_of_describedType distinct.2
        ⟨wellFormed_of_typeUnder members "items" (path ++ "[]") distinct.2,
          wellFormed_of_typeUnder members "additionalProperties"
            path distinct.2,
          wellFormed_of_firstVariant members path distinct.2,
          soundFields_of_propertiesUnder members path
            (requiredList members) distinct.2⟩ read
  | .null, _, _, _, read => by simp [toFieldType, refuse] at read
  | .boolean _, _, _, _, read => by simp [toFieldType, refuse] at read
  | .number _, _, _, _, read => by simp [toFieldType, refuse] at read
  | .string _, _, _, _, read => by simp [toFieldType, refuse] at read
  | .array _, _, _, _, read => by simp [toFieldType, refuse] at read

/-- A type that is read from under a key is well-formed. -/
theorem wellFormed_of_typeUnder :
    ∀ (members : Members) (key path : String), DistinctMembers members ->
      ∀ type, typeUnder key path members = some (.ok type) -> type.WellFormed
  | [], _, _, _, type, read => by simp [typeUnder] at read
  | (name, document) :: rest, key, path, distinct, type, read => by
      rw [DistinctMembers] at distinct
      rw [typeUnder] at read
      split at read
      · exact wellFormed_of_toFieldType document path type distinct.1
          (Option.some.inj read)
      · exact wellFormed_of_typeUnder rest key path distinct.2 type read

/-- The first variant that is read is well-formed. -/
theorem wellFormed_of_firstVariant :
    ∀ (members : Members) (path : String), DistinctMembers members ->
      ∀ type, firstVariant path members = .ok type -> type.WellFormed
  | [], _, _, type, read => by simp [firstVariant, refuse] at read
  | (name, document) :: rest, path, distinct, type, read => by
      rw [DistinctMembers] at distinct
      rw [firstVariant] at read
      split at read
      · exact wellFormed_of_variantOf document path distinct.1 type read
      · exact wellFormed_of_firstVariant rest path distinct.2 type read

/-- The variant that is read from a document is well-formed. -/
theorem wellFormed_of_variantOf :
    ∀ (document : Json) (path : String), document.Distinct ->
      ∀ type, variantOf path document = .ok type -> type.WellFormed
  | .array variants, path, distinct, type, read => by
      rw [Distinct] at distinct
      rw [variantOf] at read
      exact wellFormed_of_firstOf variants path distinct type read
  | .null, _, _, _, read => by simp [variantOf, refuse] at read
  | .boolean _, _, _, _, read => by simp [variantOf, refuse] at read
  | .number _, _, _, _, read => by simp [variantOf, refuse] at read
  | .string _, _, _, _, read => by simp [variantOf, refuse] at read
  | .object _, _, _, _, read => by simp [variantOf, refuse] at read

/-- The first of the variants that can be read is well-formed. -/
theorem wellFormed_of_firstOf :
    ∀ (variants : List Json) (path : String), DistinctItems variants ->
      ∀ type, firstOf path variants = .ok type -> type.WellFormed
  | [], _, _, type, read => by simp [firstOf, refuse] at read
  | variant :: rest, path, distinct, type, read => by
      rw [DistinctItems] at distinct
      rw [firstOf] at read
      split at read
      · exact wellFormed_of_firstOf rest path distinct.2 type read
      · exact wellFormed_of_toFieldType variant path type distinct.1 read

/-- The properties that are read from under their key are sound fields. -/
theorem soundFields_of_propertiesUnder :
    ∀ (members : Members) (path : String) (names : List String),
      DistinctMembers members ->
      ∀ fields,
        propertiesUnder path names members = .ok fields -> SoundFields fields
  | [], _, _, _, fields, read => by
      obtain rfl := Except.ok.inj read
      exact nofun
  | (name, document) :: rest, path, names, distinct, fields, read => by
      rw [DistinctMembers] at distinct
      rw [propertiesUnder] at read
      split at read
      · exact soundFields_of_propertiesOf document path names
          distinct.1 fields read
      · exact soundFields_of_propertiesUnder rest path names
          distinct.2 fields read

/-- The properties that are read from a document are sound fields. -/
theorem soundFields_of_propertiesOf :
    ∀ (document : Json) (path : String) (names : List String),
      document.Distinct ->
      ∀ fields,
        propertiesOf path names document = .ok fields -> SoundFields fields
  | .object properties, path, names, distinct, fields, read => by
      rw [Distinct] at distinct
      rw [propertiesOf] at read
      exact soundFields_of_declaredFields properties path names
        distinct.2 fields read
  | .null, _, _, _, _, read => by simp [propertiesOf, refuse] at read
  | .boolean _, _, _, _, _, read => by simp [propertiesOf, refuse] at read
  | .number _, _, _, _, _, read => by simp [propertiesOf, refuse] at read
  | .string _, _, _, _, _, read => by simp [propertiesOf, refuse] at read
  | .array _, _, _, _, _, read => by simp [propertiesOf, refuse] at read

/-- The fields that are read one by one are sound. -/
theorem soundFields_of_declaredFields :
    ∀ (properties : Members) (path : String) (names : List String),
      DistinctMembers properties ->
      ∀ fields, declaredFields path names properties = .ok fields ->
        SoundFields fields
  | [], _, _, _, fields, read => by
      obtain rfl := Except.ok.inj read
      exact nofun
  | (name, document) :: rest, path, names, distinct, fields, read => by
      rw [DistinctMembers] at distinct
      rw [declaredFields] at read
      cases first : toFieldType (path ++ "." ++ name) document with
      | error reason => simp [first] at read
      | ok type =>
          cases others : declaredFields path names rest with
          | error reason => simp [first, others] at read
          | ok remaining =>
              simp only [first, others] at read
              obtain rfl := Except.ok.inj read
              have formed :=
                wellFormed_of_toFieldType document _ type distinct.1 first
              have sound :=
                soundFields_of_declaredFields rest path names distinct.2
                  remaining others
              exact List.forall_mem_cons.mpr
                ⟨⟨formed, fun value => distinct_of_declaredField distinct.1⟩,
                  sound⟩

end

/-- A schema read from a document without repeated keys is well-formed. -/
theorem wellFormed_of_toSchema
    {document : Json}
    {schema : Schema}
    (distinct : document.Distinct)
    (read : document.toSchema = .ok schema) :
    schema.WellFormed := by
  cases document with
  | object members =>
      rw [Distinct] at distinct
      rw [toSchema] at read
      cases properties : propertiesUnder "$" (requiredList members) members with
      | error reason => simp [properties, Except.bind] at read
      | ok fields =>
          rw [properties, Except.bind] at read
          exact wellFormed_of_assemble
            (soundFields_of_propertiesUnder members "$" _ distinct.2
              fields properties) read
  | _ => simp [toSchema, refuse] at read

end Json
end PromptTuning
