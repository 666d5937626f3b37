import PromptTuning.Proofs.Schema.Document
import PromptTuning.Proofs.Schema.Normalization
import PromptTuning.Value

/-!
# Values conform to their schemas

However a value is built, its schema is well-formed, its data fit the schema and
repeat no key, and a field is settled in the data unless it has a default that
is not settled itself. Each operation on values keeps all of this.
-/

namespace PromptTuning

namespace Members

/-- A key of members with one put in is that one's or was there before. -/
theorem mem_keys_put {members : Members} {name key : String} {value : Json}
    (present : key ∈ (members.put name value).keys) :
    key = name ∨ key ∈ members.keys := by
  induction members with
  | nil => simpa [put] using present
  | cons member rest inductionHypothesis =>
      obtain ⟨first, old⟩ := member
      rw [put] at present
      split at present
      · exact .inr present
      · rw [keys_cons, List.mem_cons] at present ⊢
        obtain rfl | present := present
        · exact .inr (.inl rfl)
        · exact (inductionHypothesis present).imp id .inr

/-- Members that repeat no key do so with another one put in. -/
theorem distinct_put
    {members : Members}
    {name : String}
    {value : Json}
    (distinct : (Json.object members).Distinct)
    (valueDistinct : value.Distinct) :
    (Json.object (members.put name value)).Distinct := by
  rw [Json.Distinct] at distinct ⊢
  induction members with
  | nil => exact ⟨List.nodup_singleton name, valueDistinct, trivial⟩
  | cons member rest inductionHypothesis =>
      obtain ⟨first, old⟩ := member
      obtain ⟨keys, oldDistinct, restDistinct⟩ := distinct
      obtain ⟨fresh, restKeys⟩ := List.nodup_cons.mp keys
      rw [put]
      split
      · exact ⟨keys, valueDistinct, restDistinct⟩
      case isFalse different =>
        obtain ⟨putKeys, putDistinct⟩ :=
          inductionHypothesis ⟨restKeys, restDistinct⟩
        refine ⟨List.nodup_cons.mpr ⟨fun present => ?_, putKeys⟩,
          oldDistinct, putDistinct⟩
        obtain same | present := mem_keys_put present
        · exact different same
        · exact fresh present

/-- The union of members repeats no key if neither side does. -/
theorem distinct_union
    {left right : Members}
    (leftDistinct : (Json.object left).Distinct)
    (rightDistinct : Json.DistinctMembers right) :
    (Json.object (left.union right)).Distinct := by
  unfold union
  induction right generalizing left with
  | nil => exact leftDistinct
  | cons member rest inductionHypothesis =>
      obtain ⟨name, value⟩ := member
      rw [Json.DistinctMembers] at rightDistinct
      exact inductionHypothesis (distinct_put leftDistinct rightDistinct.1)
        rightDistinct.2

/-- A name is found among the members with wanted names if it is one of them. -/
theorem lookup_filter (members : Members) (wanted : String -> Bool)
    (name : String) :
    List.lookup name (members.filter fun member => wanted member.1) =
      if wanted name then members.lookup name else none := by
  induction members with
  | nil => simp
  | cons member rest inductionHypothesis =>
      obtain ⟨key, value⟩ := member
      by_cases same : name = key
      · subst same
        cases chosen : wanted name with
        | true =>
            rw [List.filter_cons_of_pos (by simp [chosen])]
            simp
        | false =>
            rw [List.filter_cons_of_neg (by simp [chosen]), inductionHypothesis,
              chosen]
            rfl
      · have different : (name == key) = false := by simpa using same
        cases chosen : wanted key with
        | true =>
            rw [List.filter_cons_of_pos (by simp [chosen]), List.lookup_cons,
              different, List.lookup_cons, different]
            exact inductionHypothesis
        | false =>
            rw [List.filter_cons_of_neg (by simp [chosen]), List.lookup_cons,
              different]
            exact inductionHypothesis

/-- Members that are left out make no key repeat. -/
theorem distinct_filter {members : Members}
    (distinct : (Json.object members).Distinct)
    (wanted : String × Json -> Bool) :
    (Json.object (members.filter wanted)).Distinct := by
  rw [Json.Distinct, FieldType.distinctMembers_iff] at distinct ⊢
  constructor
  · exact distinct.1.sublist (List.filter_sublist.map _)
  · exact fun member present =>
      distinct.2 member (List.mem_of_mem_filter present)

end Members

/-- An object is brought into normal form member by member. -/
theorem Schema.normalize_object (schema : Schema) (members : Members) :
    (FieldType.object schema).normalize (.object members) =
      .object (schema.normalize members) := by
  obtain ⟨title, fields⟩ := schema
  rw [FieldType.normalize]
  rfl

namespace Value

/-- A value made of members has them in normal form, and its schema
admits them. -/
theorem ofMembers_eq_ok
    {schema : Schema}
    {members : Members}
    {value : Value}
    (made : ofMembers schema members = .ok value) :
    schema.Admits members ∧ value = ⟨schema, schema.normalize members⟩ := by
  unfold ofMembers at made
  split at made
  case h_2 => contradiction
  case h_1 clean =>
    exact ⟨Schema.violations_eq_nil_iff.mp clean, (Except.ok.inj made).symm⟩

/-- A value is made of all members that its schema admits. -/
theorem ofMembers_of_admits
    {schema : Schema}
    {members : Members}
    (admitted : schema.Admits members) :
    ofMembers schema members = .ok ⟨schema, schema.normalize members⟩ := by
  rw [ofMembers, Schema.violations_eq_nil_iff.mpr admitted]

/-- A value is constructed of the members of an object. -/
theorem construct_eq_ok
    {schema : Schema}
    {data : Json}
    {value : Value}
    (made : construct schema data = .ok value) :
    ∃ members,
      data = .object members ∧ ofMembers schema members = .ok value := by
  cases data with
  | object members => exact ⟨members, rfl, made⟩
  | _ => contradiction

/-- An update that succeeds puts accepted content, in normal form, under a
declared name. -/
theorem updateField_eq_ok
    {value updated : Value}
    {name : String}
    {content : Json}
    (made : value.updateField name content = .ok updated) :
    ∃ field, value.schema.field? name = some field ∧
      field.type.Accepts content ∧
      updated =
        { value with
          data := value.data.put name (field.type.normalize content) } := by
  unfold updateField at made
  cases found : value.schema.field? name with
  | none => simp [found] at made
  | some field =>
      rw [found] at made
      dsimp only at made
      split at made
      case h_2 => contradiction
      case h_1 clean =>
        exact ⟨field, rfl, (FieldType.violations_eq_nil_iff _ _ _).mp clean,
          (Except.ok.inj made).symm⟩

/-- A concatenation that succeeds is made of the union of the data under the
composed schema. -/
theorem concat_eq_ok {left right both : Value}
    (made : left.concat right = .ok both) :
    ∃ schema, left.schema.compose right.schema = .ok schema ∧
      ofMembers schema (left.data.union right.data) = .ok both := by
  unfold concat at made
  cases composed : left.schema.compose right.schema with
  | error cause => simp [composed] at made
  | ok schema =>
      simp only [composed] at made
      exact ⟨schema, rfl, mapError_eq_ok_iff.mp made⟩

/-- A projection that succeeds restricts the value to some of its fields, in
their order. -/
theorem project_eq_ok
    {value smaller : Value}
    {names : List String}
    (made : value.project names = .ok smaller) :
    ∃ fields, fields.Sublist value.schema.fields ∧
      smaller = value.restrict { value.schema with fields := fields } := by
  unfold project at made
  cases masked : value.schema.mask names with
  | error cause => simp [masked] at made
  | ok schema =>
      rw [masked] at made
      obtain rfl := Except.ok.inj made
      exact ⟨_, List.filter_sublist,
        congrArg value.restrict (Schema.fields_of_mask masked)⟩

/-- A value of which some fields are kept is restricted to them, in
their order. -/
theorem keep_eq_ok
    {value smaller : Value}
    {names : List String}
    (made : value.keep names = .ok smaller) :
    ∃ fields, fields.Sublist value.schema.fields ∧
      smaller = value.restrict { value.schema with fields := fields } := by
  unfold keep at made
  cases kept : value.schema.keep names with
  | error cause => simp [kept] at made
  | ok schema =>
      rw [kept] at made
      obtain rfl := Except.ok.inj made
      exact ⟨_, List.filter_sublist,
        congrArg value.restrict (Schema.fields_of_keep kept)⟩

/-- A portable form is read by constructing the value of a
well-formed schema. -/
theorem ofPortable_eq_ok
    {portable : Json}
    {value : Value}
    (distinct : portable.Distinct)
    (made : ofPortable portable = .ok value) :
    ∃ schema data,
      schema.WellFormed ∧ data.Distinct ∧
      construct schema data = .ok value := by
  have part {name : String} {content : Json}
      (found : portable.get? name = some content) :
          content.Distinct := by
        cases portable with
        | object members =>
            rw [Json.Distinct] at distinct
            exact Json.distinct_of_mem distinct.2 (Members.mem_of_lookup found)
        | _ => contradiction
  unfold ofPortable at made
  split at made
  case h_1 => contradiction
  case h_2 => contradiction
  case h_3 document data documentFound dataFound =>
    cases read : document.toSchema with
    | error cause => simp [read] at made
    | ok schema =>
        simp only [read] at made
        exact ⟨schema, data,
          Json.wellFormed_of_toSchema (part documentFound) read, part dataFound,
          mapError_eq_ok_iff.mp made⟩

/-- Under a smaller schema the fields that it declares have the same values. -/
theorem lookup_restrict
    {schema : Schema}
    (value : Value)
    {field : Field}
    (stored : field ∈ schema.fields) :
    (value.restrict schema).data.lookup field.name =
      value.data.lookup field.name := by
  have declared : schema.declares field.name = true :=
    Schema.declares_iff.mpr (List.mem_map_of_mem stored)
  unfold restrict
  rw [Members.lookup_filter value.data schema.declares, declared, if_pos rfl]

/-- The values that the operations build from well-formed schemas and from data,
where no object repeats a key. -/
inductive Built : Value -> Prop
  | construct {schema : Schema} {data : Json} {value : Value}
      (formed : schema.WellFormed)
      (distinct : data.Distinct)
      (made : construct schema data = .ok value) :
      Built value
  | updateField {value updated : Value} {name : String} {content : Json}
      (built : Built value)
      (distinct : content.Distinct)
      (made : value.updateField name content = .ok updated) :
      Built updated
  | concat {left right both : Value}
      (leftBuilt : Built left)
      (rightBuilt : Built right)
      (made : left.concat right = .ok both) :
      Built both
  | project {value smaller : Value} {names : List String}
      (built : Built value)
      (made : value.project names = .ok smaller) :
      Built smaller
  | keep {value smaller : Value} {names : List String}
      (built : Built value)
      (made : value.keep names = .ok smaller) :
      Built smaller
  | ofPortable {portable : Json} {value : Value}
      (distinct : portable.Distinct)
      (made : ofPortable portable = .ok value) :
      Built value

/-- The data of a value are in normal form under its schema. -/
def Settled (value : Value) : Prop :=
  ∀ field ∈ value.schema.fields, field.SettledIn value.data

/-- A well-formed schema with fitting data that repeat no key, in which only
fields with unsettled defaults are unsettled. -/
structure Conforms (value : Value) : Prop where
  formed : value.schema.WellFormed
  fits : value.schema.Admits value.data
  distinct : (Json.object value.data).Distinct
  settled :
    ∀ field ∈ value.schema.fields,
      field.DefaultsSettled -> field.SettledIn value.data

/-- A value made of members conforms to its schema. -/
theorem conforms_of_ofMembers
    {schema : Schema}
    {members : Members}
    {value : Value}
    (formed : schema.WellFormed)
    (distinct : (Json.object members).Distinct)
    (made : ofMembers schema members = .ok value) :
    value.Conforms := by
  obtain ⟨admitted, rfl⟩ := ofMembers_eq_ok made
  obtain ⟨names, fields⟩ := Schema.wellFormed_iff.mp formed
  have normal := schema.normalize_object members
  refine ⟨formed, ?_, ?_, ?_⟩
  · rw [← Schema.accepts_object_iff, ← normal]
    exact FieldType.accepts_normalize (.object schema) _ formed
      (Schema.accepts_object_iff.mpr admitted)
  · rw [← normal]
    exact FieldType.distinct_normalize (.object schema) _ formed distinct
  · intro field stored defaults
    refine FieldType.settledIn_normalizeFields names stored ?_ defaults.2
    intro part present
    exact FieldType.settled_normalize field.type part
      (fields field stored).type defaults.1
      ((admitted.fields field stored).present part present)

/-- A value that is constructed conforms to its schema. -/
theorem conforms_of_construct
    {schema : Schema}
    {data : Json}
    {value : Value}
    (formed : schema.WellFormed)
    (distinct : data.Distinct)
    (made : construct schema data = .ok value) :
    value.Conforms := by
  obtain ⟨members, rfl, made⟩ := construct_eq_ok made
  exact conforms_of_ofMembers formed distinct made

/-- An updated value conforms to its schema. -/
theorem Conforms.updateField
    {value updated : Value}
    {name : String}
    {content : Json}
    (conforms : value.Conforms)
    (distinct : content.Distinct)
    (made : value.updateField name content = .ok updated) :
    updated.Conforms := by
  obtain ⟨field, found, accepted, rfl⟩ := updateField_eq_ok made
  obtain ⟨names, fields⟩ := Schema.wellFormed_iff.mp conforms.formed
  obtain ⟨declared, rfl⟩ := Schema.mem_of_field? found
  have type := (fields field declared).type
  have kept := FieldType.accepts_normalize field.type content type accepted
  have replaced :=
    Members.lookup_put_self field.name (field.type.normalize content) value.data
  -- Two fields of one name are one field, so any other field has another name.
  have other {field' : Field} (stored : field' ∈ value.schema.fields)
      (different : field' ≠ field) : field'.name ≠ field.name := by
    intro same
    have first := (Schema.field?_eq_some_iff names).mpr ⟨stored, same⟩
    rw [found] at first
    exact different (Option.some.inj first).symm
  have untouched {name : String} (different : name ≠ field.name) :=
    Members.lookup_put_of_ne different (field.type.normalize content) value.data
  refine ⟨conforms.formed, ⟨?_, ?_⟩, ?_, ?_⟩
  · intro field' stored
    by_cases same : field' = field
    · subst same
      constructor
      · intro part present
        rw [replaced] at present
        exact Option.some.inj present ▸ kept
      · intro missing
        rw [replaced] at missing
        contradiction
    · have admits := conforms.fits.fields field' stored
      have lookup := untouched (other stored same)
      exact ⟨fun part present => admits.present part (lookup ▸ present),
        fun missing => admits.absent (lookup ▸ missing)⟩
  · intro key present
    obtain rfl | present := Members.mem_keys_put present
    · exact ⟨field, declared, rfl⟩
    · exact conforms.fits.declared key present
  · exact Members.distinct_put conforms.distinct
      (FieldType.distinct_normalize field.type content type distinct)
  · intro field' stored defaults
    by_cases same : field' = field
    · subst same
      constructor
      · intro part present
        rw [replaced] at present
        exact Option.some.inj present ▸
          FieldType.settled_normalize field'.type content type
            defaults.1 accepted
      · intro missing
        rw [replaced] at missing
        contradiction
    · have settled := conforms.settled field' stored defaults
      have lookup := untouched (other stored same)
      exact ⟨fun part present => settled.present part (lookup ▸ present),
        fun missing => settled.absent (lookup ▸ missing)⟩

/-- A concatenation of conforming values conforms to the composed schema. -/
theorem Conforms.concat
    {left right both : Value}
    (leftConforms : left.Conforms)
    (rightConforms : right.Conforms)
    (made : left.concat right = .ok both) :
    both.Conforms := by
  obtain ⟨schema, composed, checked⟩ := concat_eq_ok made
  have rightDistinct := rightConforms.distinct
  rw [Json.Distinct] at rightDistinct
  exact conforms_of_ofMembers
    (leftConforms.formed.compose rightConforms.formed composed)
    (Members.distinct_union leftConforms.distinct rightDistinct.2) checked

/-- A conforming value that is restricted to some of its fields
conforms to them. -/
theorem Conforms.restrict
    {value : Value}
    (conforms : value.Conforms)
    {schema : Schema}
    (formed : schema.WellFormed)
    (chosen : schema.fields ⊆ value.schema.fields) :
    (value.restrict schema).Conforms := by
  refine ⟨formed, ⟨?_, ?_⟩, Members.distinct_filter conforms.distinct _, ?_⟩
  · intro field stored
    have lookup := lookup_restrict value stored
    have admits := conforms.fits.fields field (chosen stored)
    exact ⟨fun part present => admits.present part (lookup ▸ present),
      fun missing => admits.absent (lookup ▸ missing)⟩
  · intro key present
    obtain ⟨member, stored, rfl⟩ := List.mem_map.mp present
    exact List.mem_map.mp (Schema.declares_iff.mp (List.mem_filter.mp stored).2)
  · intro field stored defaults
    have lookup := lookup_restrict value stored
    have settled := conforms.settled field (chosen stored) defaults
    exact ⟨fun part present => settled.present part (lookup ▸ present),
      fun missing => settled.absent (lookup ▸ missing)⟩

/-- A projection of a conforming value conforms to its schema. -/
theorem Conforms.project
    {value smaller : Value}
    {names : List String}
    (conforms : value.Conforms)
    (made : value.project names = .ok smaller) :
    smaller.Conforms := by
  obtain ⟨fields, chosen, rfl⟩ := project_eq_ok made
  exact conforms.restrict (conforms.formed.withFields chosen) chosen.subset

/-- A conforming value of which some fields are kept conforms to them. -/
theorem Conforms.keep
    {value smaller : Value}
    {names : List String}
    (conforms : value.Conforms)
    (made : value.keep names = .ok smaller) :
    smaller.Conforms := by
  obtain ⟨fields, chosen, rfl⟩ := keep_eq_ok made
  exact conforms.restrict (conforms.formed.withFields chosen) chosen.subset

/-- A value that is read from its portable form conforms to its schema. -/
theorem conforms_of_ofPortable
    {portable : Json}
    {value : Value}
    (distinct : portable.Distinct)
    (made : ofPortable portable = .ok value) :
    value.Conforms := by
  obtain ⟨schema, data, formed, dataDistinct, made⟩ :=
    ofPortable_eq_ok distinct made
  exact conforms_of_construct formed dataDistinct made

/-- Every value that can be built conforms to its schema. -/
theorem Built.conforms {value : Value} (built : value.Built) :
    value.Conforms := by
  induction built with
  | construct formed distinct made =>
      exact conforms_of_construct formed distinct made
  | updateField _ distinct made inductionHypothesis =>
      exact inductionHypothesis.updateField distinct made
  | concat _ _ made leftHypothesis rightHypothesis =>
      exact leftHypothesis.concat rightHypothesis made
  | project _ made inductionHypothesis => exact inductionHypothesis.project made
  | keep _ made inductionHypothesis => exact inductionHypothesis.keep made
  | ofPortable distinct made => exact conforms_of_ofPortable distinct made

end Value
end PromptTuning
