import Mathlib.Data.List.Nodup
import PromptTuning.Proofs.Json.Sameness
import PromptTuning.Proofs.Schema.Acceptance

/-!
# Well-formed schemas

A schema is well-formed when at every depth its field names are distinct and
every default fits the type of its field. The checked constructor accepts a list
of fields exactly when that holds at the outermost level. Selecting fields keeps
it.
-/

namespace PromptTuning

namespace Members

/-- A condition on what stands under a name, by whether anything does. -/
theorem match_lookup_iff
    {members : Members}
    {name : String}
    {Fits : Json -> Prop}
    {Missing : Prop} :
    (match members.lookup name with
      | some value => Fits value
      | none => Missing) ↔
      (∀ value, members.lookup name = some value -> Fits value) ∧
        (members.lookup name = none -> Missing) := by
  cases members.lookup name <;> simp

end Members

namespace FieldType

mutual

/-- At every depth names are distinct, defaults fit, and no literal
repeats a key. -/
def WellFormed : FieldType -> Prop
  | .object ⟨_, fields⟩ => (fields.map (·.name)).Nodup ∧ AllWellFormed fields
  | .list item => item.WellFormed
  | .map value => value.WellFormed
  | .optional present => present.WellFormed
  | .oneOf values => Json.DistinctItems values
  | _ => True

/-- Every field has a well-formed type and a fitting default. -/
def AllWellFormed : List Field -> Prop
  | [] => True
  | ⟨_, type, _, default, _⟩ :: rest =>
      type.WellFormed ∧
        (∀ value, default = some value -> value.Distinct ∧ type.Accepts value) ∧
        AllWellFormed rest

end

end FieldType

namespace Field

/-- The type of a field is well-formed and accepts its default. -/
structure WellFormed (field : Field) : Prop where
  type : field.type.WellFormed
  default :
    ∀ value,
      field.default = some value -> value.Distinct ∧ field.type.Accepts value

/-- A field without a default is well-formed if its type is. -/
theorem WellFormed.of_default_eq_none
    {field : Field}
    (type : field.type.WellFormed)
    (bare : field.default = none) :
    field.WellFormed := by
  refine ⟨type, fun value given => ?_⟩
  rw [bare] at given
  contradiction

/-- A default that the type accepts and that repeats no key leaves a field
well-formed. -/
theorem WellFormed.withDefault
    {field : Field}
    {value : Json}
    (type : field.type.WellFormed)
    (distinct : value.Distinct)
    (accepted : field.type.Accepts value) :
    (field.withDefault value).WellFormed := by
  refine ⟨type, fun other given => ?_⟩
  obtain rfl := Option.some.inj given
  exact ⟨distinct, accepted⟩

/-- The members of an object fit a field: its value if present, and its
absence otherwise. -/
structure Admits (field : Field) (members : Members) : Prop where
  present :
    ∀ value, members.lookup field.name = some value -> field.type.Accepts value
  absent :
    members.lookup field.name = none ->
    (field.required && field.default.isNone) = false

end Field

namespace FieldType

/-- Fields are well-formed if each of them is. -/
theorem allWellFormed_iff {fields : List Field} :
    AllWellFormed fields ↔ ∀ field ∈ fields, field.WellFormed := by
  induction fields with
  | nil => simp [AllWellFormed]
  | cons field rest inductionHypothesis =>
      obtain ⟨name, type, required, default, description⟩ := field
      rw [AllWellFormed, inductionHypothesis, List.forall_mem_cons, ← and_assoc]
      exact and_congr_left'
        ⟨fun both => ⟨both.1, both.2⟩, fun both => ⟨both.type, both.default⟩⟩

/-- Fields admit members if each of them does. -/
theorem allAdmit_iff {fields : List Field} {members : Members} :
    AllAdmit fields members ↔ ∀ field ∈ fields, field.Admits members := by
  induction fields with
  | nil => simp [AllAdmit]
  | cons field rest inductionHypothesis =>
      obtain ⟨name, type, required, default, description⟩ := field
      rw [AllAdmit, inductionHypothesis, List.forall_mem_cons]
      apply and_congr_left'
      exact Members.match_lookup_iff.trans
        ⟨fun both => ⟨both.1, both.2⟩,
          fun admits => ⟨admits.present, admits.absent⟩⟩

end FieldType

namespace Schema

/-- A schema is well-formed as the type of its objects. -/
def WellFormed (schema : Schema) : Prop :=
  (FieldType.object schema).WellFormed

/-- A schema is well-formed if its names are distinct and its fields
well-formed. -/
theorem wellFormed_iff {schema : Schema} :
    schema.WellFormed ↔
    schema.Distinct ∧ ∀ field ∈ schema.fields, field.WellFormed := by
  obtain ⟨title, fields⟩ := schema
  rw [WellFormed, FieldType.WellFormed, FieldType.allWellFormed_iff]
  rfl

/-- A well-formed schema repeats no name. -/
theorem WellFormed.distinct {schema : Schema} (formed : schema.WellFormed) :
    schema.Distinct :=
  (wellFormed_iff.mp formed).1

/-- The members of an object fit a schema. -/
structure Admits (schema : Schema) (members : Members) : Prop where
  fields : ∀ field ∈ schema.fields, field.Admits members
  declared : ∀ key ∈ members.keys, ∃ field ∈ schema.fields, field.name = key

/-- Nothing is wrong with the members that a schema admits. -/
theorem violations_eq_nil_iff {schema : Schema} {members : Members} :
    schema.violations members = [] ↔ schema.Admits members := by
  rw [violations, List.append_eq_nil_iff, FieldType.fieldViolations_eq_nil_iff,
    FieldType.unexpected_eq_nil_iff, FieldType.allAdmit_iff]
  exact ⟨fun both => ⟨both.1, both.2⟩, fun both => ⟨both.fields, both.declared⟩⟩

/-- An object type accepts the objects whose members its schema admits. -/
theorem accepts_object_iff {schema : Schema} {members : Members} :
    (FieldType.object schema).Accepts (.object members) ↔
    schema.Admits members := by
  obtain ⟨title, fields⟩ := schema
  simp only [FieldType.Accepts, Json.object.injEq, FieldType.allAdmit_iff]
  constructor
  · rintro ⟨_, rfl, admitted, declared⟩
    exact ⟨admitted, declared⟩
  · intro admits
    exact ⟨members, rfl, admits.fields, admits.declared⟩

/-- Nothing is wrong with a default that the type accepts. -/
theorem defaultViolations_eq_nil_iff {field : Field} :
    field.defaultViolations = [] ↔
      ∀ value, field.default = some value -> field.type.Accepts value := by
  unfold Field.defaultViolations
  cases field.default with
  | none => simp
  | some value => simp [FieldType.violations_eq_nil_iff]

/-- The constructor accepts exactly the lists with distinct names and fitting
defaults, and keeps them as they are. -/
theorem appendFields_eq_ok_iff {accepted fields result : List Field}
    (distinct : (accepted.map (·.name)).Nodup) :
    appendFields accepted fields = .ok result ↔
      result = accepted ++ fields ∧ ((accepted ++ fields).map (·.name)).Nodup ∧
        ∀ field ∈ fields, field.defaultViolations = [] := by
  induction fields generalizing accepted with
  | nil =>
      simp only [appendFields, Except.ok.injEq, List.append_nil]
      exact ⟨fun same => ⟨same.symm, distinct, nofun⟩, fun both => both.1.symm⟩
  | cons field rest inductionHypothesis =>
      rw [appendFields]
      by_cases repeated : accepted.any (·.name == field.name) = true
      · rw [if_pos repeated]
        obtain ⟨earlier, present, same⟩ := List.any_eq_true.mp repeated
        constructor
        · intro impossible
          contradiction
        · rintro ⟨_, nodup, _⟩
          rw [List.map_append, List.map_cons, List.nodup_append] at nodup
          have apart := nodup.2.2 earlier.name
            (List.mem_map.mpr ⟨_, present, rfl⟩) field.name
            List.mem_cons_self
          exact absurd (by simpa using same) apart
      · rw [if_neg repeated]
        have fresh : ((accepted ++ [field]).map (·.name)).Nodup := by
          simp only [List.any_eq_true, beq_iff_eq, not_exists,
            not_and] at repeated
          rw [List.map_append, List.nodup_append]
          refine ⟨distinct, by simp, ?_⟩
          intro name present other single
          obtain ⟨earlier, stored, rfl⟩ := List.mem_map.mp present
          obtain rfl : other = field.name := by simpa using single
          exact repeated earlier stored
        cases clean : field.defaultViolations with
        | nil =>
            dsimp only
            rw [inductionHypothesis fresh, List.append_assoc,
              List.singleton_append, List.forall_mem_cons]
            exact ⟨fun both => ⟨both.1, both.2.1, clean, both.2.2⟩,
              fun both => ⟨both.1, both.2.1, both.2.2.2⟩⟩
        | cons violation others =>
            constructor
            · intro impossible
              contradiction
            · intro both
              have none := both.2.2 field List.mem_cons_self
              rw [clean] at none
              contradiction

/-- A schema is made of fields with distinct names and accepted defaults. -/
theorem ofFields_eq_ok_iff {fields : List Field} {schema : Schema} :
    ofFields fields = .ok schema ↔
      schema = ⟨none, fields⟩ ∧ (fields.map (·.name)).Nodup ∧
        ∀ field ∈ fields,
          ∀ value, field.default = some value -> field.type.Accepts value := by
  simp only [← defaultViolations_eq_nil_iff]
  unfold ofFields
  have nothing : (([] : List Field).map (·.name)).Nodup := List.nodup_nil
  cases made : appendFields [] fields with
  | ok accepted =>
      rw [appendFields_eq_ok_iff nothing] at made
      obtain ⟨rfl, nodup, clean⟩ := made
      simp only [Except.map, Except.ok.injEq]
      exact ⟨fun same => ⟨same.symm, nodup, clean⟩, fun both => both.1.symm⟩
  | error reason =>
      constructor
      · intro impossible
        contradiction
      · rintro ⟨_, nodup, clean⟩
        have kept : appendFields [] fields = .ok ([] ++ fields) :=
          (appendFields_eq_ok_iff nothing).mpr ⟨rfl, nodup, clean⟩
        rw [made] at kept
        contradiction

/-- What the constructor makes of fields with well-formed types is
well-formed. -/
theorem wellFormed_of_ofFields
    {fields : List Field}
    {schema : Schema}
    (types : ∀ field ∈ fields, field.type.WellFormed)
    (literals : ∀ field ∈ fields,
      ∀ value, field.default = some value -> value.Distinct)
    (made : ofFields fields = .ok schema) :
    schema.WellFormed := by
  obtain ⟨rfl, nodup, defaults⟩ := ofFields_eq_ok_iff.mp made
  refine wellFormed_iff.mpr
    ⟨nodup, fun field declared => ⟨types field declared, ?_⟩⟩
  intro value given
  exact ⟨literals field declared value given,
    defaults field declared value given⟩

/-- Some fields of a well-formed schema, in their order, form one. -/
theorem WellFormed.withFields
    {schema : Schema}
    (wellFormed : schema.WellFormed)
    {fields : List Field}
    (chosen : fields.Sublist schema.fields) :
    ({ schema with fields := fields } : Schema).WellFormed := by
  obtain ⟨distinct, each⟩ := wellFormed_iff.mp wellFormed
  exact wellFormed_iff.mpr
    ⟨distinct.sublist (chosen.map _),
      fun field present => each field (chosen.subset present)⟩

/-- Masking leaves out the named fields. -/
theorem fields_of_mask {schema masked : Schema} {names : List String}
    (done : schema.mask names = .ok masked) :
    masked =
      { schema with
        fields :=
          schema.fields.filter fun field => !names.contains field.name } := by
  unfold mask at done
  split at done
  · contradiction
  · exact (Except.ok.inj done).symm

/-- Keeping leaves the named fields. -/
theorem fields_of_keep {schema kept : Schema} {names : List String}
    (done : schema.keep names = .ok kept) :
    kept =
      { schema with
        fields :=
          schema.fields.filter fun field => names.contains field.name } := by
  unfold keep at done
  split at done
  · contradiction
  · exact (Except.ok.inj done).symm

/-- The field that is found under a name is one of the fields and
has that name. -/
theorem mem_of_field? {schema : Schema} {name : String} {field : Field}
    (found : schema.field? name = some field) :
    field ∈ schema.fields ∧ field.name = name :=
  ⟨List.mem_of_find?_eq_some found, by simpa using List.find?_some found⟩

/-- A schema declares the names that it lists. -/
theorem declares_iff {schema : Schema} {name : String} :
    schema.declares name = true ↔ name ∈ schema.names := by
  simp [declares, field?, names]

/-- Each field of a schema without repeated names is found under its name. -/
theorem field?_eq_some_iff {schema : Schema} (distinct : schema.Distinct)
    {name : String} {field : Field} :
    schema.field? name = some field ↔
    field ∈ schema.fields ∧ field.name = name := by
  constructor
  · exact mem_of_field?
  · rintro ⟨present, rfl⟩
    unfold Distinct names at distinct
    unfold field?
    generalize schema.fields = fields at distinct present
    induction fields with
    | nil => simp at present
    | cons first rest inductionHypothesis =>
        rw [List.map_cons, List.nodup_cons] at distinct
        obtain rfl | present := List.mem_cons.mp present
        · simp
        · have different : (first.name == field.name) = false := by
            rw [beq_eq_false_iff_ne]
            intro same
            exact distinct.1 (same ▸ List.mem_map.mpr ⟨field, present, rfl⟩)
          rw [List.find?_cons_of_neg (by simp [different])]
          exact inductionHypothesis distinct.2 present

end Schema
end PromptTuning
