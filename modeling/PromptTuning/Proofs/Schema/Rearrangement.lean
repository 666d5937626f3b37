import PromptTuning.Proofs.Schema.Equivalence
import PromptTuning.Proofs.Value.Conformance

/-!
# Rearranged schemas

Two types that differ in the order of fields and choices, in titles and in
descriptions, at whatever depth, are the same. Sameness is an equivalence of
well-formed schemas, and schemas that are the same are interchangeable: they
make the same values of the same data, contain each other and are contained in
the same schemas.
-/

namespace PromptTuning

namespace FieldType

/-- One type comes from another by giving titles and descriptions and by
reordering fields and choices, at any depth. -/
inductive Rearranged : FieldType -> FieldType -> Prop
  | refl (type : FieldType) : Rearranged type type
  | trans {first second third : FieldType}
      (left : Rearranged first second)
      (right : Rearranged second third) :
      Rearranged first third
  | choices {values others : List Json} (order : values.Perm others) :
      Rearranged (.oneOf values) (.oneOf others)
  | fields {values others : List Field} (title other : Option String)
      (order : values.Perm others) :
      Rearranged (.object ⟨title, values⟩) (.object ⟨other, others⟩)
  | field (title : Option String) (front back : List Field) (field : Field)
      {type : FieldType} (description : Option String)
      (inner : Rearranged field.type type) :
      Rearranged (.object ⟨title, front ++ field :: back⟩)
        (.object ⟨title,
          front ++
          { field with type := type, description := description } :: back⟩)
  | list {item other : FieldType} (inner : Rearranged item other) :
      Rearranged (.list item) (.list other)
  | map {value other : FieldType} (inner : Rearranged value other) :
      Rearranged (.map value) (.map other)
  | optional {present other : FieldType} (inner : Rearranged present other) :
      Rearranged (.optional present) (.optional other)

theorem sameChoices_of_perm {values others : List Json}
    (order : values.Perm others) :
    sameChoices values others = true :=
  sameChoices_of_countLiteral order.length_eq fun _ _ => order.countP_eq _

/-- A well-formed field is its own counterpart. -/
theorem counterpart_self {field : Field} (formed : field.WellFormed) :
    Counterpart field field where
  name := rfl
  type := same_self field.type formed.type
  required := rfl
  default := by
    cases given : field.default with
    | none => rfl
    | some value => exact Json.same_self value (formed.default value given).1

/-- Fields stay well-formed and the same in another order. -/
theorem same_of_perm
    {fields others : List Field}
    (title other : Option String)
    (order : fields.Perm others)
    (formed : (object ⟨title, fields⟩).WellFormed) :
    (object ⟨other, others⟩).WellFormed ∧
      (object ⟨title, fields⟩).same (.object ⟨other, others⟩) = true := by
  rw [WellFormed, allWellFormed_iff] at formed ⊢
  have distinct : (others.map (·.name)).Nodup :=
    (order.map _).nodup_iff.mp formed.1
  refine ⟨⟨distinct,
    fun field declared => formed.2 field (order.mem_iff.mpr declared)⟩, ?_⟩
  rw [same, Bool.and_eq_true, beq_iff_eq]
  refine ⟨order.length_eq,
    (fieldsWithin_iff distinct).mpr fun field stored => ?_⟩
  exact ⟨field, order.mem_iff.mp stored,
    counterpart_self (formed.2 field stored)⟩

/-- Fields stay well-formed and the same when one of them gets a type that
is the same. -/
theorem same_of_field
    {title : Option String}
    {front back : List Field}
    {field : Field}
    {type : FieldType}
    (description : Option String)
    (formed : (object ⟨title, front ++ field :: back⟩).WellFormed)
    (typeFormed : type.WellFormed)
    (agree : field.type.same type = true) :
    let others := front ++
      { field with type := type, description := description } :: back
    (object ⟨title, others⟩).WellFormed ∧
      (object ⟨title, front ++ field :: back⟩).same (.object ⟨title, others⟩) =
        true := by
  intro others
  rw [WellFormed, allWellFormed_iff] at formed ⊢
  obtain ⟨distinct, each⟩ := formed
  have own : field.WellFormed := each field (by simp)
  have names : others.map (·.name) = (front ++ field :: back).map (·.name) := by
    simp [others]
  have othersDistinct : (others.map (·.name)).Nodup := names ▸ distinct
  refine ⟨⟨othersDistinct, fun other declared => ?_⟩, ?_⟩
  · simp only [others, List.mem_append, List.mem_cons] at declared
    obtain before | rfl | after := declared
    · exact each other (by simp [before])
    · refine ⟨typeFormed, fun value given => ?_⟩
      obtain ⟨valueDistinct, accepted⟩ := own.default value given
      exact ⟨valueDistinct,
        accepts_of_same type field.type value typeFormed own.type
          (same_symm field.type type own.type typeFormed agree)
          valueDistinct accepted⟩
    · exact each other (by simp [after])
  · rw [same, Bool.and_eq_true, beq_iff_eq]
    refine ⟨by simp [others],
      (fieldsWithin_iff othersDistinct).mpr fun stored listed => ?_⟩
    have pair := counterpart_self (each stored listed)
    simp only [List.mem_append, List.mem_cons] at listed
    obtain before | rfl | after := listed
    · exact ⟨stored, by simp [others, before], pair⟩
    · exact ⟨{ stored with type := type, description := description },
        by simp [others], rfl,
        agree, rfl, pair.default⟩
    · exact ⟨stored, by simp [others, after], pair⟩

/-- What comes from a well-formed type by rearrangement is well-formed
and the same. -/
theorem Rearranged.same
    {left right : FieldType}
    (rearranged : Rearranged left right)
    (formed : left.WellFormed) :
    right.WellFormed ∧ left.same right = true := by
  induction rearranged with
  | refl type => exact ⟨formed, same_self type formed⟩
  | trans _ _ leftHypothesis rightHypothesis =>
      obtain ⟨middleFormed, near⟩ := leftHypothesis formed
      obtain ⟨lastFormed, far⟩ := rightHypothesis middleFormed
      exact ⟨lastFormed,
        same_trans _ _ _ formed middleFormed lastFormed near far⟩
  | choices order =>
      rw [WellFormed, distinctItems_iff] at formed ⊢
      exact ⟨fun value listed => formed value (order.mem_iff.mpr listed),
        sameChoices_of_perm order⟩
  | fields title other order => exact same_of_perm title other order formed
  | field title front back field description inner inductionHypothesis =>
      have each := formed
      rw [WellFormed, allWellFormed_iff] at each
      obtain ⟨typeFormed, agree⟩ :=
        inductionHypothesis (each.2 field (by simp)).type
      exact same_of_field description formed typeFormed agree
  | list _ inductionHypothesis => exact inductionHypothesis formed
  | map _ inductionHypothesis => exact inductionHypothesis formed
  | optional _ inductionHypothesis => exact inductionHypothesis formed

/-- Sameness is an equivalence of well-formed types. -/
theorem same_equivalence :
    Equivalence fun left right : { type : FieldType // type.WellFormed } =>
      left.val.same right.val = true where
  refl type := same_self type.val type.property
  symm {left right}
    agree := same_symm left.val right.val left.property right.property agree
  trans {first second third} near far :=
    same_trans first.val second.val third.val first.property second.property
      third.property near far

end FieldType

namespace Value

/-- Two attempts at a value both fail, or both succeed with the same data. -/
def BothMade :
    Except (List Violation) Value -> Except (List Violation) Value -> Prop
  | .ok value, .ok other =>
      (Json.object value.data).same (.object other.data) = true
  | .error _, .error _ => True
  | _, _ => False

/-- Members make a value exactly if the schema admits them. -/
theorem ofMembers_cases (schema : Schema) (members : Members) :
    schema.Admits members ∧
    ofMembers schema members = .ok ⟨schema, schema.normalize members⟩ ∨
      ¬ schema.Admits members ∧
      ∃ reasons, ofMembers schema members = .error reasons := by
  cases made : ofMembers schema members with
  | ok value =>
      obtain ⟨admitted, rfl⟩ := ofMembers_eq_ok made
      exact .inl ⟨admitted, rfl⟩
  | error reasons =>
      refine .inr ⟨fun admitted => ?_, reasons, rfl⟩
      rw [ofMembers_of_admits admitted] at made
      contradiction

end Value

namespace Schema

theorem same_eq (left right : Schema) :
    left.same right = (FieldType.object left).same (.object right) := by
  obtain ⟨title, fields⟩ := left
  obtain ⟨other, others⟩ := right
  rw [FieldType.same]
  rfl

/-- Sameness is an equivalence of well-formed schemas. -/
theorem same_equivalence :
    Equivalence fun left right : { schema : Schema // schema.WellFormed } =>
      left.val.same right.val = true := by
  simp only [same_eq]
  exact FieldType.same_equivalence.comap fun schema : { schema : Schema //
    schema.WellFormed } =>
    ⟨.object schema.val, schema.property⟩

section Interchange

variable {left right : Schema}
  (leftFormed : left.WellFormed)
  (rightFormed : right.WellFormed)
  (agree : left.same right = true)

include leftFormed rightFormed agree

theorem same_comm : right.same left = true := by
  rw [same_eq] at agree ⊢
  exact FieldType.same_symm (.object left) (.object right) leftFormed
    rightFormed agree

/-- Of schemas that are the same one admits the members that the
other admits. -/
theorem admits_of_same
    {members : Members}
    (distinct : (Json.object members).Distinct)
    (admitted : right.Admits members) :
    left.Admits members := by
  rw [same_eq] at agree
  exact accepts_object_iff.mp
    (FieldType.accepts_of_same (.object left) (.object right)
      (.object members) leftFormed rightFormed agree distinct
      (accepts_object_iff.mpr admitted))

/-- Schemas that are the same make the same values of the same data. -/
theorem bothMade_of_same (data : Json) (distinct : data.Distinct) :
    Value.BothMade (Value.construct left data)
      (Value.construct right data) := by
  cases data with
  | object members =>
      have back := same_comm leftFormed rightFormed agree
      obtain ⟨admitted, made⟩ | ⟨refused, reasons, made⟩ :=
        Value.ofMembers_cases left members
      · have alsoAdmitted :=
          admits_of_same rightFormed leftFormed back distinct admitted
        obtain ⟨_, alsoMade⟩ | ⟨refused, _⟩ :=
          Value.ofMembers_cases right members
        · rw [Value.construct, Value.construct, made, alsoMade]
          rw [same_eq] at agree
          have normal := FieldType.same_normalize_of_same (.object left)
            (.object right) (.object members)
            leftFormed rightFormed agree distinct
          rw [normalize_object, normalize_object] at normal
          exact normal
        · exact absurd alsoAdmitted refused
      · obtain ⟨admitted, _⟩ | ⟨_, others, alsoMade⟩ :=
          Value.ofMembers_cases right members
        · exact absurd
            (admits_of_same leftFormed rightFormed agree distinct admitted)
            refused
        · rw [Value.construct, Value.construct, made, alsoMade]
          trivial
  | _ => trivial

/-- What contains one schema contains every schema that is the same. -/
theorem contains_of_same {holder : Schema}
    (contains : holder.contains left = true) :
    holder.contains right = true := by
  rw [same_eq] at agree
  rw [contains_eq_isNarrowerThan] at contains ⊢
  exact FieldType.isNarrowerThan_of_same (.object left) (.object right)
    (.object holder) (FieldType.unambiguous_of_wellFormed _ leftFormed)
    (FieldType.unambiguous_of_wellFormed _ rightFormed) agree contains

end Interchange

/-- Sameness of well-formed types and schemas is an equivalence that holds
whatever the order of fields and choices, titles and descriptions at any depth,
and schemas that are the same make the same values of all data, contain each
other and are contained in the same schemas. -/
theorem same_schemas_interchangeable :
    (Equivalence fun left right : { type : FieldType // type.WellFormed } =>
      left.val.same right.val = true) ∧
      (Equivalence fun left right : { schema : Schema // schema.WellFormed } =>
        left.val.same right.val = true) ∧
      (∀ left right : FieldType, left.WellFormed -> left.Rearranged right ->
        left.same right = true) ∧
      (∀ left right : Schema, left.WellFormed ->
        (FieldType.object left).Rearranged (.object right) ->
        left.same right = true) ∧
      ∀ left right : Schema, left.WellFormed -> right.WellFormed ->
        left.same right = true ->
        (∀ data : Json, data.Distinct ->
          Value.BothMade (Value.construct left data)
            (Value.construct right data)) ∧
          left.contains right = true ∧ right.contains left = true ∧
          ∀ holder : Schema,
            holder.contains left = true ↔ holder.contains right = true := by
  refine ⟨FieldType.same_equivalence, same_equivalence, ?_, ?_, ?_⟩
  · exact fun left right formed rearranged => (rearranged.same formed).2
  · intro left right formed rearranged
    rw [same_eq]
    exact (rearranged.same formed).2
  · intro left right leftFormed rightFormed agree
    have back := same_comm leftFormed rightFormed agree
    have contains (holder : Schema) :
        holder.contains left = true ↔ holder.contains right = true :=
      ⟨contains_of_same leftFormed rightFormed agree,
        contains_of_same rightFormed leftFormed back⟩
    have leftUnambiguous := FieldType.unambiguous_of_wellFormed _ leftFormed
    have rightUnambiguous := FieldType.unambiguous_of_wellFormed _ rightFormed
    exact ⟨bothMade_of_same leftFormed rightFormed agree,
      (contains left).mp (contains_self leftUnambiguous),
      (contains right).mpr (contains_self rightUnambiguous), contains⟩

/-- A choice with a description. -/
def kindExample : Field :=
  (Field.voluntary "kind" (.oneOfStrings ["fact", "guess"])).withDescription
    "How sure"

/-- Sections of a kind and a note, with a title and a description. -/
def sectionExample : Field :=
  (Field.mandatory "sections" (.list (.object ⟨some "Section",
    [kindExample, .voluntary "note" .string]⟩))).withDescription "The sections"

/-- Sections and their number. -/
def describedExample : Schema where
  title := some "Report"
  fields := [.mandatory "count" .integer, sectionExample]

/-- The same without titles and descriptions and in another order. -/
def undescribedExample : Schema where
  title := none
  fields :=
    [.mandatory "sections" (.list (.object ⟨none,
        [.voluntary "note" .string,
          .voluntary "kind" (.oneOfStrings ["guess", "fact"])]⟩)),
      .mandatory "count" .integer]

theorem rearranged_describedExample :
    (FieldType.object describedExample).Rearranged
      (.object undescribedExample) := by
  have kinds : (FieldType.oneOfStrings ["fact", "guess"]).Rearranged
      (.oneOfStrings ["guess", "fact"]) :=
    .choices (List.Perm.swap (Json.string "guess") (Json.string "fact") [])
  have parts := FieldType.Rearranged.trans
    (.field (some "Section") [] [.voluntary "note" .string]
      kindExample none kinds)
    (.fields (some "Section") none
      (List.Perm.swap (Field.voluntary "note" .string) _ []))
  exact .trans
    (.field (some "Report") [.mandatory "count" .integer] [] sectionExample
      none (.list parts))
    (.fields (some "Report") none
      (List.Perm.swap _ (Field.mandatory "count" .integer) []))

theorem same_schemas_interchangeable_of_describedExample :
    describedExample.same undescribedExample = true ∧
      undescribedExample.same describedExample = true ∧
      (∀ data : Json, data.Distinct -> Value.BothMade
        (Value.construct describedExample data)
        (Value.construct undescribedExample data)) ∧
      describedExample.contains undescribedExample = true ∧
      undescribedExample.contains describedExample = true := by
  obtain ⟨_, equivalence, _, rearranged, interchangeable⟩ :=
    same_schemas_interchangeable
  have formed : describedExample.WellFormed := by
    simp [WellFormed, describedExample, sectionExample, kindExample,
      Field.mandatory, Field.voluntary, Field.withDescription,
      FieldType.oneOfStrings, FieldType.WellFormed, FieldType.AllWellFormed,
      Json.DistinctItems, Json.Distinct]
  have otherFormed : undescribedExample.WellFormed :=
    (rearranged_describedExample.same formed).1
  have agree := rearranged describedExample undescribedExample formed
    rearranged_describedExample
  have back : undescribedExample.same describedExample = true :=
    equivalence.symm (x := ⟨describedExample, formed⟩)
      (y := ⟨undescribedExample, otherFormed⟩)
      agree
  obtain ⟨values, contains, contained, _⟩ :=
    interchangeable describedExample undescribedExample formed otherFormed agree
  exact ⟨agree, back, values, contains, contained⟩

end Schema
end PromptTuning
