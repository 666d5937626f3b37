import PromptTuning.Proofs.Schema.Narrowing

/-!
# Composition as a meet

A composition has the fields of both schemas, each looked up by merging what the
two schemas have under its name. Types that are the same are interchangeable on
the wide side of narrowing. Hence a schema contains a composition exactly when
it contains both parts, and the composition contains each of them.
-/

namespace PromptTuning

namespace FieldType

/-- A literal that occurs among choices occurs as often among the
same choices. -/
theorem exists_sameLiteral_of_mem
    {left right : List Json}
    (agree : sameChoices left right = true)
    {literal : Json}
    (distinct : literal.Distinct)
    (listed : literal ∈ left) :
    ∃ other ∈ right, sameLiteral literal other = true := by
  simp only [sameChoices, Bool.and_eq_true, beq_iff_eq,
    List.all_eq_true] at agree
  have occurs : 0 < countLiteral left literal :=
    List.countP_pos_iff.mpr ⟨literal, listed, sameLiteral_self distinct⟩
  rw [agree.2 literal listed] at occurs
  exact List.countP_pos_iff.mp occurs

/-- Every field of a schema has its counterpart among the fields of one that
is the same. -/
theorem exists_counterpart_of_mem
    {fields others : List Field}
    (distinct : (fields.map (·.name)).Nodup)
    (othersDistinct : (others.map (·.name)).Nodup)
    (lengths : fields.length = others.length)
    (within : fieldsWithin fields others = true)
    {other : Field}
    (declared : other ∈ others) :
    ∃ field ∈ fields, Counterpart field other := by
  obtain ⟨field, stored, named⟩ :=
    exists_name_of_fieldsWithin distinct lengths within ⟨other, declared, rfl⟩
  obtain ⟨found, present, pair⟩ :=
    exists_counterpart_of_fieldsWithin within field stored
  obtain rfl : found = other :=
    List.inj_on_of_nodup_map othersDistinct present declared
      (pair.name.trans named)
  exact ⟨field, stored, pair⟩

/-- A type that is narrower than another is narrower than every type that
is the same. -/
theorem isNarrowerThan_of_same
    (wide other narrow : FieldType)
    (unambiguous : wide.Unambiguous)
    (otherUnambiguous : other.Unambiguous)
    (agree : wide.same other = true)
    (narrower : narrow.isNarrowerThan wide = true) :
    narrow.isNarrowerThan other = true := by
  induction wide generalizing other narrow with
  | any =>
      cases other <;> simp only [same, Bool.false_eq_true] at agree
      exact isNarrowerThan_any narrow
  | string | integer | number | boolean =>
      cases other <;> simp only [same, Bool.false_eq_true] at agree
      exact narrower
  | oneOf choices =>
      obtain ⟨others, rfl, agree⟩ := same_oneOf_iff.mp agree
      rw [Unambiguous, distinctItems_iff] at unambiguous
      obtain ⟨values, rfl, matched⟩ := isNarrowerThan_oneOf_iff.mp narrower
      refine isNarrowerThan_oneOf_iff.mpr
        ⟨values, rfl, fun literal listed => ?_⟩
      obtain ⟨choice, present, first⟩ := matched literal listed
      obtain ⟨counterpart, stored, second⟩ :=
        exists_sameLiteral_of_mem agree (unambiguous choice present) present
      exact ⟨counterpart, stored, sameLiteral_trans first second⟩
  | list wide inner =>
      obtain ⟨other, rfl, agree⟩ := same_list_iff.mp agree
      obtain ⟨item, rfl, narrower⟩ := isNarrowerThan_list_iff.mp narrower
      exact isNarrowerThan_list_iff.mpr
        ⟨item, rfl,
          inner other item unambiguous otherUnambiguous agree narrower⟩
  | map wide inner =>
      obtain ⟨other, rfl, agree⟩ := same_map_iff.mp agree
      obtain ⟨value, rfl, narrower⟩ := isNarrowerThan_map_iff.mp narrower
      exact isNarrowerThan_map_iff.mpr
        ⟨value, rfl,
          inner other value unambiguous otherUnambiguous agree narrower⟩
  | optional wide inner =>
      obtain ⟨other, rfl, agree⟩ := same_optional_iff.mp agree
      rw [isNarrowerThan_optional_iff] at narrower ⊢
      obtain ⟨present, rfl, narrower⟩ | ⟨bare, narrower⟩ := narrower
      · exact .inl
          ⟨present, rfl,
            inner other present unambiguous otherUnambiguous agree narrower⟩
      · exact .inr
          ⟨bare, inner other narrow unambiguous otherUnambiguous agree narrower⟩
  | object title fields types =>
      obtain ⟨⟨_, others⟩, rfl, lengths, within⟩ := same_object_iff.mp agree
      rw [Unambiguous, allUnambiguous_iff] at unambiguous otherUnambiguous
      obtain ⟨schema, rfl, covered⟩ := isNarrowerThan_object_iff.mp narrower
      refine isNarrowerThan_object_iff.mpr
        ⟨schema, rfl, fun wanted declared => ?_⟩
      obtain ⟨field, stored, pair⟩ :=
        exists_counterpart_of_mem unambiguous.1 otherUnambiguous.1
          lengths within declared
      obtain ⟨found, present, serves⟩ := covered field stored
      refine ⟨found, by rw [pair.name, present], ?_, fun needed => ?_⟩
      · exact types field stored wanted.type found.type
          (unambiguous.2 field stored)
          (otherUnambiguous.2 wanted declared) pair.type serves.type
      · exact serves.required (pair.required.trans needed)

end FieldType

namespace Field

/-- A field serves where a merged one is wanted exactly when it serves for
both sides. -/
theorem serves_merge_iff
    {found left right : Field}
    (leftUnambiguous : left.type.Unambiguous)
    (rightUnambiguous : right.type.Unambiguous)
    (agree : left.type.same right.type = true) :
    found.Serves (left.merge right) ↔
    found.Serves left ∧ found.Serves right := by
  constructor
  · intro serves
    have flags (needed : (left.required || right.required) = true) :
        found.required = true :=
      serves.required needed
    refine ⟨⟨serves.type, fun needed => flags (by simp [needed])⟩, ?_,
      fun needed => flags (by simp [needed])⟩
    exact FieldType.isNarrowerThan_of_same left.type right.type
      found.type leftUnambiguous
      rightUnambiguous agree serves.type
  · rintro ⟨servesLeft, servesRight⟩
    refine ⟨servesLeft.type, fun needed => ?_⟩
    have either : (left.required || right.required) = true := needed
    rw [Bool.or_eq_true] at either
    exact either.elim servesLeft.required servesRight.required

end Field

namespace Schema

/-- A schema is unambiguous if its names are distinct and its types
unambiguous. -/
theorem unambiguous_iff {schema : Schema} :
    schema.Unambiguous ↔
    schema.Distinct ∧ ∀ field ∈ schema.fields, field.type.Unambiguous := by
  obtain ⟨title, fields⟩ := schema
  rw [Unambiguous, FieldType.Unambiguous, FieldType.allUnambiguous_iff]
  rfl

/-- Under the name of the merged field stands the merge, under other names
nothing changes. -/
theorem find?_mergeField
    {right : Field}
    {fields merged : List Field}
    (done : mergeField right fields = .ok merged)
    (name : String) :
    merged.find? (·.name == name) =
      (fields.find? (·.name == name)).merge Field.merge
        (if right.name = name then some right else none) := by
  induction fields generalizing merged with
  | nil =>
      obtain rfl := Except.ok.inj done
      by_cases named : right.name = name <;> simp [named]
  | cons left rest inductionHypothesis =>
      obtain ⟨same, _, rfl⟩ | ⟨different, others, rest', rfl⟩ :=
        mergeField_cons_eq_ok done
      · have kept : (left.merge right).name = left.name := rfl
        by_cases named : right.name = name
        · simp [kept, same, named]
        · simp [kept, same, named]
      · by_cases named : left.name = name
        · subst named
          simp [different.symm]
        · rw [List.find?_cons_of_neg (by simpa using named),
            List.find?_cons_of_neg (by simpa using named),
            inductionHypothesis rest']

/-- A field is merged with one of its type only. -/
theorem same_of_mergeField
    {right left : Field}
    {fields merged : List Field}
    (done : mergeField right fields = .ok merged)
    (found : fields.find? (·.name == right.name) = some left) :
    left.type.same right.type = true := by
  induction fields generalizing merged with
  | nil => simp at found
  | cons first rest inductionHypothesis =>
      obtain ⟨named, agree, _⟩ | ⟨different, others, rest', _⟩ :=
        mergeField_cons_eq_ok done
      · rw [List.find?_cons_of_pos (by simpa using named)] at found
        exact Option.some.inj found ▸ agree
      · rw [List.find?_cons_of_neg (by simpa using different)] at found
        exact inductionHypothesis rest' found

/-- A name is looked up among merged fields by merging what stands under it on
both sides. -/
theorem find?_mergeFields
    {fields others merged : List Field}
    (distinct : (others.map (·.name)).Nodup)
    (done : mergeFields fields others = .ok merged)
    (name : String) :
    merged.find? (·.name == name) =
      (fields.find? (·.name == name)).merge Field.merge
        (others.find? (·.name == name)) := by
  induction others generalizing fields with
  | nil =>
      obtain rfl := Except.ok.inj done
      simp
  | cons right rest inductionHypothesis =>
      rw [List.map_cons, List.nodup_cons] at distinct
      obtain ⟨next, step, done⟩ := mergeFields_cons_eq_ok done
      rw [inductionHypothesis distinct.2 done, find?_mergeField step]
      by_cases named : right.name = name
      · have absent : rest.find? (·.name == name) = none := by
          rw [List.find?_eq_none]
          intro field stored same
          have same : field.name = name := by simpa using same
          exact distinct.1
            (named.trans same.symm ▸ List.mem_map.mpr ⟨field, stored, rfl⟩)
        rw [List.find?_cons_of_pos (by simpa using named), absent, if_pos named]
        simp
      · rw [List.find?_cons_of_neg (by simpa using named), if_neg named]
        simp

/-- Fields are merged with those of their types only. -/
theorem same_of_mergeFields
    {fields others merged : List Field}
    (distinct : (others.map (·.name)).Nodup)
    (done : mergeFields fields others = .ok merged)
    {left right : Field}
    (listed : right ∈ others)
    (found : fields.find? (·.name == right.name) = some left) :
    left.type.same right.type = true := by
  induction others generalizing fields with
  | nil => simp at listed
  | cons first rest inductionHypothesis =>
      rw [List.map_cons, List.nodup_cons] at distinct
      obtain ⟨next, step, done⟩ := mergeFields_cons_eq_ok done
      obtain rfl | listed := List.mem_cons.mp listed
      · exact same_of_mergeField step found
      · have different : first.name ≠ right.name := fun same =>
          distinct.1 (same ▸ List.mem_map.mpr ⟨right, listed, rfl⟩)
        refine inductionHypothesis distinct.2 done listed ?_
        rw [find?_mergeField step, if_neg different, found]
        rfl

variable {left right both : Schema}

/-- A composition repeats no name. -/
theorem distinct_of_compose
    (leftDistinct : left.Distinct)
    (done : left.compose right = .ok both) :
    both.Distinct := by
  obtain ⟨fields, merged, rfl⟩ := compose_eq_ok done
  exact nodup_of_mergeFields leftDistinct merged

/-- Under each name a composition has what merging gives there. -/
theorem field?_compose
    (rightDistinct : right.Distinct)
    (done : left.compose right = .ok both)
    (name : String) :
    both.field? name =
      (left.field? name).merge Field.merge (right.field? name) := by
  obtain ⟨fields, merged, rfl⟩ := compose_eq_ok done
  exact find?_mergeFields rightDistinct merged name

/-- Fields that both parts of a composition have are of the same type. -/
theorem same_of_compose
    (rightDistinct : right.Distinct)
    (done : left.compose right = .ok both)
    {name : String}
    {first second : Field}
    (leftFound : left.field? name = some first)
    (rightFound : right.field? name = some second) :
    first.type.same second.type = true := by
  obtain ⟨fields, merged, rfl⟩ := compose_eq_ok done
  obtain ⟨listed, rfl⟩ := (field?_eq_some_iff rightDistinct).mp rightFound
  exact same_of_mergeFields rightDistinct merged listed leftFound

/-- Containment of a schema with distinct names, read off by
looking names up. -/
theorem contains_iff_field? {schema needle : Schema}
    (distinct : needle.Distinct) :
    schema.contains needle = true ↔
      ∀ name wanted, needle.field? name = some wanted ->
        ∃ found, schema.field? name = some found ∧ found.Serves wanted := by
  rw [contains_iff]
  constructor
  · intro covered name wanted present
    obtain ⟨declared, rfl⟩ := (field?_eq_some_iff distinct).mp present
    exact covered wanted declared
  · intro covered wanted declared
    exact covered wanted.name wanted
      ((field?_eq_some_iff distinct).mpr ⟨declared, rfl⟩)

/-- A schema contains a composition exactly if it contains both parts. -/
theorem contains_compose_iff
    (leftUnambiguous : left.Unambiguous)
    (rightUnambiguous : right.Unambiguous)
    (done : left.compose right = .ok both)
    (schema : Schema) :
    schema.contains both = true ↔
      schema.contains left = true ∧ schema.contains right = true := by
  obtain ⟨leftDistinct, leftTypes⟩ := unambiguous_iff.mp leftUnambiguous
  obtain ⟨rightDistinct, rightTypes⟩ := unambiguous_iff.mp rightUnambiguous
  have merged {name : String} {first second : Field}
      (leftFound : left.field? name = some first)
      (rightFound : right.field? name = some second) (found : Field) :
      found.Serves (first.merge second) ↔
      found.Serves first ∧ found.Serves second :=
    Field.serves_merge_iff
      (leftTypes first ((field?_eq_some_iff leftDistinct).mp leftFound).1)
      (rightTypes second ((field?_eq_some_iff rightDistinct).mp rightFound).1)
      (same_of_compose rightDistinct done leftFound rightFound)
  rw [contains_iff_field? (distinct_of_compose leftDistinct done),
    contains_iff_field? leftDistinct, contains_iff_field? rightDistinct]
  simp only [field?_compose rightDistinct done]
  constructor
  · intro covered
    constructor
    · intro name first leftFound
      cases rightFound : right.field? name with
      | none => exact covered name first (by rw [leftFound, rightFound]; rfl)
      | some second =>
          obtain ⟨found, present, serves⟩ := covered name (first.merge second)
            (by rw [leftFound, rightFound]; rfl)
          exact ⟨found, present,
            ((merged leftFound rightFound found).mp serves).1⟩
    · intro name second rightFound
      cases leftFound : left.field? name with
      | none => exact covered name second (by rw [leftFound, rightFound]; rfl)
      | some first =>
          obtain ⟨found, present, serves⟩ := covered name (first.merge second)
            (by rw [leftFound, rightFound]; rfl)
          exact ⟨found, present,
            ((merged leftFound rightFound found).mp serves).2⟩
  · rintro ⟨coversLeft, coversRight⟩ name wanted present
    cases leftFound : left.field? name with
    | none =>
        rw [leftFound, Option.merge_none_left] at present
        exact coversRight name wanted present
    | some first =>
        obtain ⟨found, stored, servesFirst⟩ := coversLeft name first leftFound
        cases rightFound : right.field? name with
        | none =>
            rw [leftFound, rightFound] at present
            exact ⟨found, stored, Option.some.inj present ▸ servesFirst⟩
        | some second =>
            obtain ⟨other, again, servesSecond⟩ :=
              coversRight name second rightFound
            rw [stored] at again
            obtain rfl := Option.some.inj again
            rw [leftFound, rightFound] at present
            exact ⟨found, stored, Option.some.inj present ▸
              (merged leftFound rightFound found).mpr
                ⟨servesFirst, servesSecond⟩⟩

/-- A composition of unambiguous schemas is unambiguous. -/
theorem unambiguous_of_compose
    (leftUnambiguous : left.Unambiguous)
    (rightUnambiguous : right.Unambiguous)
    (done : left.compose right = .ok both) :
    both.Unambiguous := by
  obtain ⟨leftDistinct, leftTypes⟩ := unambiguous_iff.mp leftUnambiguous
  obtain ⟨rightDistinct, rightTypes⟩ := unambiguous_iff.mp rightUnambiguous
  have distinct := distinct_of_compose leftDistinct done
  refine unambiguous_iff.mpr ⟨distinct, fun field declared => ?_⟩
  have present := (field?_eq_some_iff distinct).mpr ⟨declared, rfl⟩
  rw [field?_compose rightDistinct done] at present
  cases leftFound : left.field? field.name with
  | none =>
      rw [leftFound, Option.merge_none_left] at present
      exact rightTypes field ((field?_eq_some_iff rightDistinct).mp present).1
  | some first =>
      have unambiguous :=
        leftTypes first ((field?_eq_some_iff leftDistinct).mp leftFound).1
      cases rightFound : right.field? field.name with
      | none =>
          rw [leftFound, rightFound] at present
          exact Option.some.inj present ▸ unambiguous
      | some second =>
          rw [leftFound, rightFound] at present
          exact Option.some.inj present ▸ unambiguous

/-- An unambiguous schema contains itself. -/
theorem contains_self {schema : Schema} (unambiguous : schema.Unambiguous) :
    schema.contains schema = true := by
  rw [contains_eq_isNarrowerThan]
  exact FieldType.isNarrowerThan_self (.object schema) unambiguous

/-- A composition contains both of its parts. -/
theorem contains_parts_of_compose
    (leftUnambiguous : left.Unambiguous)
    (rightUnambiguous : right.Unambiguous)
    (done : left.compose right = .ok both) :
    both.contains left = true ∧ both.contains right = true :=
  (contains_compose_iff leftUnambiguous rightUnambiguous done both).mp
    (contains_self
      (unambiguous_of_compose leftUnambiguous rightUnambiguous done))

/-- Composition is the meet of containment: a schema contains the composition
of two schemas exactly when it contains both, and the composition contains
each of them. -/
theorem compose_is_meet
    (leftUnambiguous : left.Unambiguous)
    (rightUnambiguous : right.Unambiguous)
    (done : left.compose right = .ok both)
    (schema : Schema) :
    (schema.contains both = true ↔
      schema.contains left = true ∧ schema.contains right = true) ∧
      both.contains left = true ∧ both.contains right = true := by
  have meet := contains_compose_iff leftUnambiguous rightUnambiguous done
  refine ⟨meet schema, (meet both).mp ?_⟩
  rw [contains_eq_isNarrowerThan]
  exact FieldType.isNarrowerThan_self (.object both)
    (unambiguous_of_compose leftUnambiguous rightUnambiguous done)

/-- A choice and a nested object, the object being optional. -/
def choiceExample : Schema where
  title := none
  fields :=
    [.mandatory "role" (.oneOf [.string "user", .string "tool"]),
      .voluntary "entity" (.object ⟨some "Entity",
        [.mandatory "label" .string, .voluntary "score" .number]⟩)]

/-- The same choice and object in another order, the choice being optional,
and a note. -/
def reorderedExample : Schema where
  title := none
  fields :=
    [.voluntary "note" .any,
      .mandatory "entity" (.object ⟨none,
        [.voluntary "score" .number, .mandatory "label" .string]⟩),
      .voluntary "role" (.oneOf [.string "tool", .string "user"])]

theorem compose_is_meet_of_reorderedExample :
    ∃ both, choiceExample.compose reorderedExample = .ok both ∧
      both.contains choiceExample = true ∧
      both.contains reorderedExample = true ∧
      (choiceExample.contains both = true ↔
        choiceExample.contains choiceExample = true ∧
          choiceExample.contains reorderedExample = true) := by
  have left : choiceExample.Unambiguous := by
    simp [Unambiguous, choiceExample, Field.mandatory, Field.voluntary,
      FieldType.Unambiguous, FieldType.AllUnambiguous, Json.DistinctItems,
      Json.Distinct]
  have right : reorderedExample.Unambiguous := by
    simp [Unambiguous, reorderedExample, Field.mandatory, Field.voluntary,
      FieldType.Unambiguous, FieldType.AllUnambiguous, Json.DistinctItems,
      Json.Distinct]
  have done : choiceExample.compose reorderedExample = .ok ⟨none,
      [.mandatory "role" (.oneOf [.string "user", .string "tool"]),
        .mandatory "entity" (.object ⟨some "Entity",
          [.mandatory "label" .string, .voluntary "score" .number]⟩),
        .voluntary "note" .any]⟩ := rfl
  obtain ⟨meet, coversLeft, coversRight⟩ :=
    compose_is_meet left right done choiceExample
  exact ⟨_, done, coversLeft, coversRight, meet⟩

end Schema
end PromptTuning
