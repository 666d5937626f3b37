import PromptTuning.Proofs.Schema.Equivalence

/-!
# Composition as a partial monoid

Two schemas compose exactly when the fields that they share have the same types,
and nothing but a conflict prevents it. A composition lists the names of the
left schema and then the new names of the right one, and has under each name
what merging gives. Hence composition is associative, idempotent and has the
empty schema as its unit, up to and including order, titles, defaults and
descriptions; and the two orders of two schemas succeed together.
-/

namespace PromptTuning

/-- The cause is a field that two schemas declare with different types. -/
def SchemaError.IsConflict (cause : SchemaError) : Prop :=
  ∃ field left right, cause = .conflict field left right

namespace Field

instance associative_merge : Std.Associative Field.merge where
  assoc first second third := by
    cases default : first.default <;> cases description : first.description <;>
      simp [merge, Bool.or_assoc, default, description]

instance idempotentOp_merge : Std.IdempotentOp Field.merge where
  idempotent field := by
    obtain ⟨name, type, required, default, description⟩ := field
    cases default <;> cases description <;> simp [merge]

end Field

namespace Schema

/-- The fields that two schemas share have the same types. -/
def Compatible (left right : Schema) : Prop :=
  ∀ name first second, left.field? name = some first ->
    right.field? name = some second ->
    first.type.same second.type = true

section Success

/-- Merging a field into others succeeds, or fails over the type of the field
of its name. -/
theorem mergeField_cases (right : Field) (fields : List Field) :
    (∃ merged, mergeField right fields = .ok merged) ∨
      (∃ cause, mergeField right fields = .error cause ∧ cause.IsConflict) ∧
        ∃ left, fields.find? (·.name == right.name) = some left ∧
          left.type.same right.type = false := by
  induction fields with
  | nil => exact .inl ⟨_, rfl⟩
  | cons left rest inductionHypothesis =>
      rw [mergeField]
      by_cases named : left.name = right.name
      · rw [if_pos named, List.find?_cons_of_pos (by simpa using named)]
        cases agree : left.type.same right.type with
        | true => exact .inl ⟨_, rfl⟩
        | false => exact .inr ⟨⟨_, rfl, _, _, _, rfl⟩, left, rfl, agree⟩
      · rw [if_neg named, List.find?_cons_of_neg (by simpa using named)]
        obtain ⟨merged, done⟩ | ⟨⟨cause, failed, conflict⟩, clash⟩ :=
          inductionHypothesis
        · exact .inl ⟨left :: merged, by rw [done]; rfl⟩
        · exact .inr ⟨⟨cause, by rw [failed]; rfl, conflict⟩, clash⟩

/-- Merging fields of distinct names succeeds, or fails over the types of a
shared name. -/
theorem mergeFields_cases {others : List Field}
    (distinct : (others.map (·.name)).Nodup) (fields : List Field) :
    (∃ merged, mergeFields fields others = .ok merged) ∨
      (∃ cause, mergeFields fields others = .error cause ∧ cause.IsConflict) ∧
        ∃ right ∈ others,
          ∃ left, fields.find? (·.name == right.name) = some left ∧
            left.type.same right.type = false := by
  induction others generalizing fields with
  | nil => exact .inl ⟨_, rfl⟩
  | cons right rest inductionHypothesis =>
      rw [List.map_cons, List.nodup_cons] at distinct
      rw [mergeFields]
      obtain ⟨next, step⟩ | ⟨⟨cause, failed, conflict⟩, left, found, clash⟩ :=
        mergeField_cases right fields
      · rw [step]
        obtain done | ⟨failure, other, listed, left, found, clash⟩ :=
          inductionHypothesis distinct.2 next
        · exact .inl done
        · refine .inr
            ⟨failure, other, List.mem_cons_of_mem right listed, left, ?_, clash⟩
          -- Merging the first field leaves what stands under the other names.
          have different : right.name ≠ other.name := fun same =>
            distinct.1 (same ▸ List.mem_map.mpr ⟨other, listed, rfl⟩)
          rwa [find?_mergeField step, if_neg different,
            Option.merge_none_right] at found
      · exact .inr
          ⟨⟨cause, by rw [failed], conflict⟩, right,
            List.mem_cons_self, left, found,
            clash⟩

/-- Schemas compose if they are compatible, and otherwise they conflict. -/
theorem compose_cases (left : Schema) {right : Schema}
    (rightDistinct : right.Distinct) :
    ((∃ both, left.compose right = .ok both) ∧ left.Compatible right) ∨
      (∃ cause, left.compose right = .error cause ∧ cause.IsConflict) ∧
        ¬ left.Compatible right := by
  obtain ⟨merged, done⟩ |
    ⟨⟨cause, failed, conflict⟩, second, listed, first, found, clash⟩ :=
    mergeFields_cases rightDistinct left.fields
  · have composed : left.compose right =
        .ok ⟨left.title.orElse fun _ => right.title, merged⟩ := by
      rw [compose, done]
      rfl
    exact .inl
      ⟨⟨_, composed⟩, fun _ _ _ => same_of_compose rightDistinct composed⟩
  · refine .inr
      ⟨⟨cause, by rw [compose, failed]; rfl, conflict⟩, fun compatible => ?_⟩
    have present := (field?_eq_some_iff rightDistinct).mpr ⟨listed, rfl⟩
    have agree := compatible second.name first second found present
    rw [clash] at agree
    contradiction

/-- Two schemas compose if the fields that they share have the same types. -/
theorem exists_compose_iff {left right : Schema}
    (rightDistinct : right.Distinct) :
    (∃ both, left.compose right = .ok both) ↔ left.Compatible right := by
  obtain ⟨done, compatible⟩ | ⟨⟨cause, failed, _⟩, incompatible⟩ :=
    compose_cases left rightDistinct
  · exact iff_of_true done compatible
  · exact iff_of_false (by simp [failed]) incompatible

end Success

section Names

/-- A field that is merged is found by its name. -/
theorem mem_names_of_mergeField
    {right : Field}
    {fields merged : List Field}
    (done : mergeField right fields = .ok merged) :
    right.name ∈ merged.map (·.name) := by
  have found := find?_mergeField done right.name
  rw [if_pos rfl] at found
  have present : (merged.find? (·.name == right.name)).isSome = true := by
    rw [found]
    cases fields.find? (·.name == right.name) <;> rfl
  rw [List.find?_isSome] at present
  obtain ⟨field, stored, named⟩ := present
  exact List.mem_map.mpr ⟨field, stored, by simpa using named⟩

/-- Merging fields appends the names that are new, in their order. -/
theorem names_of_mergeFields
    {fields others merged : List Field}
    (distinct : (others.map (·.name)).Nodup)
    (done : mergeFields fields others = .ok merged) :
    merged.map (·.name) = fields.map (·.name) ++
      (others.map (·.name)).filter fun name =>
        !(fields.map (·.name)).contains name := by
  induction others generalizing fields with
  | nil =>
      obtain rfl := Except.ok.inj done
      simp
  | cons right rest inductionHypothesis =>
      rw [List.map_cons, List.nodup_cons] at distinct
      obtain ⟨next, step, done⟩ := mergeFields_cons_eq_ok done
      rw [inductionHypothesis distinct.2 done, List.map_cons]
      obtain names | ⟨fresh, names⟩ := names_of_mergeField step
      · have listed := mem_names_of_mergeField step
        rw [names] at listed ⊢
        rw [List.filter_cons_of_neg (by simpa using listed)]
      · rw [names, List.filter_cons_of_pos (by simpa using fresh),
          List.append_assoc, List.singleton_append]
        -- No later name is the one just appended.
        have unchanged : ∀ name ∈ rest.map (·.name),
            (!(fields.map (·.name) ++ [right.name]).contains name) =
              !(fields.map (·.name)).contains name := by
          intro name later
          have different : name ≠ right.name := fun same =>
            distinct.1 (same ▸ later)
          simp [different]
        rw [List.filter_congr unchanged]

variable {left right both : Schema}

/-- A composition lists the names of the left schema and then the new ones
of the right. -/
theorem names_of_compose (rightDistinct : right.Distinct)
    (done : left.compose right = .ok both) :
    both.names =
      left.names ++
      right.names.filter fun name => !left.names.contains name := by
  obtain ⟨fields, merged, rfl⟩ := compose_eq_ok done
  exact names_of_mergeFields rightDistinct merged

/-- A composition has the title of the left schema, or else that of
the right one. -/
theorem title_of_compose (done : left.compose right = .ok both) :
    both.title = left.title.orElse fun _ => right.title := by
  obtain ⟨fields, merged, rfl⟩ := compose_eq_ok done
  rfl

end Names

/-- A schema without repeated names is what is found under its
names, in order. -/
theorem fields_eq_filterMap {schema : Schema} (distinct : schema.Distinct) :
    schema.fields = schema.names.filterMap schema.field? := by
  rw [names, List.filterMap_map]
  calc
    schema.fields = schema.fields.filterMap some := List.filterMap_some.symm
    _ = schema.fields.filterMap (schema.field? ∘ (·.name)) := by
      apply List.filterMap_congr
      intro field declared
      exact ((field?_eq_some_iff distinct).mpr ⟨declared, rfl⟩).symm

/-- A schema is what its title, the order of its names and the fields under
them make it. -/
theorem eq_of_field?_eq
    {left right : Schema}
    (leftDistinct : left.Distinct)
    (rightDistinct : right.Distinct)
    (title : left.title = right.title)
    (names : left.names = right.names)
    (fields : ∀ name, left.field? name = right.field? name) :
    left = right := by
  have listed : left.fields = right.fields := by
    have lookups : left.field? = right.field? := funext fields
    rw [fields_eq_filterMap leftDistinct, fields_eq_filterMap rightDistinct,
      names, lookups]
  obtain ⟨leftTitle, leftFields⟩ := left
  obtain ⟨rightTitle, rightFields⟩ := right
  rw [show leftTitle = rightTitle from title,
    show leftFields = rightFields from listed]

section Types

variable {left right both : Schema} {name : String}

/-- Under a name of the left schema a composition has a field of the
type there. -/
theorem field?_compose_of_left
    (rightDistinct : right.Distinct)
    (done : left.compose right = .ok both)
    {first : Field}
    (found : left.field? name = some first) :
    ∃ field, both.field? name = some field ∧ field.type = first.type := by
  rw [field?_compose rightDistinct done, found]
  cases right.field? name with
  | none => exact ⟨first, rfl, rfl⟩
  | some second => exact ⟨first.merge second, rfl, rfl⟩

/-- A field of a composition has the type of the left schema, or is one of the
right alone. -/
theorem field?_compose_cases
    (rightDistinct : right.Distinct)
    (done : left.compose right = .ok both)
    {field : Field}
    (found : both.field? name = some field) :
    (∃ first, left.field? name = some first ∧ field.type = first.type) ∨
      left.field? name = none ∧ right.field? name = some field := by
  cases leftFound : left.field? name with
  | none =>
      rw [field?_compose rightDistinct done, leftFound,
        Option.merge_none_left] at found
      exact .inr ⟨rfl, found⟩
  | some first =>
      obtain ⟨other, again, type⟩ :=
        field?_compose_of_left rightDistinct done leftFound
      rw [found] at again
      obtain rfl := Option.some.inj again
      exact .inl ⟨first, rfl, type⟩

/-- Under any other name a composition has what the right schema has. -/
theorem field?_compose_of_right
    (rightDistinct : right.Distinct)
    (done : left.compose right = .ok both)
    (missing : left.field? name = none) :
    both.field? name = right.field? name := by
  rw [field?_compose rightDistinct done, missing, Option.merge_none_left]

/-- A composition has a field under a name if one of its parts does. -/
theorem exists_field?_compose_iff
    (rightDistinct : right.Distinct)
    (done : left.compose right = .ok both) :
    (∃ field, both.field? name = some field) ↔
      (∃ field, left.field? name = some field) ∨
      ∃ field, right.field? name = some field := by
  rw [field?_compose rightDistinct done]
  cases left.field? name <;> cases right.field? name <;> simp

/-- The type of a field of a well-formed schema is well-formed. -/
theorem WellFormed.type_of_field? {schema : Schema} (formed : schema.WellFormed)
    {field : Field}
    (found : schema.field? name = some field) : field.type.WellFormed :=
  ((wellFormed_iff.mp formed).2 field (mem_of_field? found).1).type

end Types

section Laws

variable {first second third both : Schema}

/-- A composition is compatible with what both of its parts are
compatible with. -/
theorem compatible_compose_left_iff
    (firstFormed : first.WellFormed)
    (secondFormed : second.WellFormed)
    (thirdFormed : third.WellFormed)
    (done : first.compose second = .ok both) :
    both.Compatible third ↔
    first.Compatible third ∧ second.Compatible third := by
  have distinct := (wellFormed_iff.mp secondFormed).1
  have compatible := (exists_compose_iff distinct).mp ⟨both, done⟩
  constructor
  · intro agree
    have firstAgrees : first.Compatible third := by
      intro name mine other found foundOther
      obtain ⟨field, present, type⟩ :=
        field?_compose_of_left distinct done found
      exact type ▸ agree name field other present foundOther
    refine ⟨firstAgrees, fun name mine other found foundOther => ?_⟩
    cases foundFirst : first.field? name with
    | none =>
        rw [← field?_compose_of_right distinct done foundFirst] at found
        exact agree name mine other found foundOther
    | some shared =>
        have sharedType := firstFormed.type_of_field? foundFirst
        have mineType := secondFormed.type_of_field? found
        have back := FieldType.same_symm shared.type mine.type
          sharedType mineType (compatible name shared mine foundFirst found)
        exact FieldType.same_trans mine.type shared.type other.type
          mineType sharedType (thirdFormed.type_of_field? foundOther)
          back (firstAgrees name shared other foundFirst foundOther)
  · rintro ⟨firstAgrees, secondAgrees⟩ name field other found foundOther
    obtain ⟨mine, foundFirst, type⟩ | ⟨_, foundSecond⟩ :=
      field?_compose_cases distinct done found
    · exact type ▸ firstAgrees name mine other foundFirst foundOther
    · exact secondAgrees name field other foundSecond foundOther

/-- What is compatible with a composition is compatible with both
of its parts. -/
theorem compatible_compose_right_iff
    (firstFormed : first.WellFormed)
    (secondFormed : second.WellFormed)
    (thirdFormed : third.WellFormed)
    (done : second.compose third = .ok both) :
    first.Compatible both ↔
    first.Compatible second ∧ first.Compatible third := by
  have distinct := (wellFormed_iff.mp thirdFormed).1
  have compatible := (exists_compose_iff distinct).mp ⟨both, done⟩
  constructor
  · intro agree
    have secondAgrees : first.Compatible second := by
      intro name mine other found foundOther
      obtain ⟨field, present, type⟩ :=
        field?_compose_of_left distinct done foundOther
      exact type ▸ agree name mine field found present
    refine ⟨secondAgrees, fun name mine other found foundOther => ?_⟩
    cases foundSecond : second.field? name with
    | none =>
        rw [← field?_compose_of_right distinct done foundSecond] at foundOther
        exact agree name mine other found foundOther
    | some shared =>
        exact FieldType.same_trans mine.type shared.type other.type
          (firstFormed.type_of_field? found)
          (secondFormed.type_of_field? foundSecond)
          (thirdFormed.type_of_field? foundOther)
          (secondAgrees name mine shared found foundSecond)
          (compatible name shared other foundSecond foundOther)
  · rintro ⟨secondAgrees, thirdAgrees⟩ name mine field found foundBoth
    obtain ⟨shared, foundSecond, type⟩ | ⟨_, foundThird⟩ :=
      field?_compose_cases distinct done foundBoth
    · exact type ▸ secondAgrees name mine shared found foundSecond
    · exact thirdAgrees name mine field found foundThird

/-- Two groupings of three schemas that both compose give the same schema. -/
theorem eq_of_groupings
    (firstDistinct : first.Distinct)
    (secondDistinct : second.Distinct)
    (thirdDistinct : third.Distinct)
    {start finish left right : Schema}
    (starts : first.compose second = .ok start)
    (finishes : second.compose third = .ok finish)
    (leftDone : start.compose third = .ok left)
    (rightDone : first.compose finish = .ok right) :
    left = right := by
  have startDistinct := distinct_of_compose firstDistinct starts
  have finishDistinct := distinct_of_compose secondDistinct finishes
  refine eq_of_field?_eq (distinct_of_compose startDistinct leftDone)
    (distinct_of_compose firstDistinct rightDone) ?_ ?_ fun name => ?_
  · rw [title_of_compose leftDone, title_of_compose starts,
      title_of_compose rightDone, title_of_compose finishes]
    cases first.title <;> rfl
  · rw [names_of_compose thirdDistinct leftDone,
      names_of_compose secondDistinct starts,
      names_of_compose finishDistinct rightDone,
      names_of_compose thirdDistinct finishes, List.filter_append,
      List.filter_filter, List.append_assoc]
    congr 2
    apply List.filter_congr
    intro name _
    by_cases old : name ∈ first.names <;> simp [old]
  · rw [field?_compose thirdDistinct leftDone,
      field?_compose secondDistinct starts,
      field?_compose finishDistinct rightDone,
      field?_compose thirdDistinct finishes]
    exact Std.Associative.assoc _ _ _

/-- The empty schema is a unit from the left. -/
theorem empty_compose (distinct : first.Distinct) :
    empty.compose first = .ok first := by
  have nothing : empty.Distinct := List.nodup_nil
  have compatible : empty.Compatible first := nofun
  obtain ⟨both, done⟩ := (exists_compose_iff distinct).mpr compatible
  rw [done, eq_of_field?_eq (distinct_of_compose nothing done) distinct
    (title_of_compose done) ?_ fun name =>
    field?_compose_of_right distinct done rfl]
  rw [names_of_compose distinct done]
  exact List.filter_eq_self.mpr fun _ _ => rfl

/-- The empty schema is a unit from the right. -/
theorem compose_empty (schema : Schema) :
    schema.compose empty = .ok schema := by
  obtain ⟨title, fields⟩ := schema
  cases title <;> rfl

/-- A schema composed with itself is itself. -/
theorem compose_self (formed : first.WellFormed) :
    first.compose first = .ok first := by
  have distinct := (wellFormed_iff.mp formed).1
  have compatible : first.Compatible first := by
    intro name mine other found again
    rw [found] at again
    obtain rfl := Option.some.inj again
    exact FieldType.same_self mine.type (formed.type_of_field? found)
  obtain ⟨both, done⟩ := (exists_compose_iff distinct).mpr compatible
  rw [done,
    eq_of_field?_eq (distinct_of_compose distinct done) distinct ?_
      ?_ fun name => ?_]
  · rw [title_of_compose done]
    cases first.title <;> rfl
  · rw [names_of_compose distinct done, List.append_right_eq_self,
      List.filter_eq_nil_iff]
    intro name listed
    simpa using listed
  · rw [field?_compose distinct done]
    exact Std.IdempotentOp.idempotent _

/-- Which of two schemas comes first does not matter for whether
they compose. -/
theorem Compatible.symm
    (compatible : first.Compatible second)
    (firstFormed : first.WellFormed)
    (secondFormed : second.WellFormed) :
    second.Compatible first := by
  intro name mine other found foundOther
  exact FieldType.same_symm other.type mine.type
    (firstFormed.type_of_field? foundOther)
    (secondFormed.type_of_field? found)
    (compatible name other mine foundOther found)

/-- Grouped to the left, three schemas compose if each two are compatible, and
otherwise they conflict. -/
theorem compose_left_cases
    (firstFormed : first.WellFormed)
    (secondFormed : second.WellFormed)
    (thirdFormed : third.WellFormed) :
    (∃ start whole, first.compose second = .ok start ∧
        start.compose third = .ok whole ∧
        first.Compatible second ∧ first.Compatible third ∧
        second.Compatible third) ∨
      (∃ cause,
        ((first.compose second).bind fun start => start.compose third) =
          .error cause ∧
        cause.IsConflict) ∧
        ¬ (first.Compatible second ∧ first.Compatible third ∧
          second.Compatible third) := by
  have secondDistinct := (wellFormed_iff.mp secondFormed).1
  have thirdDistinct := (wellFormed_iff.mp thirdFormed).1
  obtain ⟨⟨start, starts⟩, compatible⟩ | ⟨⟨cause, failed, conflict⟩, clash⟩ :=
    compose_cases first secondDistinct
  · have parts :=
      compatible_compose_left_iff firstFormed secondFormed thirdFormed starts
    obtain ⟨⟨whole, done⟩, agree⟩ | ⟨⟨cause, failed, conflict⟩, clash⟩ :=
      compose_cases start thirdDistinct
    · exact .inl ⟨start, whole, starts, done, compatible, parts.mp agree⟩
    · refine .inr ⟨⟨cause, ?_, conflict⟩, fun all => clash (parts.mpr all.2)⟩
      rw [starts]
      exact failed
  · refine .inr ⟨⟨cause, ?_, conflict⟩, fun all => clash all.1⟩
    rw [failed]
    rfl

/-- Grouped to the right, three schemas compose if each two are compatible, and
otherwise they conflict. -/
theorem compose_right_cases
    (firstFormed : first.WellFormed)
    (secondFormed : second.WellFormed)
    (thirdFormed : third.WellFormed) :
    (∃ finish whole, second.compose third = .ok finish ∧
        first.compose finish = .ok whole ∧
        first.Compatible second ∧ first.Compatible third ∧
        second.Compatible third) ∨
      (∃ cause,
        ((second.compose third).bind fun finish => first.compose finish) =
          .error cause ∧
        cause.IsConflict) ∧
        ¬ (first.Compatible second ∧ first.Compatible third ∧
          second.Compatible third) := by
  have secondDistinct := (wellFormed_iff.mp secondFormed).1
  have thirdDistinct := (wellFormed_iff.mp thirdFormed).1
  obtain ⟨⟨finish, finishes⟩, compatible⟩ |
    ⟨⟨cause, failed, conflict⟩, clash⟩ :=
    compose_cases second thirdDistinct
  · have parts := compatible_compose_right_iff firstFormed secondFormed
      thirdFormed finishes
    obtain ⟨⟨whole, done⟩, agree⟩ | ⟨⟨cause, failed, conflict⟩, clash⟩ :=
      compose_cases first (distinct_of_compose secondDistinct finishes)
    · have both := parts.mp agree
      exact .inl ⟨finish, whole, finishes, done, both.1, both.2, compatible⟩
    · refine .inr
        ⟨⟨cause, ?_, conflict⟩, fun all => clash (parts.mpr ⟨all.1, all.2.1⟩)⟩
      rw [finishes]
      exact failed
  · refine .inr ⟨⟨cause, ?_, conflict⟩, fun all => clash all.2.2⟩
    rw [failed]
    rfl

/-- Both groupings of three schemas give one and the same schema, or
both conflict. -/
theorem compose_assoc
    (firstFormed : first.WellFormed)
    (secondFormed : second.WellFormed)
    (thirdFormed : third.WellFormed) :
    (∃ whole,
        ((first.compose second).bind fun start => start.compose third) =
          .ok whole ∧
        ((second.compose third).bind fun finish => first.compose finish) =
          .ok whole) ∨
      ∃ cause other, cause.IsConflict ∧ other.IsConflict ∧
        ((first.compose second).bind fun start => start.compose third) =
          .error cause ∧
        ((second.compose third).bind fun finish => first.compose finish) =
          .error other := by
  obtain ⟨start, left, starts, leftDone, compatible⟩ |
    ⟨⟨cause, failed, conflict⟩, clash⟩ :=
    compose_left_cases firstFormed secondFormed thirdFormed
  · obtain ⟨finish, right, finishes, rightDone, _⟩ | ⟨_, clash⟩ :=
      compose_right_cases firstFormed secondFormed thirdFormed
    · obtain rfl := eq_of_groupings (wellFormed_iff.mp firstFormed).1
        (wellFormed_iff.mp secondFormed).1 (wellFormed_iff.mp thirdFormed).1
        starts finishes leftDone
        rightDone
      refine .inl ⟨left, ?_, ?_⟩
      · rw [starts]
        exact leftDone
      · rw [finishes]
        exact rightDone
    · exact absurd compatible clash
  · obtain ⟨_, _, _, _, compatible⟩ |
      ⟨⟨other, failedOther, conflictOther⟩, _⟩ :=
      compose_right_cases firstFormed secondFormed thirdFormed
    · exact absurd compatible clash
    · exact .inr ⟨cause, other, conflict, conflictOther, failed, failedOther⟩

/-- The compositions of two schemas in both orders contain each other. -/
theorem contains_of_compose_swap
    (firstUnambiguous : first.Unambiguous)
    (secondUnambiguous : second.Unambiguous)
    {other : Schema}
    (done : first.compose second = .ok both)
    (swapped : second.compose first = .ok other) :
    both.contains other = true := by
  have itself : both.contains both = true := by
    rw [contains_eq_isNarrowerThan]
    exact FieldType.isNarrowerThan_self (.object both)
      (unambiguous_of_compose firstUnambiguous secondUnambiguous done)
  have covers :=
    (contains_compose_iff firstUnambiguous secondUnambiguous done both).mp
      itself
  exact (contains_compose_iff secondUnambiguous firstUnambiguous
    swapped both).mpr covers.symm

/-- Two schemas compose in both orders, to schemas that contain each other, or
in neither. -/
theorem compose_swap (firstFormed : first.WellFormed)
    (secondFormed : second.WellFormed) :
    (∃ both other, first.compose second = .ok both ∧
        second.compose first = .ok other ∧
        both.contains other = true ∧ other.contains both = true) ∨
      ∃ cause other, cause.IsConflict ∧ other.IsConflict ∧
        first.compose second = .error cause ∧
        second.compose first = .error other := by
  have firstDistinct := (wellFormed_iff.mp firstFormed).1
  have firstUnambiguous :=
    FieldType.unambiguous_of_wellFormed (.object first) firstFormed
  have secondUnambiguous :=
    FieldType.unambiguous_of_wellFormed (.object second) secondFormed
  obtain ⟨⟨both, done⟩, compatible⟩ | ⟨⟨cause, failed, conflict⟩, clash⟩ :=
    compose_cases first (wellFormed_iff.mp secondFormed).1
  · obtain ⟨other, swapped⟩ :=
      (exists_compose_iff firstDistinct).mpr
        (compatible.symm firstFormed secondFormed)
    exact .inl ⟨both, other, done, swapped,
      contains_of_compose_swap firstUnambiguous secondUnambiguous done swapped,
      contains_of_compose_swap secondUnambiguous firstUnambiguous swapped done⟩
  · obtain ⟨_, compatible⟩ | ⟨⟨other, failedOther, conflictOther⟩, _⟩ :=
      compose_cases second firstDistinct
    · exact absurd (compatible.symm secondFormed firstFormed) clash
    · exact .inr ⟨cause, other, conflict, conflictOther, failed, failedOther⟩

end Laws

/-- Composition is an idempotent partial monoid: both groupings of three schemas
give one and the same schema or both conflict, the empty schema is a unit on
both sides, a schema composed with itself is itself, and two schemas compose in
both orders to schemas that contain each other or in neither. -/
theorem compose_is_idempotent_monoid
    {first second third : Schema}
    (firstFormed : first.WellFormed)
    (secondFormed : second.WellFormed)
    (thirdFormed : third.WellFormed) :
    ((∃ whole,
        ((first.compose second).bind fun start => start.compose third) =
          .ok whole ∧
        ((second.compose third).bind fun finish => first.compose finish) =
          .ok whole) ∨
      ∃ cause other, cause.IsConflict ∧ other.IsConflict ∧
        ((first.compose second).bind fun start => start.compose third) =
          .error cause ∧
        ((second.compose third).bind fun finish => first.compose finish) =
          .error other) ∧
      empty.compose first = .ok first ∧ first.compose empty = .ok first ∧
      first.compose first = .ok first ∧
      ((∃ both other, first.compose second = .ok both ∧
          second.compose first = .ok other ∧
          both.contains other = true ∧ other.contains both = true) ∨
        ∃ cause other, cause.IsConflict ∧ other.IsConflict ∧
          first.compose second = .error cause ∧
          second.compose first = .error other) := by
  have distinct := (wellFormed_iff.mp firstFormed).1
  exact ⟨compose_assoc firstFormed secondFormed thirdFormed,
    empty_compose distinct,
    compose_empty first, compose_self firstFormed,
    compose_swap firstFormed secondFormed⟩

/-- A titled schema with a note that has a default and the choice in yet
another order. -/
def noteExample : Schema where
  title := some "Notes"
  fields :=
    [((Field.mandatory "note" .any).withDefault
      (.string "none")).withDescription "What it is for",
      .voluntary "role" (.oneOf [.string "tool", .string "user"])]

theorem wellFormed_choiceExample : choiceExample.WellFormed := by
  simp [WellFormed, choiceExample, Field.mandatory, Field.voluntary,
    FieldType.WellFormed, FieldType.AllWellFormed, Json.DistinctItems,
    Json.Distinct]

theorem wellFormed_reorderedExample : reorderedExample.WellFormed := by
  simp [WellFormed, reorderedExample, Field.mandatory, Field.voluntary,
    FieldType.WellFormed, FieldType.AllWellFormed, Json.DistinctItems,
    Json.Distinct]

theorem wellFormed_noteExample : noteExample.WellFormed := by
  simp [WellFormed, noteExample, Field.mandatory, Field.voluntary,
    Field.withDefault, Field.withDescription, FieldType.WellFormed,
    FieldType.AllWellFormed, FieldType.Accepts, Json.DistinctItems,
    Json.Distinct]

/-- Three schemas that share a choice and a note; the note is required in one of
them and takes its default, its description and the title from another. -/
theorem compose_is_idempotent_monoid_of_noteExample :
    choiceExample.WellFormed ∧ reorderedExample.WellFormed ∧
      noteExample.WellFormed ∧
      ∃ whole,
        ((choiceExample.compose reorderedExample).bind fun start =>
          start.compose noteExample) =
          .ok whole ∧
        ((reorderedExample.compose noteExample).bind fun finish =>
          choiceExample.compose finish) =
          .ok whole ∧
        whole.title = some "Notes" ∧
        whole.names = ["role", "entity", "note"] := by
  obtain ⟨grouped, _⟩ := compose_is_idempotent_monoid wellFormed_choiceExample
    wellFormed_reorderedExample wellFormed_noteExample
  refine ⟨wellFormed_choiceExample, wellFormed_reorderedExample,
    wellFormed_noteExample, ?_⟩
  have done :
      ∃ whole, ((choiceExample.compose reorderedExample).bind fun start =>
        start.compose noteExample) = .ok whole ∧ whole.title = some "Notes" ∧
          whole.names = ["role", "entity", "note"] := ⟨_, rfl, rfl, rfl⟩
  obtain ⟨whole, composed, title, names⟩ := done
  obtain ⟨same, left, right⟩ | ⟨_, _, _, _, failed, _⟩ := grouped
  · rw [composed] at left
    obtain rfl := Except.ok.inj left
    exact ⟨whole, composed, right, title, names⟩
  · rw [composed] at failed
    contradiction

end Schema
end PromptTuning
