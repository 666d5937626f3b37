import PromptTuning.Proofs.Schema.Monoid
import PromptTuning.Proofs.Value.Presence

/-!
# Concatenation follows composition

Two values can be concatenated exactly when their schemas compose: the merged
data always fit, because each required field has a value on the side that
requires it and each default was filled in before. The result has the members of
both, the right ones first in line, in normal form. Conversely the data of a
value of the composition fit each of the two schemas, once the members of the
other are left out.
-/

namespace PromptTuning

namespace Members

/-- In a union a name leads to the member of the right object, or else to that
of the left. -/
theorem lookup_union
    {left right : Members}
    (distinct : right.Distinct)
    (name : String) :
    (left.union right).lookup name =
      (right.lookup name).or (left.lookup name) := by
  unfold union
  induction right generalizing left with
  | nil => rfl
  | cons member rest inductionHypothesis =>
      obtain ⟨key, value⟩ := member
      obtain ⟨fresh, restDistinct⟩ := List.nodup_cons.mp distinct
      rw [List.foldl_cons, inductionHypothesis restDistinct]
      by_cases same : name = key
      · subst same
        rw [lookup_eq_none_iff.mpr fresh, lookup_put_self,
          List.lookup_cons_self]
        rfl
      · have different : (name == key) = false := by simpa using same
        rw [lookup_put_of_ne same, List.lookup_cons, different]

/-- A key of members is a name under which something is found. -/
theorem mem_keys_iff_lookup {members : Members} {name : String} :
    name ∈ members.keys ↔ ∃ value, members.lookup name = some value := by
  rw [← not_iff_not, ← lookup_eq_none_iff]
  cases members.lookup name <;> simp

/-- The keys of a union are those of its two sides. -/
theorem mem_keys_union_iff
    {left right : Members}
    (distinct : right.Distinct)
    {name : String} :
    name ∈ (left.union right).keys ↔ name ∈ left.keys ∨ name ∈ right.keys := by
  simp only [mem_keys_iff_lookup, lookup_union distinct]
  cases right.lookup name <;> simp

end Members

namespace Field

/-- A merged field is required if one of its parts is. -/
theorem required_merge {left right : Field} :
    (left.merge right).required = true ↔
    left.required = true ∨ right.required = true := by
  simp [merge]

/-- A merged field has a default if one of its parts has. -/
theorem isSome_default_merge {left right : Field} :
    (left.merge right).default.isSome = true ↔
      left.default.isSome = true ∨ right.default.isSome = true := by
  cases given : left.default <;> simp [merge, given]

/-- One field takes the place of another: it is required if the other is, and
what its type accepts is accepted by the other type. -/
structure StandsFor (found field : Field) : Prop where
  required : field.required = true -> found.required = true
  accepts :
    ∀ value : Json,
      value.Distinct -> found.type.Accepts value -> field.type.Accepts value

end Field

namespace Schema

variable {left right both : Schema} {name : String} {field : Field}

/-- A field of the left schema has one in the composition that stands for it. -/
theorem exists_standsFor_of_left
    (rightDistinct : right.Distinct)
    (done : left.compose right = .ok both)
    (declared : left.field? name = some field) :
    ∃ found, both.field? name = some found ∧ found.StandsFor field := by
  rw [field?_compose rightDistinct done, declared]
  cases right.field? name with
  | none => exact ⟨field, rfl, id, fun _ _ accepted => accepted⟩
  | some second =>
      exact ⟨field.merge second, rfl,
        fun needed => Field.required_merge.mpr (.inl needed),
        fun _ _ accepted => accepted⟩

/-- A field of the right schema has one in the composition that
stands for it. -/
theorem exists_standsFor_of_right
    (leftFormed : left.WellFormed)
    (rightFormed : right.WellFormed)
    (done : left.compose right = .ok both)
    (declared : right.field? name = some field) :
    ∃ found, both.field? name = some found ∧ found.StandsFor field := by
  have rightDistinct := (wellFormed_iff.mp rightFormed).1
  rw [field?_compose rightDistinct done, declared]
  cases leftDeclared : left.field? name with
  | none => exact ⟨field, rfl, id, fun _ _ accepted => accepted⟩
  | some first =>
      have firstType := leftFormed.type_of_field? leftDeclared
      have fieldType := rightFormed.type_of_field? declared
      have agree := FieldType.same_symm first.type field.type
        firstType fieldType
        (same_of_compose rightDistinct done leftDeclared declared)
      exact ⟨first.merge field, rfl,
        fun needed => Field.required_merge.mpr (.inr needed),
        fun value distinct accepted =>
          FieldType.accepts_of_same field.type first.type value
            fieldType firstType agree distinct accepted⟩

end Schema

namespace Value

variable {left right : Value} {both : Schema}

/-- The data of a conforming value repeat no key. -/
theorem Conforms.distinct_keys {value : Value} (conforms : value.Conforms) :
    value.data.Distinct := by
  have distinct := conforms.distinct
  rw [Json.Distinct] at distinct
  exact distinct.1

/-- What is found in the data of a conforming value repeats no key. -/
theorem Conforms.distinct_of_lookup {value : Value} (conforms : value.Conforms)
    {name : String} {part : Json} (found : value.data.lookup name = some part) :
    part.Distinct := by
  have distinct := conforms.distinct
  rw [Json.Distinct] at distinct
  exact Json.distinct_of_mem distinct.2 (Members.mem_of_lookup found)

/-- What stands under a name belongs to a declared field, whose type
accepts it. -/
theorem Conforms.exists_field {value : Value} (conforms : value.Conforms)
    {name : String} {part : Json} (found : value.data.lookup name = some part) :
    ∃ field,
      value.schema.field? name = some field ∧ field.type.Accepts part := by
  have names := conforms.formed.distinct
  obtain ⟨field, declared, rfl⟩ :=
    conforms.fits.declared name (Members.mem_keys_iff_lookup.mpr ⟨part, found⟩)
  exact ⟨field, (Schema.field?_eq_some_iff names).mpr ⟨declared, rfl⟩,
    (conforms.fits.fields field declared).present part found⟩

/-- A complete value has data for every field that is required or
has a default. -/
theorem Complete.exists_lookup {value : Value} (complete : value.Complete)
    {name : String} {field : Field}
    (found : value.schema.field? name = some field)
    (needed : field.required = true ∨ field.default.isSome = true) :
    ∃ part, value.data.lookup name = some part := by
  obtain ⟨declared, rfl⟩ := Schema.mem_of_field? found
  exact complete field declared needed

section Union

/-- What either value has under a name is accepted by the field of the
composition. -/
theorem accepts_of_lookup_union
    (leftConforms : left.Conforms)
    (rightConforms : right.Conforms)
    (done : left.schema.compose right.schema = .ok both)
    {name : String}
    {field : Field}
    (declared : both.field? name = some field)
    {part : Json}
    (found : (left.data.union right.data).lookup name = some part) :
    field.type.Accepts part := by
  have distinct := rightConforms.formed.distinct
  rw [Members.lookup_union rightConforms.distinct_keys,
    Option.or_eq_some_iff] at found
  obtain ⟨first, leftDeclared, type⟩ | ⟨leftMissing, rightDeclared⟩ :=
    Schema.field?_compose_cases distinct done declared
  · obtain rightFound | ⟨_, leftFound⟩ := found
    · obtain ⟨second, rightDeclared, accepted⟩ :=
        rightConforms.exists_field rightFound
      rw [type]
      exact FieldType.accepts_of_same first.type second.type part
        (leftConforms.formed.type_of_field? leftDeclared)
        (rightConforms.formed.type_of_field? rightDeclared)
        (Schema.same_of_compose distinct done leftDeclared rightDeclared)
        (rightConforms.distinct_of_lookup rightFound) accepted
    · obtain ⟨other, again, accepted⟩ := leftConforms.exists_field leftFound
      rw [leftDeclared] at again
      obtain rfl := Option.some.inj again
      exact type ▸ accepted
  · obtain rightFound | ⟨_, leftFound⟩ := found
    · obtain ⟨other, again, accepted⟩ := rightConforms.exists_field rightFound
      rw [rightDeclared] at again
      obtain rfl := Option.some.inj again
      exact accepted
    · obtain ⟨other, again, _⟩ := leftConforms.exists_field leftFound
      rw [leftMissing] at again
      contradiction

/-- A field of the composition that is required or has a default has a value
on one side. -/
theorem exists_lookup_union
    (rightConforms : right.Conforms)
    (leftComplete : left.Complete)
    (rightComplete : right.Complete)
    (done : left.schema.compose right.schema = .ok both)
    {name : String}
    {field : Field}
    (declared : both.field? name = some field)
    (needed : field.required = true ∨ field.default.isSome = true) :
    ∃ part, (left.data.union right.data).lookup name = some part := by
  have distinct := rightConforms.formed.distinct
  rw [Members.lookup_union rightConforms.distinct_keys]
  rw [Schema.field?_compose distinct done] at declared
  have fromLeft {first : Field}
      (leftDeclared : left.schema.field? name = some first)
      (wanted : first.required = true ∨ first.default.isSome = true) :
      ∃ part,
        (right.data.lookup name).or (left.data.lookup name) = some part := by
    obtain ⟨part, found⟩ := leftComplete.exists_lookup leftDeclared wanted
    rw [found]
    cases right.data.lookup name with
    | none => exact ⟨part, rfl⟩
    | some other => exact ⟨other, rfl⟩
  have fromRight {second : Field}
      (rightDeclared : right.schema.field? name = some second)
      (wanted : second.required = true ∨ second.default.isSome = true) :
      ∃ part,
        (right.data.lookup name).or (left.data.lookup name) = some part := by
    obtain ⟨part, found⟩ := rightComplete.exists_lookup rightDeclared wanted
    exact ⟨part, by rw [found]; rfl⟩
  cases leftDeclared : left.schema.field? name with
  | none =>
      rw [leftDeclared, Option.merge_none_left] at declared
      exact fromRight declared needed
  | some first =>
      cases rightDeclared : right.schema.field? name with
      | none =>
          rw [leftDeclared, rightDeclared] at declared
          obtain rfl := Option.some.inj declared
          exact fromLeft leftDeclared needed
      | some second =>
          rw [leftDeclared, rightDeclared] at declared
          obtain rfl := Option.some.inj declared
          rw [Field.required_merge, Field.isSome_default_merge,
            or_or_or_comm] at needed
          exact needed.elim (fromLeft leftDeclared) (fromRight rightDeclared)

/-- The union of the data of two values fits the composition of
their schemas. -/
theorem admits_union
    (leftBuilt : left.Built)
    (rightBuilt : right.Built)
    (done : left.schema.compose right.schema = .ok both) :
    both.Admits (left.data.union right.data) := by
  have leftConforms := leftBuilt.conforms
  have rightConforms := rightBuilt.conforms
  have rightDistinct := rightConforms.formed.distinct
  have distinct :=
    (Schema.wellFormed_iff.mp
      (leftConforms.formed.compose rightConforms.formed done)).1
  constructor
  · intro field stored
    have declared := (Schema.field?_eq_some_iff distinct).mpr ⟨stored, rfl⟩
    constructor
    · intro part found
      exact accepts_of_lookup_union leftConforms rightConforms
        done declared found
    · intro missing
      by_contra needed
      have wanted : field.required = true := by
        cases required : field.required <;> simp_all
      obtain ⟨part, found⟩ :=
        exists_lookup_union rightConforms leftBuilt.complete
          rightBuilt.complete done declared (.inl wanted)
      rw [missing] at found
      contradiction
  · intro key present
    rw [Members.mem_keys_union_iff rightConforms.distinct_keys,
      Members.mem_keys_iff_lookup,
      Members.mem_keys_iff_lookup] at present
    have declared : ∃ field, both.field? key = some field := by
      rw [Schema.exists_field?_compose_iff rightDistinct done]
      obtain ⟨part, found⟩ | ⟨part, found⟩ := present
      · obtain ⟨field, declared, _⟩ := leftConforms.exists_field found
        exact .inl ⟨field, declared⟩
      · obtain ⟨field, declared, _⟩ := rightConforms.exists_field found
        exact .inr ⟨field, declared⟩
    obtain ⟨field, declared⟩ := declared
    exact ⟨field, Schema.mem_of_field? declared⟩

/-- Built values are concatenated wherever their schemas compose. -/
theorem concat_of_compose
    (leftBuilt : left.Built)
    (rightBuilt : right.Built)
    (done : left.schema.compose right.schema = .ok both) :
    left.concat right =
      .ok ⟨both, both.normalize (left.data.union right.data)⟩ := by
  have made := ofMembers_of_admits (admits_union leftBuilt rightBuilt done)
  unfold concat
  rw [done]
  dsimp only
  rw [made]
  rfl

/-- A concatenation has under each name the normal form of what the right value
has there, or else the left one. No default is filled in. -/
theorem lookup_concat
    (leftBuilt : left.Built)
    (rightBuilt : right.Built)
    (done : left.schema.compose right.schema = .ok both)
    {name : String}
    {field : Field}
    (declared : both.field? name = some field) :
    (both.normalize (left.data.union right.data)).lookup name =
      ((right.data.lookup name).or (left.data.lookup name)).map
        field.type.normalize := by
  have leftConforms := leftBuilt.conforms
  have rightConforms := rightBuilt.conforms
  have distinct :=
    (Schema.wellFormed_iff.mp
      (leftConforms.formed.compose rightConforms.formed done)).1
  obtain ⟨stored, rfl⟩ := Schema.mem_of_field? declared
  rw [← Members.lookup_union rightConforms.distinct_keys, Schema.normalize,
    FieldType.lookup_normalizeFields distinct _ field stored,
    FieldType.normalEntry]
  cases found : (left.data.union right.data).lookup field.name with
  | some part => rfl
  | none =>
      cases default : field.default with
      | none => rfl
      | some value =>
          obtain ⟨part, present⟩ :=
            exists_lookup_union rightConforms leftBuilt.complete
              rightBuilt.complete done declared (.inr (by rw [default]; rfl))
          rw [found] at present
          contradiction

/-- A concatenation has the keys of both values and no other. -/
theorem mem_keys_concat_iff
    (leftBuilt : left.Built)
    (rightBuilt : right.Built)
    (done : left.schema.compose right.schema = .ok both)
    (name : String) :
    name ∈ (both.normalize (left.data.union right.data)).keys ↔
      name ∈ left.data.keys ∨ name ∈ right.data.keys := by
  have rightConforms := rightBuilt.conforms
  have distinct :=
    (Schema.wellFormed_iff.mp
      (leftBuilt.conforms.formed.compose rightConforms.formed done)).1
  rw [← Members.mem_keys_union_iff rightConforms.distinct_keys]
  constructor
  · intro present
    have declared :=
      (FieldType.keys_normalizeFields both.fields _).subset present
    obtain ⟨field, stored, rfl⟩ := List.mem_map.mp declared
    have found := (Schema.field?_eq_some_iff distinct).mpr ⟨stored, rfl⟩
    rw [Members.mem_keys_iff_lookup] at present ⊢
    rw [lookup_concat leftBuilt rightBuilt done found,
      ← Members.lookup_union rightConforms.distinct_keys] at present
    obtain ⟨value, mapped⟩ := present
    obtain ⟨part, given, _⟩ := Option.map_eq_some_iff.mp mapped
    exact ⟨part, given⟩
  · intro present
    obtain ⟨field, stored, rfl⟩ :=
      (admits_union leftBuilt rightBuilt done).declared name present
    have found := (Schema.field?_eq_some_iff distinct).mpr ⟨stored, rfl⟩
    obtain ⟨part, given⟩ := Members.mem_keys_iff_lookup.mp present
    rw [Members.mem_keys_iff_lookup,
      lookup_concat leftBuilt rightBuilt done found,
      ← Members.lookup_union rightConforms.distinct_keys, given]
    exact ⟨_, rfl⟩

end Union

/-- Data fit a part of a schema, once they are cut down to it, if each field of
the part has one that stands for it. -/
theorem construct_restrict
    {whole : Value}
    {part : Schema}
    (built : whole.Built)
    (distinct : part.Distinct)
    (covered : ∀ name field, part.field? name = some field ->
      ∃ found, whole.schema.field? name = some found ∧ found.StandsFor field) :
    ∃ value,
      construct part (.object (whole.restrict part).data) = .ok value := by
  have conforms := built.conforms
  suffices admits : part.Admits (whole.restrict part).data from
    ⟨_, ofMembers_of_admits admits⟩
  constructor
  · intro field stored
    obtain ⟨found, declared, standsFor⟩ :=
      covered field.name field
        ((Schema.field?_eq_some_iff distinct).mpr ⟨stored, rfl⟩)
    have lookup := lookup_restrict whole stored
    constructor
    · intro value present
      rw [lookup] at present
      obtain ⟨again, declaredAgain, accepted⟩ := conforms.exists_field present
      rw [declared] at declaredAgain
      obtain rfl := Option.some.inj declaredAgain
      exact standsFor.accepts value (conforms.distinct_of_lookup present)
        accepted
    · intro missing
      rw [lookup] at missing
      by_contra needed
      have required : field.required = true := by
        cases required : field.required <;> simp_all
      obtain ⟨value, present⟩ :=
        built.complete.exists_lookup declared
          (.inl (standsFor.required required))
      rw [missing] at present
      contradiction
  · intro key present
    obtain ⟨member, kept, rfl⟩ := List.mem_map.mp present
    exact List.mem_map.mp (Schema.declares_iff.mp (List.mem_filter.mp kept).2)

/-- Concatenation agrees with composition. Values of two schemas concatenate
exactly if the schemas compose, and otherwise conflict as they do; the result
has the keys of both values and under each the normal form of the right
content or else the left one, whichever schema it is normalized under. What is
built under the composition is accepted by each of the schemas, cut down to
its fields. -/
theorem concat_agrees_with_compose
    {first second : Schema}
    (firstFormed : first.WellFormed)
    (secondFormed : second.WellFormed) :
    (∀ left right : Value, left.Built -> right.Built ->
      left.schema = first -> right.schema = second ->
        (∃ both whole, first.compose second = .ok both ∧
          left.concat right = .ok whole ∧
          whole.schema = both ∧
          (∀ key, key ∈ whole.data.keys ↔
            key ∈ left.data.keys ∨ key ∈ right.data.keys) ∧
          (∀ key field, both.field? key = some field ->
            whole.field? key =
              ((right.field? key).or (left.field? key)).map
                field.type.normalize) ∧
          ∀ key mine theirs (part : Json), part.Distinct ->
            first.field? key = some mine ->
            second.field? key = some theirs ->
              (mine.type.normalize part).same (theirs.type.normalize part) =
                true) ∨
        ∃ cause, cause.IsConflict ∧ first.compose second = .error cause ∧
          left.concat right = .error (.schema cause)) ∧
      ∀ both (whole : Value), first.compose second = .ok both -> whole.Built ->
        whole.schema = both ->
          (∃ value,
            construct first (.object (whole.restrict first).data) = .ok value) ∧
            ∃ value, construct second (.object (whole.restrict second).data) =
              .ok value := by
  have firstDistinct := (Schema.wellFormed_iff.mp firstFormed).1
  have secondDistinct := (Schema.wellFormed_iff.mp secondFormed).1
  constructor
  · rintro left right leftBuilt rightBuilt rfl rfl
    obtain ⟨⟨both, done⟩, compatible⟩ | ⟨⟨cause, failed, conflict⟩, _⟩ :=
      Schema.compose_cases left.schema secondDistinct
    · refine .inl
        ⟨both, _, done, concat_of_compose leftBuilt rightBuilt done, rfl,
          mem_keys_concat_iff leftBuilt rightBuilt done,
          fun _ _ => lookup_concat leftBuilt rightBuilt done, ?_⟩
      intro key mine theirs part distinct found foundOther
      exact FieldType.same_normalize_of_same mine.type theirs.type part
        (firstFormed.type_of_field? found)
        (secondFormed.type_of_field? foundOther)
        (compatible key mine theirs found foundOther) distinct
    · refine .inr ⟨cause, conflict, failed, ?_⟩
      rw [concat, failed]
  · rintro both whole done built rfl
    exact ⟨construct_restrict built firstDistinct fun _ _ =>
        Schema.exists_standsFor_of_left secondDistinct done,
      construct_restrict built secondDistinct fun _ _ =>
        Schema.exists_standsFor_of_right firstFormed secondFormed done⟩

/-- A choice on the left, and the same choice, an entity and a note
on the right. -/
theorem concat_agrees_with_compose_of_reorderedExample :
    ∃ left right whole : Value,
      construct Schema.choiceExample (.object [("role", .string "user")]) =
        .ok left ∧
        construct Schema.reorderedExample
          (.object
            [("entity", .object [("label", .string "it")]), ("note", .null)]) =
          .ok right ∧
        Schema.choiceExample.WellFormed ∧ Schema.reorderedExample.WellFormed ∧
        left.Built ∧ right.Built ∧ left.concat right = .ok whole ∧
        (∀ key, key ∈ whole.data.keys ↔
          key ∈ left.data.keys ∨ key ∈ right.data.keys) ∧
        ∃ value, construct Schema.reorderedExample
          (.object (whole.restrict Schema.reorderedExample).data) =
          .ok value := by
  have roleDistinct : (Json.object [("role", .string "user")]).Distinct :=
    ⟨List.nodup_singleton "role", trivial, trivial⟩
  have entityDistinct :
      (Json.object
        [("entity", .object [("label", .string "it")]),
          ("note", .null)]).Distinct := by
    simp [Json.Distinct, Json.DistinctMembers, Members.Distinct]
  have roles :
      construct Schema.choiceExample (.object [("role", .string "user")]) =
        .ok ⟨Schema.choiceExample, [("role", .string "user")]⟩ := rfl
  have entities : construct Schema.reorderedExample
      (.object
        [("entity", .object [("label", .string "it")]), ("note", .null)]) =
        .ok ⟨Schema.reorderedExample,
          [("note", .null), ("entity", .object [("label", .string "it")])]⟩ :=
    rfl
  have leftBuilt :=
    Built.construct Schema.wellFormed_choiceExample roleDistinct roles
  have rightBuilt := Built.construct Schema.wellFormed_reorderedExample
    entityDistinct entities
  obtain ⟨agrees, fits⟩ :=
    concat_agrees_with_compose Schema.wellFormed_choiceExample
      Schema.wellFormed_reorderedExample
  have composed :
      ∃ both, Schema.choiceExample.compose Schema.reorderedExample = .ok both :=
    ⟨_, rfl⟩
  obtain ⟨both, done⟩ := composed
  obtain ⟨again, whole, doneAgain, joined, schema, keys, _⟩ |
    ⟨_, _, failed, _⟩ :=
    agrees _ _ leftBuilt rightBuilt rfl rfl
  · have built := Built.concat leftBuilt rightBuilt joined
    exact ⟨_, _, whole, roles, entities, Schema.wellFormed_choiceExample,
      Schema.wellFormed_reorderedExample, leftBuilt, rightBuilt, joined, keys,
      (fits again whole doneAgain built schema).2⟩
  · rw [done] at failed
    contradiction

end Value
end PromptTuning
