import PromptTuning.Proofs.Schema.WellFormed

/-!
# Same types accept the same data

Types that agree up to the order of their fields and choices accept the same
values. Composition relies on it: a merged field keeps the type of the left
schema and may take its default from the right one.
-/

namespace PromptTuning

namespace Number

/-- Numbers that are the same are equal by value. -/
theorem numericallyEqual_of_same {left right : Number}
    (agree : left.same right = true) :
    left.numericallyEqual right = true := by
  rw [numericallyEqual, beq_iff_eq]
  cases left with
  | integer first _ =>
      cases right with
      | integer second _ =>
          obtain rfl : first = second := by simpa [same] using agree
          rfl
      | double => simp [same] at agree
  | double first =>
      cases right with
      | integer => simp [same] at agree
      | double second =>
          have places : first.place = second.place := by
            simpa [same] using agree
          change some first.place = some second.place
          rw [places]

/-- Equality of numbers by value has no direction. -/
theorem numericallyEqual_symm
    {left right : Number}
    (agree : left.numericallyEqual right = true) :
    right.numericallyEqual left = true := by
  simp only [numericallyEqual, beq_iff_eq] at agree ⊢
  exact agree.symm

/-- Numbers that are equal to a third one by value are equal to each other. -/
theorem numericallyEqual_trans
    {first second third : Number}
    (left : first.numericallyEqual second = true)
    (right : second.numericallyEqual third = true) :
    first.numericallyEqual third = true := by
  simp only [numericallyEqual, beq_iff_eq] at left right ⊢
  exact left.trans right

end Number

/-- Literals agree as numbers, or as JSON values. -/
theorem sameLiteral_iff {left right : Json} :
    sameLiteral left right = true ↔
      (∃ first second, left = .number first ∧ right = .number second ∧
        first.numericallyEqual second = true) ∨ left.same right = true := by
  constructor
  · intro agree
    cases left with
    | number first =>
        cases right with
        | number second => exact .inl ⟨first, second, rfl, rfl, agree⟩
        | _ => exact .inr agree
    | _ => exact .inr agree
  · rintro (⟨first, second, rfl, rfl, agree⟩ | agree)
    · exact agree
    · cases left with
      | number first =>
          cases right with
          | number second => exact Number.numericallyEqual_of_same agree
          | _ => exact agree
      | _ => exact agree

/-- A literal without repeated keys is the same as itself. -/
theorem sameLiteral_self {literal : Json} (distinct : literal.Distinct) :
    sameLiteral literal literal = true :=
  sameLiteral_iff.mpr (.inr (Json.same_self literal distinct))

/-- Sameness of literals without repeated keys has no direction. -/
theorem sameLiteral_symm
    {left right : Json}
    (leftDistinct : left.Distinct)
    (rightDistinct : right.Distinct)
    (agree : sameLiteral left right = true) :
    sameLiteral right left = true := by
  rw [sameLiteral_iff] at agree ⊢
  obtain ⟨first, second, leftNumber, rightNumber, agree⟩ | agree := agree
  · exact .inl
      ⟨second, first, rightNumber, leftNumber,
        Number.numericallyEqual_symm agree⟩
  · exact .inr (Json.same_symm left right leftDistinct rightDistinct agree)

/-- Literals that are the same as a third one are the same as each other. -/
theorem sameLiteral_trans
    {first second third : Json}
    (left : sameLiteral first second = true)
    (right : sameLiteral second third = true) :
    sameLiteral first third = true := by
  rw [sameLiteral_iff] at left
  obtain ⟨value, middle, rfl, rfl, agree⟩ | agree := left
  · cases third with
    | number last => exact Number.numericallyEqual_trans agree right
    | _ => simp [sameLiteral, Json.same] at right
  · rw [sameLiteral_iff] at right
    obtain ⟨middle, last, rfl, rfl, numeric⟩ | exact := right
    · cases first with
      | number value =>
          exact Number.numericallyEqual_trans
            (Number.numericallyEqual_of_same agree) numeric
      | _ => simp [Json.same] at agree
    · exact sameLiteral_iff.mpr
        (.inr (Json.same_trans first second third agree exact))

/-- The items of an array repeat no key if none of them does. -/
theorem distinctItems_iff {items : List Json} :
    Json.DistinctItems items ↔ ∀ item ∈ items, item.Distinct := by
  induction items with
  | nil => simp [Json.DistinctItems]
  | cons item rest inductionHypothesis =>
      rw [Json.DistinctItems, inductionHypothesis, List.forall_mem_cons]

namespace FieldType

/-- The literals that differ from a given one. -/
def otherLiterals (literal : Json) (values : List Json) : List Json :=
  values.filter fun value => !sameLiteral literal value

/-- Values are those that are the same as a literal and those that are not. -/
theorem length_otherLiterals (literal : Json) (values : List Json) :
    (otherLiterals literal values).length + countLiteral values literal =
      values.length := by
  induction values with
  | nil => rfl
  | cons value rest inductionHypothesis =>
      unfold otherLiterals countLiteral at inductionHypothesis ⊢
      cases same : sameLiteral literal value with
      | false =>
          rw [List.filter_cons_of_pos (by simp [same]),
            List.countP_cons_of_neg (by simp [same])]
          rw [List.length_cons, List.length_cons]
          omega
      | true =>
          rw [List.filter_cons_of_neg (by simp [same]),
            List.countP_cons_of_pos (by simp [same])]
          rw [List.length_cons]
          omega

/-- Leaving out the literals of one class does not change the size of
another class. -/
theorem countLiteral_otherLiterals
    {literal other : Json}
    {values : List Json}
    (literals : ∀ value ∈ values, value.Distinct)
    (otherDistinct : other.Distinct)
    (different : sameLiteral literal other = false) :
    countLiteral (otherLiterals literal values) other =
      countLiteral values other := by
  rw [countLiteral, countLiteral, otherLiterals, List.countP_filter]
  apply List.countP_congr
  intro value present
  cases same : sameLiteral other value with
  | false => simp
  | true =>
      have apart : sameLiteral literal value = false := by
        cases close : sameLiteral literal value with
        | false => rfl
        | true =>
            have back :=
              sameLiteral_symm otherDistinct (literals value present) same
            rw [sameLiteral_trans close back] at different
            contradiction
      simp [apart]

/-- Choices that hold each literal of the first equally often hold no
other literal. -/
theorem exists_sameLiteral_of_sameChoices
    {left right : List Json}
    (leftDistinct : ∀ value ∈ left, value.Distinct)
    (rightDistinct : ∀ value ∈ right, value.Distinct)
    (agree : sameChoices left right = true) :
    ∀ value ∈ right, ∃ choice ∈ left, sameLiteral choice value = true := by
  simp only [sameChoices, Bool.and_eq_true, beq_iff_eq,
    List.all_eq_true] at agree
  obtain ⟨lengths, counts⟩ := agree
  -- Induction on the size: each round leaves out the class of one literal on
  -- both sides.
  generalize size : left.length = count at lengths
  induction count using Nat.strongRecOn generalizing left right with
  | _ count inductionHypothesis =>
      cases left with
      | nil =>
          have none : right = [] :=
            List.eq_nil_of_length_eq_zero (by rw [← lengths, ← size]; rfl)
          simp [none]
      | cons literal rest =>
          have literalDistinct := leftDistinct literal List.mem_cons_self
          have leftLength := length_otherLiterals literal (literal :: rest)
          have rightLength := length_otherLiterals literal right
          have sameCount := counts literal List.mem_cons_self
          have some : 0 < countLiteral (literal :: rest) literal :=
            List.countP_pos_iff.mpr
              ⟨literal, List.mem_cons_self, sameLiteral_self literalDistinct⟩
          have smaller := @inductionHypothesis
            (otherLiterals literal (literal :: rest)).length
            (by omega) (otherLiterals literal (literal :: rest))
            (otherLiterals literal right)
            (fun value present =>
              leftDistinct value (List.mem_of_mem_filter present))
            (fun value present =>
              rightDistinct value (List.mem_of_mem_filter present))
            (by
              intro other present
              obtain ⟨stored, apart⟩ := List.mem_filter.mp present
              have different : sameLiteral literal other = false := by
                simpa using apart
              have otherDistinct := leftDistinct other stored
              rw [countLiteral_otherLiterals leftDistinct
                otherDistinct different,
                countLiteral_otherLiterals rightDistinct
                  otherDistinct different]
              exact counts other stored)
            rfl (by omega)
          intro value present
          cases same : sameLiteral literal value with
          | true => exact ⟨literal, List.mem_cons_self, same⟩
          | false =>
              obtain ⟨choice, stored, agree⟩ :=
                smaller value (List.mem_filter.mpr ⟨present, by simp [same]⟩)
              exact ⟨choice, List.mem_of_mem_filter stored, agree⟩

/-- A field and its counterpart in a type that is the same. -/
structure Counterpart (field other : Field) : Prop where
  name : other.name = field.name
  type : field.type.same other.type = true
  required : field.required = other.required
  default : sameDefault field.default other.default = true

/-- A field and its counterpart both have a default or both have none. -/
theorem Counterpart.isNone_default {field other : Field}
    (pair : Counterpart field other) :
    field.default.isNone = other.default.isNone := by
  have agree := pair.default
  cases mine : field.default <;> cases theirs : other.default <;>
    simp_all [sameDefault]

/-- Every field that is found among others has a counterpart there. -/
theorem exists_counterpart_of_fieldsWithin {fields others : List Field}
    (within : fieldsWithin fields others = true) :
    ∀ field ∈ fields, ∃ other ∈ others, Counterpart field other := by
  induction fields with
  | nil => simp
  | cons field rest inductionHypothesis =>
      obtain ⟨name, type, required, default, description⟩ := field
      rw [fieldsWithin, Bool.and_eq_true] at within
      obtain ⟨first, remaining⟩ := within
      rw [List.forall_mem_cons]
      refine ⟨?_, inductionHypothesis remaining⟩
      cases found : others.find? (·.name == name) with
      | none => simp [found] at first
      | some other =>
          simp only [found, Bool.and_eq_true, beq_iff_eq] at first
          have named : other.name = name := by simpa using List.find?_some found
          exact ⟨other, List.mem_of_find?_eq_some found,
            ⟨named, first.1.1, first.1.2, first.2⟩⟩

/-- Fields of one number have the names of those whose counterparts they are. -/
theorem exists_name_of_fieldsWithin
    {fields others : List Field}
    (distinct : (fields.map (·.name)).Nodup)
    (lengths : fields.length = others.length)
    (within : fieldsWithin fields others = true)
    {key : String}
    (declared : ∃ other ∈ others, other.name = key) :
    ∃ field ∈ fields, field.name = key := by
  have subset : fields.map (·.name) ⊆ others.map (·.name) := by
    intro name present
    obtain ⟨field, stored, rfl⟩ := List.mem_map.mp present
    obtain ⟨other, found, pair⟩ :=
      exists_counterpart_of_fieldsWithin within field stored
    exact List.mem_map.mpr ⟨other, found, pair.name⟩
  have permuted := (List.Nodup.subperm distinct subset).perm_of_length_le
    (by simp [lengths])
  exact List.mem_map.mp (permuted.mem_iff.mpr (List.mem_map.mpr declared))

section SameType

variable {right : FieldType}

/-- The same type as an enumeration is one with the same choices. -/
theorem same_oneOf_iff {choices : List Json} :
    (oneOf choices).same right = true ↔
      ∃ others, right = .oneOf others ∧ sameChoices choices others = true := by
  constructor
  · intro agree
    cases right with
    | oneOf others => exact ⟨others, rfl, agree⟩
    | _ => contradiction
  · rintro ⟨others, rfl, agree⟩
    exact agree

/-- The same type as a list is a list with items of the same type. -/
theorem same_list_iff {item : FieldType} :
    (list item).same right = true ↔
    ∃ other, right = .list other ∧ item.same other = true := by
  constructor
  · intro agree
    cases right with
    | list other => exact ⟨other, rfl, agree⟩
    | _ => contradiction
  · rintro ⟨other, rfl, agree⟩
    exact agree

/-- The same type as a map is a map with values of the same type. -/
theorem same_map_iff {entry : FieldType} :
    (map entry).same right = true ↔
    ∃ other, right = .map other ∧ entry.same other = true := by
  constructor
  · intro agree
    cases right with
    | map other => exact ⟨other, rfl, agree⟩
    | _ => contradiction
  · rintro ⟨other, rfl, agree⟩
    exact agree

/-- The same type as an optional one is one that holds the same type. -/
theorem same_optional_iff {present : FieldType} :
    (optional present).same right = true ↔
      ∃ other, right = .optional other ∧ present.same other = true := by
  constructor
  · intro agree
    cases right with
    | optional other => exact ⟨other, rfl, agree⟩
    | _ => contradiction
  · rintro ⟨other, rfl, agree⟩
    exact agree

/-- The same type as an object is one with as many fields that are found among
each other. -/
theorem same_object_iff {schema : Schema} :
    (object schema).same right = true ↔
      ∃ other, right = .object other ∧
        schema.fields.length = other.fields.length ∧
        fieldsWithin schema.fields other.fields = true := by
  obtain ⟨_, fields⟩ := schema
  constructor
  · intro agree
    cases right with
    | object other =>
        obtain ⟨_, others⟩ := other
        rw [same, Bool.and_eq_true, beq_iff_eq] at agree
        exact ⟨_, rfl, agree⟩
    | _ => contradiction
  · rintro ⟨⟨_, others⟩, rfl, agree⟩
    rw [same, Bool.and_eq_true, beq_iff_eq]
    exact agree

end SameType

/-- Of two types that are the same, each accepts what the other accepts. -/
theorem accepts_of_same
    (left right : FieldType)
    (value : Json)
    (leftFormed : left.WellFormed)
    (rightFormed : right.WellFormed)
    (agree : left.same right = true)
    (distinct : value.Distinct)
    (accepted : right.Accepts value) :
    left.Accepts value := by
  induction left generalizing right value with
  | any => simp [Accepts]
  | string | integer | number | boolean =>
      cases right <;> simp only [same, Bool.false_eq_true] at agree
      exact accepted
  | oneOf choices =>
      obtain ⟨others, rfl, agree⟩ := same_oneOf_iff.mp agree
      rw [WellFormed, distinctItems_iff] at leftFormed rightFormed
      rw [Accepts] at accepted ⊢
      obtain ⟨other, present, close⟩ := accepted
      obtain ⟨choice, stored, pair⟩ :=
        exists_sameLiteral_of_sameChoices leftFormed rightFormed
          agree other present
      exact ⟨choice, stored, sameLiteral_trans pair close⟩
  | list item inner =>
      obtain ⟨other, rfl, agree⟩ := same_list_iff.mp agree
      rw [Accepts] at accepted ⊢
      obtain ⟨items, rfl, fits⟩ := accepted
      rw [Json.Distinct, distinctItems_iff] at distinct
      exact ⟨items, rfl,
        fun part present => inner other part leftFormed rightFormed agree
          (distinct part present) (fits part present)⟩
  | map entry inner =>
      obtain ⟨other, rfl, agree⟩ := same_map_iff.mp agree
      rw [Accepts] at accepted ⊢
      obtain ⟨members, rfl, fits⟩ := accepted
      rw [Json.Distinct] at distinct
      exact ⟨members, rfl,
        fun member present => inner other member.2 leftFormed rightFormed
          agree (Json.distinct_of_mem distinct.2 present) (fits member present)⟩
  | optional present inner =>
      obtain ⟨other, rfl, agree⟩ := same_optional_iff.mp agree
      rw [Accepts] at accepted ⊢
      exact accepted.imp id
        (inner other value leftFormed rightFormed agree distinct)
  | object title fields types =>
      obtain ⟨⟨_, others⟩, rfl, lengths, within⟩ := same_object_iff.mp agree
      rw [WellFormed, allWellFormed_iff] at leftFormed rightFormed
      rw [Accepts] at accepted ⊢
      obtain ⟨members, rfl, admitted, declared⟩ := accepted
      rw [Json.Distinct] at distinct
      refine ⟨members, rfl, ?_, fun key present =>
        exists_name_of_fieldsWithin leftFormed.1 lengths within
          (declared key present)⟩
      rw [allAdmit_iff] at admitted ⊢
      intro field stored
      obtain ⟨counterpart, found, pair⟩ :=
        exists_counterpart_of_fieldsWithin within field stored
      constructor
      · intro part present
        exact types field stored counterpart.type part
          (leftFormed.2 field stored).type
          (rightFormed.2 counterpart found).type pair.type
          (Json.distinct_of_mem distinct.2 (Members.mem_of_lookup present))
          ((admitted counterpart found).present part (pair.name ▸ present))
      · intro missing
        rw [pair.required, pair.isNone_default]
        exact (admitted counterpart found).absent (pair.name ▸ missing)

/-- Fields are found among others that contain them and repeat no name. -/
theorem fieldsWithin_of_subset {fields others : List Field}
    (distinct : (others.map (·.name)).Nodup)
    (subset : fields ⊆ others)
    (reflexive : ∀ field ∈ fields, field.type.same field.type = true ∧
      sameDefault field.default field.default = true) :
    fieldsWithin fields others = true := by
  induction fields with
  | nil => simp [fieldsWithin]
  | cons field rest inductionHypothesis =>
      rw [List.cons_subset] at subset
      obtain ⟨agrees, restReflexive⟩ := List.forall_mem_cons.mp reflexive
      have remaining := inductionHypothesis subset.2 restReflexive
      have nodup : (⟨none, others⟩ : Schema).Distinct := distinct
      have found := (Schema.field?_eq_some_iff nodup).mpr ⟨subset.1, rfl⟩
      obtain ⟨name, type, required, default, description⟩ := field
      unfold Schema.field? at found
      rw [fieldsWithin, found, remaining]
      simp [agrees]

/-- A well-formed type is the same as itself. -/
theorem same_self (type : FieldType) (formed : type.WellFormed) :
    type.same type = true := by
  induction type with
  | oneOf choices => simp [same, sameChoices]
  | list item inner => exact inner formed
  | map value inner => exact inner formed
  | optional present inner => exact inner formed
  | object title fields types =>
      rw [WellFormed, allWellFormed_iff] at formed
      rw [same, beq_self_eq_true, Bool.true_and]
      refine fieldsWithin_of_subset formed.1
        (List.Subset.refl fields) fun field stored => ?_
      refine ⟨types field stored (formed.2 field stored).type, ?_⟩
      cases given : field.default with
      | none => rfl
      | some value =>
          exact Json.same_self value
            ((formed.2 field stored).default value given).1
  | _ => simp [same]

end FieldType

namespace Schema

/-- A well-formed schema is the same as itself. -/
theorem same_self {schema : Schema} (formed : schema.WellFormed) :
    schema.same schema = true := by
  obtain ⟨title, fields⟩ := schema
  have same := FieldType.same_self (.object ⟨title, fields⟩) formed
  rw [FieldType.same] at same
  exact same

/-- A merged field keeps the left type, which accepts the default of
either side. -/
theorem wellFormed_merge
    {left right : Field}
    (leftFormed : left.WellFormed)
    (rightFormed : right.WellFormed)
    (agree : left.type.same right.type = true) :
    (left.merge right).WellFormed := by
  refine ⟨leftFormed.type, ?_⟩
  intro value given
  cases own : left.default with
  | some mine =>
      have kept : (left.merge right).default = some mine := by
        simp [Field.merge, own]
      rw [kept] at given
      obtain rfl := Option.some.inj given
      exact leftFormed.default mine own
  | none =>
      have taken : (left.merge right).default = right.default := by
        simp [Field.merge, own]
      rw [taken] at given
      obtain ⟨distinct, accepted⟩ := rightFormed.default value given
      exact ⟨distinct,
        FieldType.accepts_of_same left.type right.type value leftFormed.type
          rightFormed.type agree distinct accepted⟩

/-- What merging a field into several does to the first of them. -/
theorem mergeField_cons_eq_ok
    {right left : Field}
    {rest merged : List Field}
    (done : mergeField right (left :: rest) = .ok merged) :
    left.name = right.name ∧ left.type.same right.type = true ∧
        merged = left.merge right :: rest ∨
      left.name ≠ right.name ∧ ∃ others, mergeField right rest = .ok others ∧
        merged = left :: others := by
  rw [mergeField] at done
  by_cases named : left.name = right.name
  · rw [if_pos named] at done
    split at done
    case isFalse => contradiction
    case isTrue agree => exact .inl ⟨named, agree, (Except.ok.inj done).symm⟩
  · rw [if_neg named] at done
    cases others : mergeField right rest with
    | error reason => simp [others, Except.map] at done
    | ok remaining =>
        rw [others] at done
        exact .inr ⟨named, remaining, rfl, (Except.ok.inj done).symm⟩

/-- Merging fields is merging the first and then the others. -/
theorem mergeFields_cons_eq_ok
    {right : Field}
    {fields rest merged : List Field}
    (done : mergeFields fields (right :: rest) = .ok merged) :
    ∃ next,
      mergeField right fields = .ok next ∧
      mergeFields next rest = .ok merged := by
  rw [mergeFields] at done
  cases step : mergeField right fields with
  | error reason => simp [step] at done
  | ok next =>
      simp only [step] at done
      exact ⟨next, rfl, done⟩

/-- Merging one field adds a name only if it is new. -/
theorem names_of_mergeField
    {right : Field}
    {fields merged : List Field}
    (done : mergeField right fields = .ok merged) :
    merged.map (·.name) = fields.map (·.name) ∨
      right.name ∉ fields.map (·.name) ∧
        merged.map (·.name) = fields.map (·.name) ++ [right.name] := by
  induction fields generalizing merged with
  | nil =>
      obtain rfl := Except.ok.inj done
      exact .inr ⟨by simp, rfl⟩
  | cons left rest inductionHypothesis =>
      obtain ⟨_, _, rfl⟩ | ⟨named, others, rest', rfl⟩ :=
        mergeField_cons_eq_ok done
      · exact .inl rfl
      · obtain names | ⟨fresh, names⟩ := inductionHypothesis rest'
        · exact .inl (by simp [names])
        · refine .inr ⟨?_, by simp [names]⟩
          rw [List.map_cons, List.mem_cons, not_or]
          exact ⟨fun same => named same.symm, fresh⟩

/-- Merging fields one by one makes no name repeat. -/
theorem nodup_of_mergeFields
    {fields others merged : List Field}
    (distinct : (fields.map (·.name)).Nodup)
    (done : mergeFields fields others = .ok merged) :
    (merged.map (·.name)).Nodup := by
  induction others generalizing fields with
  | nil =>
      obtain rfl := Except.ok.inj done
      exact distinct
  | cons right rest inductionHypothesis =>
      obtain ⟨next, step, done⟩ := mergeFields_cons_eq_ok done
      refine inductionHypothesis ?_ done
      obtain names | ⟨fresh, names⟩ := names_of_mergeField step
      · rwa [names]
      · rw [names, List.nodup_append]
        refine ⟨distinct, by simp, ?_⟩
        intro name present other single
        obtain rfl : other = right.name := by simpa using single
        exact fun same => fresh (same ▸ present)

/-- A well-formed field that is merged into well-formed ones leaves them
well-formed. -/
theorem wellFormed_of_mergeField
    {right : Field}
    {fields merged : List Field}
    (rightFormed : right.WellFormed)
    (formed : ∀ field ∈ fields, field.WellFormed)
    (done : mergeField right fields = .ok merged) :
    ∀ field ∈ merged, field.WellFormed := by
  induction fields generalizing merged with
  | nil =>
      obtain rfl := Except.ok.inj done
      simpa using rightFormed
  | cons left rest inductionHypothesis =>
      obtain ⟨leftFormed, restFormed⟩ := List.forall_mem_cons.mp formed
      obtain ⟨_, agree, rfl⟩ | ⟨_, others, rest', rfl⟩ :=
        mergeField_cons_eq_ok done
      · exact List.forall_mem_cons.mpr
          ⟨wellFormed_merge leftFormed rightFormed agree, restFormed⟩
      · exact List.forall_mem_cons.mpr
          ⟨leftFormed, inductionHypothesis restFormed rest'⟩

/-- Well-formed fields that are merged one by one give well-formed ones. -/
theorem wellFormed_of_mergeFields
    {fields others merged : List Field}
    (formed : ∀ field ∈ fields, field.WellFormed)
    (othersFormed : ∀ field ∈ others, field.WellFormed)
    (done : mergeFields fields others = .ok merged) :
    ∀ field ∈ merged, field.WellFormed := by
  induction others generalizing fields with
  | nil =>
      obtain rfl := Except.ok.inj done
      exact formed
  | cons right rest inductionHypothesis =>
      obtain ⟨rightFormed, restFormed⟩ := List.forall_mem_cons.mp othersFormed
      obtain ⟨next, step, done⟩ := mergeFields_cons_eq_ok done
      exact inductionHypothesis
        (wellFormed_of_mergeField rightFormed formed step) restFormed done

/-- A composition that succeeds has the merged fields and the first
title given. -/
theorem compose_eq_ok
    {left right composed : Schema}
    (done : left.compose right = .ok composed) :
    ∃ fields, mergeFields left.fields right.fields = .ok fields ∧
      composed = ⟨left.title.orElse fun _ => right.title, fields⟩ := by
  unfold compose at done
  cases merged : mergeFields left.fields right.fields with
  | error reason => simp [merged, Except.map] at done
  | ok fields =>
      rw [merged] at done
      exact ⟨fields, rfl, (Except.ok.inj done).symm⟩

/-- The composition of well-formed schemas is well-formed. -/
theorem WellFormed.compose
    {left right composed : Schema}
    (leftFormed : left.WellFormed)
    (rightFormed : right.WellFormed)
    (done : left.compose right = .ok composed) :
    composed.WellFormed := by
  rw [wellFormed_iff] at leftFormed rightFormed ⊢
  obtain ⟨fields, merged, rfl⟩ := compose_eq_ok done
  exact ⟨nodup_of_mergeFields leftFormed.1 merged,
    wellFormed_of_mergeFields leftFormed.2 rightFormed.2 merged⟩

end Schema
end PromptTuning
