import PromptTuning.Proofs.Schema.Meet
import PromptTuning.Proofs.Schema.Normalization

/-!
# Sameness as an equivalence

Agreement up to the order of fields and choices, titles and descriptions is
symmetric and transitive on well-formed types. Types that agree are
interchangeable for data: the normal forms of a value under both are the same.
-/

namespace PromptTuning
namespace FieldType

section Choices

/-- Equal literals occur equally often. -/
theorem countLiteral_eq_of_sameLiteral
    {left right : Json}
    (leftDistinct : left.Distinct)
    (rightDistinct : right.Distinct)
    (agree : sameLiteral left right = true)
    (values : List Json) :
    countLiteral values left = countLiteral values right := by
  apply List.countP_congr
  intro value _
  constructor
  · exact sameLiteral_trans (sameLiteral_symm leftDistinct rightDistinct agree)
  · exact sameLiteral_trans agree

/-- A choice that is listed occurs as often among the same choices. -/
theorem countLiteral_eq_of_mem
    {left right : List Json}
    (agree : sameChoices left right = true)
    {literal : Json}
    (listed : literal ∈ left) :
    countLiteral left literal = countLiteral right literal := by
  simp only [sameChoices, Bool.and_eq_true, beq_iff_eq,
    List.all_eq_true] at agree
  exact agree.2 literal listed

/-- The same choices are equally many. -/
theorem length_eq_of_sameChoices {left right : List Json}
    (agree : sameChoices left right = true) : left.length = right.length := by
  simp only [sameChoices, Bool.and_eq_true, beq_iff_eq] at agree
  exact agree.1

/-- Equally many choices are the same if each occurs as often on both sides. -/
theorem sameChoices_of_countLiteral
    {left right : List Json}
    (lengths : left.length = right.length)
    (counts : ∀ literal ∈ left,
      countLiteral left literal = countLiteral right literal) :
    sameChoices left right = true := by
  simp only [sameChoices, Bool.and_eq_true, beq_iff_eq, List.all_eq_true]
  exact ⟨lengths, counts⟩

/-- Sameness of choices has no direction. -/
theorem sameChoices_symm
    {left right : List Json}
    (leftDistinct : ∀ value ∈ left, value.Distinct)
    (rightDistinct : ∀ value ∈ right, value.Distinct)
    (agree : sameChoices left right = true) :
    sameChoices right left = true := by
  refine sameChoices_of_countLiteral
    (length_eq_of_sameChoices agree).symm fun value present => ?_
  obtain ⟨choice, listed, close⟩ :=
    exists_sameLiteral_of_sameChoices leftDistinct rightDistinct
      agree value present
  have exchange := countLiteral_eq_of_sameLiteral (leftDistinct choice listed)
    (rightDistinct value present) close
  rw [← exchange left, ← exchange right]
  exact (countLiteral_eq_of_mem agree listed).symm

/-- Choices that are the same as those in the middle are the same as
those beyond. -/
theorem sameChoices_trans
    {first second third : List Json}
    (firstDistinct : ∀ value ∈ first, value.Distinct)
    (secondDistinct : ∀ value ∈ second, value.Distinct)
    (left : sameChoices first second = true)
    (right : sameChoices second third = true) :
    sameChoices first third = true := by
  have lengths :=
    (length_eq_of_sameChoices left).trans (length_eq_of_sameChoices right)
  refine sameChoices_of_countLiteral lengths fun value present => ?_
  obtain ⟨choice, listed, close⟩ :=
    exists_sameLiteral_of_mem left (firstDistinct value present) present
  have exchange := countLiteral_eq_of_sameLiteral (firstDistinct value present)
    (secondDistinct choice listed) close
  rw [countLiteral_eq_of_mem left present, exchange second, exchange third]
  exact countLiteral_eq_of_mem right listed

end Choices

section Defaults

/-- The same default is the same value, or none on both sides. -/
theorem sameDefault_iff {left right : Option Json} :
    sameDefault left right = true ↔
      (left = none ∧ right = none) ∨
        ∃ mine theirs,
          left = some mine ∧ right = some theirs ∧ mine.same theirs = true := by
  cases left <;> cases right <;> simp [sameDefault]

/-- Sameness of defaults has no direction. -/
theorem sameDefault_symm
    {left right : Option Json}
    (leftDistinct : ∀ value, left = some value -> value.Distinct)
    (rightDistinct : ∀ value, right = some value -> value.Distinct)
    (agree : sameDefault left right = true) :
    sameDefault right left = true := by
  obtain ⟨rfl, rfl⟩ | ⟨mine, theirs, rfl, rfl, agree⟩ :=
    sameDefault_iff.mp agree
  · rfl
  · exact Json.same_symm mine theirs (leftDistinct mine rfl)
      (rightDistinct theirs rfl) agree

/-- Defaults that are the same as the one in the middle are the same as the
one beyond. -/
theorem sameDefault_trans
    {first second third : Option Json}
    (left : sameDefault first second = true)
    (right : sameDefault second third = true) :
    sameDefault first third = true := by
  obtain ⟨rfl, rfl⟩ | ⟨mine, middle, rfl, rfl, agree⟩ := sameDefault_iff.mp left
  · exact right
  · cases third with
    | none => simp [sameDefault] at right
    | some theirs => exact Json.same_trans mine middle theirs agree right

end Defaults

/-- Fields are within others of distinct names exactly when each has its
counterpart there. -/
theorem fieldsWithin_iff {fields others : List Field}
    (distinct : (others.map (·.name)).Nodup) :
    fieldsWithin fields others = true ↔
      ∀ field ∈ fields, ∃ other ∈ others, Counterpart field other := by
  refine ⟨exists_counterpart_of_fieldsWithin, fun paired => ?_⟩
  induction fields with
  | nil => simp [fieldsWithin]
  | cons field rest inductionHypothesis =>
      obtain ⟨⟨other, stored, pair⟩, restPaired⟩ :=
        List.forall_mem_cons.mp paired
      have nodup : (⟨none, others⟩ : Schema).Distinct := distinct
      have found := (Schema.field?_eq_some_iff nodup).mpr ⟨stored, pair.name⟩
      obtain ⟨name, type, required, default, description⟩ := field
      unfold Schema.field? at found
      have required : required = other.required := pair.required
      rw [fieldsWithin, found, inductionHypothesis restPaired]
      simp [pair.type, pair.default, required]

/-- Sameness of well-formed types is symmetric. -/
theorem same_symm
    (left right : FieldType)
    (leftFormed : left.WellFormed)
    (rightFormed : right.WellFormed)
    (agree : left.same right = true) :
    right.same left = true := by
  induction left generalizing right with
  | string | integer | number | boolean | any =>
      cases right <;> simp only [same, Bool.false_eq_true] at agree
      rfl
  | oneOf choices =>
      obtain ⟨others, rfl, agree⟩ := same_oneOf_iff.mp agree
      rw [WellFormed, distinctItems_iff] at leftFormed rightFormed
      exact sameChoices_symm leftFormed rightFormed agree
  | list item inner =>
      obtain ⟨other, rfl, agree⟩ := same_list_iff.mp agree
      exact inner other leftFormed rightFormed agree
  | map value inner =>
      obtain ⟨other, rfl, agree⟩ := same_map_iff.mp agree
      exact inner other leftFormed rightFormed agree
  | optional present inner =>
      obtain ⟨other, rfl, agree⟩ := same_optional_iff.mp agree
      exact inner other leftFormed rightFormed agree
  | object title fields types =>
      obtain ⟨⟨_, others⟩, rfl, lengths, within⟩ := same_object_iff.mp agree
      rw [WellFormed, allWellFormed_iff] at leftFormed rightFormed
      refine same_object_iff.mpr ⟨⟨title, fields⟩, rfl, lengths.symm,
        (fieldsWithin_iff leftFormed.1).mpr fun other declared => ?_⟩
      obtain ⟨field, stored, pair⟩ :=
        exists_counterpart_of_mem leftFormed.1 rightFormed.1
          lengths within declared
      have fieldFormed := leftFormed.2 field stored
      have otherFormed := rightFormed.2 other declared
      refine ⟨field, stored, pair.name.symm, ?_, pair.required.symm, ?_⟩
      · exact types field stored other.type fieldFormed.type
          otherFormed.type pair.type
      · exact sameDefault_symm
          (fun value given => (fieldFormed.default value given).1)
          (fun value given => (otherFormed.default value given).1) pair.default

/-- Sameness of well-formed types is transitive. -/
theorem same_trans
    (first second third : FieldType)
    (firstFormed : first.WellFormed)
    (secondFormed : second.WellFormed)
    (thirdFormed : third.WellFormed)
    (left : first.same second = true)
    (right : second.same third = true) :
    first.same third = true := by
  induction first generalizing second third with
  | string | integer | number | boolean | any =>
      cases second <;> simp only [same, Bool.false_eq_true] at left
      exact right
  | oneOf choices =>
      obtain ⟨middles, rfl, left⟩ := same_oneOf_iff.mp left
      obtain ⟨others, rfl, right⟩ := same_oneOf_iff.mp right
      rw [WellFormed, distinctItems_iff] at firstFormed secondFormed
      exact sameChoices_trans firstFormed secondFormed left right
  | list item inner =>
      obtain ⟨second, rfl, left⟩ := same_list_iff.mp left
      obtain ⟨third, rfl, right⟩ := same_list_iff.mp right
      exact inner second third firstFormed secondFormed thirdFormed left right
  | map value inner =>
      obtain ⟨second, rfl, left⟩ := same_map_iff.mp left
      obtain ⟨third, rfl, right⟩ := same_map_iff.mp right
      exact inner second third firstFormed secondFormed thirdFormed left right
  | optional present inner =>
      obtain ⟨second, rfl, left⟩ := same_optional_iff.mp left
      obtain ⟨third, rfl, right⟩ := same_optional_iff.mp right
      exact inner second third firstFormed secondFormed thirdFormed left right
  | object title fields types =>
      obtain ⟨⟨_, middles⟩, rfl, lengths, within⟩ := same_object_iff.mp left
      obtain ⟨⟨other, others⟩, rfl, otherLengths, otherWithin⟩ :=
        same_object_iff.mp right
      rw [WellFormed, allWellFormed_iff] at firstFormed secondFormed thirdFormed
      refine same_object_iff.mpr
        ⟨⟨other, others⟩, rfl, lengths.trans otherLengths,
          (fieldsWithin_iff thirdFormed.1).mpr fun field stored => ?_⟩
      obtain ⟨middle, between, near⟩ :=
        exists_counterpart_of_fieldsWithin within field stored
      obtain ⟨last, declared, far⟩ :=
        exists_counterpart_of_fieldsWithin otherWithin middle between
      have type := types field stored middle.type last.type
        (firstFormed.2 field stored).type
        (secondFormed.2 middle between).type (thirdFormed.2 last declared).type
        near.type far.type
      exact ⟨last, declared, far.name.trans near.name, type,
        near.required.trans far.required,
        sameDefault_trans near.default far.default⟩

section NormalForms

/-- Objects without repeated keys are the same exactly when they have the same
under each key. -/
theorem same_members_iff {left right : Members} (leftDistinct : left.Distinct)
    (rightDistinct : right.Distinct) :
    (Json.object left).same (.object right) = true ↔
      ∀ key, sameDefault (left.lookup key) (right.lookup key) = true := by
  rw [Json.same, Bool.and_eq_true, beq_iff_eq]
  constructor
  · rintro ⟨lengths, within⟩ key
    cases found : left.lookup key with
    | some value =>
        obtain ⟨other, foundOther, agree⟩ :=
          Json.membersWithin_eq_true_iff.mp within key value
            (Members.mem_of_lookup found)
        rw [foundOther]
        exact agree
    | none =>
        have absent : right.lookup key = none :=
          Members.lookup_eq_none_iff.mpr fun present =>
            Members.lookup_eq_none_iff.mp found
              (Json.keys_subset_of_length_eq leftDistinct lengths
                (Json.mem_keys_of_membersWithin within) key present)
        rw [absent]
        rfl
  · intro agree
    have within : Json.membersWithin left right = true := by
      refine Json.membersWithin_eq_true_iff.mpr fun key value present => ?_
      have both := agree key
      rw [(Members.lookup_eq_some_iff_mem leftDistinct).mpr present] at both
      obtain ⟨absent, _⟩ | ⟨_, other, ⟨⟩, found, same⟩ :=
        sameDefault_iff.mp both
      · contradiction
      · exact ⟨other, found, same⟩
    refine ⟨?_, within⟩
    have permuted : left.keys.Perm right.keys := by
      refine (List.perm_ext_iff_of_nodup leftDistinct
        rightDistinct).mpr fun key => ?_
      rw [← not_iff_not, ← Members.lookup_eq_none_iff,
        ← Members.lookup_eq_none_iff]
      obtain ⟨absent, missing⟩ | ⟨mine, theirs, found, foundOther, _⟩ :=
        sameDefault_iff.mp (agree key)
      · rw [absent, missing]
      · rw [found, foundOther]
        simp
    simpa [Members.keys] using permuted.length_eq

/-- Two changes that agree on every item make the same items. -/
theorem sameItems_map_of_forall
    {first second : Json -> Json}
    {items : List Json}
    (agree : ∀ part ∈ items, (first part).same (second part) = true) :
    Json.sameItems (items.map first) (items.map second) = true := by
  induction items with
  | nil => rfl
  | cons item rest inductionHypothesis =>
      obtain ⟨here, others⟩ := List.forall_mem_cons.mp agree
      rw [List.map_cons, List.map_cons, Json.sameItems, here,
        inductionHypothesis others]
      rfl

/-- Values that are changed one by one are found where they were. -/
theorem lookup_map_values (change : Json -> Json) (members : Members)
    (key : String) :
    List.lookup key (members.map fun member => (member.1, change member.2)) =
      (members.lookup key).map change := by
  induction members with
  | nil => rfl
  | cons member rest inductionHypothesis =>
      rw [List.map_cons, List.lookup_cons, List.lookup_cons,
        inductionHypothesis]
      cases key == member.1 <;> rfl

/-- Nothing is found in normal form under a name that no field has. -/
theorem lookup_normalizeFields_of_not_mem
    {fields : List Field}
    {key : String}
    (undeclared : key ∉ fields.map (·.name))
    (members : Members) :
    (normalizeFields fields members).lookup key = none :=
  Members.lookup_eq_none_iff.mpr fun present =>
    undeclared ((keys_normalizeFields fields members).subset present)

/-- A field and its counterpart have the same entry in normal form. -/
theorem sameDefault_normalEntry
    {field other : Field}
    {members : Members}
    (pair : Counterpart field other)
    (agree : ∀ part, members.lookup field.name = some part ->
      (field.type.normalize part).same (other.type.normalize part) = true) :
    sameDefault (normalEntry field members) (normalEntry other members) =
      true := by
  unfold normalEntry
  rw [pair.name]
  cases found : members.lookup field.name with
  | none => exact pair.default
  | some part => exact agree part found

/-- Objects have the same normal form under fields and their counterparts. -/
theorem same_normalizeFields
    {fields others : List Field}
    {members : Members}
    (distinct : (fields.map (·.name)).Nodup)
    (othersDistinct : (others.map (·.name)).Nodup)
    (lengths : fields.length = others.length)
    (within : fieldsWithin fields others = true)
    (agree : ∀ field ∈ fields, ∀ other ∈ others, Counterpart field other ->
      ∀ part, members.lookup field.name = some part ->
        (field.type.normalize part).same (other.type.normalize part) = true) :
    (Json.object (normalizeFields fields members)).same
      (.object (normalizeFields others members)) = true := by
  have keys := distinct.sublist (keys_normalizeFields fields members)
  have otherKeys := othersDistinct.sublist (keys_normalizeFields others members)
  refine (same_members_iff keys otherKeys).mpr fun key => ?_
  by_cases declared : key ∈ fields.map (·.name)
  · obtain ⟨field, stored, rfl⟩ := List.mem_map.mp declared
    obtain ⟨other, present, pair⟩ :=
      exists_counterpart_of_fieldsWithin within field stored
    have theirs := lookup_normalizeFields othersDistinct members other present
    rw [pair.name] at theirs
    rw [lookup_normalizeFields distinct members field stored, theirs]
    exact sameDefault_normalEntry pair (agree field stored other present pair)
  · have undeclared : key ∉ others.map (·.name) := by
      intro listed
      obtain ⟨other, present, rfl⟩ := List.mem_map.mp listed
      obtain ⟨field, stored, pair⟩ :=
        exists_counterpart_of_mem distinct othersDistinct lengths within present
      exact declared (List.mem_map.mpr ⟨field, stored, pair.name.symm⟩)
    rw [lookup_normalizeFields_of_not_mem declared,
      lookup_normalizeFields_of_not_mem undeclared]
    rfl

/-- Under types that agree a value has the same normal form. -/
theorem same_normalize_of_same
    (left right : FieldType)
    (value : Json)
    (leftFormed : left.WellFormed)
    (rightFormed : right.WellFormed)
    (agree : left.same right = true)
    (distinct : value.Distinct) :
    (left.normalize value).same (right.normalize value) = true := by
  induction left generalizing right value with
  | string | number | boolean | any | oneOf =>
      cases right <;> simp only [same, Bool.false_eq_true] at agree
      exact Json.same_self value distinct
  | integer =>
      cases right <;> simp only [same, Bool.false_eq_true] at agree
      exact Json.same_self _
        (distinct_normalize .integer value trivial distinct)
  | optional present inner =>
      obtain ⟨other, rfl, agree⟩ := same_optional_iff.mp agree
      have kept := inner other value leftFormed rightFormed agree distinct
      cases value with
      | null => rfl
      | _ => exact kept
  | list item inner =>
      obtain ⟨other, rfl, agree⟩ := same_list_iff.mp agree
      cases value with
      | array items =>
          rw [Json.Distinct, distinctItems_iff] at distinct
          rw [normalize, normalize, Json.same]
          exact sameItems_map_of_forall fun part present =>
            inner other part leftFormed rightFormed agree
              (distinct part present)
      | _ => exact Json.same_self _ distinct
  | map entry inner =>
      obtain ⟨other, rfl, agree⟩ := same_map_iff.mp agree
      cases value with
      | object members =>
          have leftKeys := distinct_normalize (.map entry) _ leftFormed distinct
          have rightKeys :=
            distinct_normalize (.map other) _ rightFormed distinct
          rw [normalize, Json.Distinct] at leftKeys rightKeys
          rw [Json.Distinct] at distinct
          rw [normalize, normalize, same_members_iff leftKeys.1 rightKeys.1]
          intro key
          rw [lookup_map_values, lookup_map_values]
          cases found : members.lookup key with
          | none => rfl
          | some part =>
              exact inner other part leftFormed rightFormed agree
                (Json.distinct_of_mem distinct.2 (Members.mem_of_lookup found))
      | _ => exact Json.same_self _ distinct
  | object title fields types =>
      obtain ⟨⟨_, others⟩, rfl, lengths, within⟩ := same_object_iff.mp agree
      cases value with
      | object members =>
          rw [WellFormed, allWellFormed_iff] at leftFormed rightFormed
          rw [Json.Distinct] at distinct
          rw [normalize, normalize]
          refine same_normalizeFields leftFormed.1 rightFormed.1
            lengths within ?_
          intro field stored counterpart present pair part found
          exact types field stored counterpart.type part
            (leftFormed.2 field stored).type
            (rightFormed.2 counterpart present).type pair.type
            (Json.distinct_of_mem distinct.2 (Members.mem_of_lookup found))
      | _ => exact Json.same_self _ distinct

end NormalForms

end FieldType
end PromptTuning
