import PromptTuning.Proofs.Schema.Composition

/-!
# Normal forms

The normal form of accepted data is accepted again. It is the same as the data
exactly when the data are settled: no integer position holds a double and no
object lacks a field that has a default. Normalizing settles everything but the
defaults it fills in, which are taken as they are declared.
-/

namespace PromptTuning

namespace FieldType

mutual

/-- No integer position holds a double, and no object lacks a field that
has a default. -/
def Settled : FieldType -> Json -> Prop
  | .integer, value => ∀ double, value ≠ .number (.double double)
  | .optional present, value => value = .null ∨ present.Settled value
  | .object ⟨_, fields⟩, value =>
      ∀ members : Members, value = .object members ->
        AllSettled fields members
  | .list item, value => ∀ items : List Json, value = .array items ->
      ∀ part ∈ items, item.Settled part
  | .map entry, value => ∀ members : Members, value = .object members ->
      ∀ member ∈ members, entry.Settled member.2
  | _, _ => True

/-- Every field has a settled value, or neither a value nor a default. -/
def AllSettled : List Field -> Members -> Prop
  | [], _ => True
  | ⟨name, type, _, default, _⟩ :: rest, members =>
      (match members.lookup name with
        | some value => type.Settled value
        | none => default = none) ∧ AllSettled rest members

end

mutual

/-- Every default within a type is settled. -/
def DefaultsSettled : FieldType -> Prop
  | .object ⟨_, fields⟩ => AllDefaultsSettled fields
  | .list item => item.DefaultsSettled
  | .map value => value.DefaultsSettled
  | .optional present => present.DefaultsSettled
  | _ => True

/-- Every default of several fields and within their types is settled. -/
def AllDefaultsSettled : List Field -> Prop
  | [] => True
  | ⟨_, type, _, default, _⟩ :: rest =>
      (type.DefaultsSettled ∧
        ∀ value, default = some value -> type.Settled value) ∧
        AllDefaultsSettled rest

end

end FieldType

namespace Field

/-- A field has a settled value, or neither a value nor a default. -/
structure SettledIn (field : Field) (members : Members) : Prop where
  present :
    ∀ value, members.lookup field.name = some value -> field.type.Settled value
  absent : members.lookup field.name = none -> field.default = none

/-- The default of a field and those within its type are settled. -/
def DefaultsSettled (field : Field) : Prop :=
  field.type.DefaultsSettled ∧
  ∀ value, field.default = some value -> field.type.Settled value

end Field

namespace FieldType

attribute [local simp] normalize normalizeFields Settled AllSettled
  DefaultsSettled AllDefaultsSettled

/-- Members are settled for fields if they are so for each of them. -/
theorem allSettled_iff {fields : List Field} {members : Members} :
    AllSettled fields members ↔ ∀ field ∈ fields, field.SettledIn members := by
  induction fields with
  | nil => simp
  | cons field rest inductionHypothesis =>
      obtain ⟨name, type, required, default, description⟩ := field
      rw [AllSettled, inductionHypothesis, List.forall_mem_cons]
      apply and_congr_left'
      exact Members.match_lookup_iff.trans
        ⟨fun both => ⟨both.1, both.2⟩,
          fun settled => ⟨settled.present, settled.absent⟩⟩

/-- Defaults are settled for fields if they are so for each of them. -/
theorem allDefaultsSettled_iff {fields : List Field} :
    AllDefaultsSettled fields ↔ ∀ field ∈ fields, field.DefaultsSettled := by
  induction fields with
  | nil => simp
  | cons field rest inductionHypothesis =>
      obtain ⟨name, type, required, default, description⟩ := field
      rw [AllDefaultsSettled, inductionHypothesis, List.forall_mem_cons]
      rfl

/-- What stands under a field in normal form. -/
def normalEntry (field : Field) (members : Members) : Option Json :=
  match members.lookup field.name with
  | some value => some (field.type.normalize value)
  | none => field.default

theorem normalizeFields_cons (field : Field) (rest : List Field)
    (members : Members) :
    normalizeFields (field :: rest) members =
      ((normalEntry field members).map fun value =>
        (field.name, value)).toList ++
        normalizeFields rest members := by
  obtain ⟨name, type, required, default, description⟩ := field
  unfold normalEntry
  cases found : members.lookup name with
  | some value => simp [found]
  | none => cases default <;> simp [found]

/-- Normal forms keep the order of the fields. -/
theorem keys_normalizeFields (fields : List Field) (members : Members) :
    (Members.keys (normalizeFields fields members)).Sublist
      (fields.map (·.name)) := by
  induction fields with
  | nil => simp
  | cons field rest inductionHypothesis =>
      rw [normalizeFields_cons]
      cases normalEntry field members with
      | none => exact inductionHypothesis.cons _
      | some value => exact inductionHypothesis.cons_cons _

/-- The entry of each field is found in normal form under its name. -/
theorem lookup_normalizeFields
    {fields : List Field}
    (distinct : (fields.map (·.name)).Nodup)
    (members : Members) :
    ∀ field ∈ fields,
      (normalizeFields fields members).lookup field.name =
        normalEntry field members := by
  induction fields with
  | nil => simp
  | cons first rest inductionHypothesis =>
      rw [List.map_cons, List.nodup_cons] at distinct
      rw [List.forall_mem_cons, normalizeFields_cons]
      constructor
      · cases normalEntry first members with
        | some value => exact List.lookup_cons_self
        | none =>
            refine Members.lookup_eq_none_iff.mpr fun present => ?_
            exact distinct.1
              ((keys_normalizeFields rest members).subset present)
      · intro field stored
        rw [← inductionHypothesis distinct.2 field stored]
        cases normalEntry first members with
        | none => rfl
        | some value =>
            have different : (field.name == first.name) = false := by
              rw [beq_eq_false_iff_ne]
              exact fun same =>
                distinct.1 (same ▸ List.mem_map.mpr ⟨field, stored, rfl⟩)
            change List.lookup field.name
              ((first.name, value) :: normalizeFields rest members) = _
            rw [List.lookup_cons, different]

/-- Every member of a normal form stands there for some field. -/
theorem exists_field_of_mem_normalizeFields
    {fields : List Field}
    (distinct : (fields.map (·.name)).Nodup)
    {members : Members}
    {key : String}
    {value : Json}
    (present : (key, value) ∈ normalizeFields fields members) :
    ∃ field ∈ fields,
      field.name = key ∧ normalEntry field members = some value := by
  have keys := keys_normalizeFields fields members
  have declared := keys.subset (List.mem_map.mpr ⟨_, present, rfl⟩)
  obtain ⟨field, stored, rfl⟩ := List.mem_map.mp declared
  refine ⟨field, stored, rfl, ?_⟩
  rw [← lookup_normalizeFields distinct members field stored]
  exact (Members.lookup_eq_some_iff_mem (distinct.sublist keys)).mpr present

/-- The entry of a field is its value in normal form, or its default. -/
theorem normalEntry_cases
    {field : Field}
    {members : Members}
    {value : Json}
    (entry : normalEntry field members = some value) :
    (∃ given, members.lookup field.name = some given ∧
      value = field.type.normalize given) ∨
      members.lookup field.name = none ∧ field.default = some value := by
  unfold normalEntry at entry
  cases found : members.lookup field.name with
  | some given =>
      rw [found] at entry
      exact .inl ⟨given, rfl, (Option.some.inj entry).symm⟩
  | none =>
      rw [found] at entry
      exact .inr ⟨rfl, entry⟩

/-- What is coerced to an integer is a whole number, and stays the same unless
it was a double. -/
theorem accepts_of_coerceInteger {value whole : Json}
    (coerced : coerceInteger? value = some whole) :
    (∃ number bounded, whole = .number (.integer number bounded)) ∧
      ((whole.same value = true) ↔
        ∀ double, value ≠ .number (.double double)) := by
  cases value with
  | number given =>
      cases given with
      | integer number bounded =>
          obtain rfl : Json.number (.integer number bounded) = whole := by
            simpa [coerceInteger?, Number.coerceInteger?] using coerced
          exact ⟨⟨number, bounded, rfl⟩, by simp [Json.same]⟩
      | double given =>
          have integral :
              ∃ number bounded, whole = .number (.integer number bounded) := by
            simp only [coerceInteger?, Option.map_eq_some_iff] at coerced
            obtain ⟨found, coerced, rfl⟩ := coerced
            unfold Number.coerceInteger? at coerced
            split at coerced
            · contradiction
            · split at coerced
              · split at coerced
                · unfold Number.ofInt? at coerced
                  split at coerced
                  · obtain rfl := Option.some.inj coerced
                    exact ⟨_, _, rfl⟩
                  · contradiction
                · contradiction
              · contradiction
          obtain ⟨number, bounded, rfl⟩ := integral
          refine ⟨⟨number, bounded, rfl⟩, ?_⟩
          constructor
          · intro same
            simp [Json.same, Number.same] at same
          · intro none
            exact absurd rfl (none given)
  | _ => simp [coerceInteger?] at coerced

/-- Members of an object in normal form fit the fields that the members fit. -/
theorem admits_normalizeFields
    {fields : List Field}
    (distinct : (fields.map (·.name)).Nodup)
    (formed : ∀ field ∈ fields, field.WellFormed)
    {members : Members}
    (admitted : ∀ field ∈ fields, field.Admits members)
    (kept : ∀ field ∈ fields, ∀ value, field.type.Accepts value ->
      field.type.Accepts (field.type.normalize value)) :
    ∀ field ∈ fields, field.Admits (normalizeFields fields members) := by
  intro field stored
  have found := lookup_normalizeFields distinct members field stored
  constructor
  · intro value present
    rw [found] at present
    obtain ⟨given, original, rfl⟩ | ⟨_, filled⟩ := normalEntry_cases present
    · exact kept field stored given
        ((admitted field stored).present given original)
    · exact ((formed field stored).default value filled).2
  · intro missing
    rw [found] at missing
    cases original : members.lookup field.name with
    | none => exact (admitted field stored).absent original
    | some given => simp [normalEntry, original] at missing

/-- The normal form of an accepted value is accepted. -/
theorem accepts_normalize
    (type : FieldType)
    (value : Json)
    (formed : type.WellFormed)
    (accepted : type.Accepts value) :
    type.Accepts (type.normalize value) := by
  induction type generalizing value with
  | integer =>
      rw [Accepts, Option.isSome_iff_exists] at accepted
      obtain ⟨whole, coerced⟩ := accepted
      obtain ⟨⟨number, bounded, rfl⟩, _⟩ := accepts_of_coerceInteger coerced
      rw [normalize, coerced, Option.getD_some, Accepts]
      rfl
  | optional present inner =>
      rw [Accepts] at accepted ⊢
      obtain rfl | accepted := accepted
      · exact .inl rfl
      · have kept := inner value formed accepted
        cases value with
        | null => exact .inl rfl
        | _ => exact .inr kept
  | list item inner =>
      rw [Accepts] at accepted
      obtain ⟨items, rfl, fits⟩ := accepted
      rw [normalize, Accepts]
      refine ⟨_, rfl, ?_⟩
      intro part present
      obtain ⟨given, stored, rfl⟩ := List.mem_map.mp present
      exact inner given formed (fits given stored)
  | map entry inner =>
      rw [Accepts] at accepted
      obtain ⟨members, rfl, fits⟩ := accepted
      rw [normalize, Accepts]
      refine ⟨_, rfl, ?_⟩
      intro member present
      obtain ⟨given, stored, rfl⟩ := List.mem_map.mp present
      exact inner given.2 formed (fits given stored)
  | object title fields types =>
      rw [Accepts] at accepted
      obtain ⟨members, rfl, admitted, _⟩ := accepted
      rw [WellFormed, allWellFormed_iff] at formed
      rw [normalize, Accepts]
      refine ⟨_, rfl, ?_, ?_⟩
      · rw [allAdmit_iff] at admitted ⊢
        exact admits_normalizeFields formed.1 formed.2
          admitted fun field stored part =>
            types field stored part (formed.2 field stored).type
      · intro key present
        exact List.mem_map.mp
          ((keys_normalizeFields fields members).subset present)
  | _ => exact accepted

/-- Members repeat no key if none of their values does. -/
theorem distinctMembers_iff {members : Members} :
    Json.DistinctMembers members ↔ ∀ member ∈ members, member.2.Distinct := by
  induction members with
  | nil => simp [Json.DistinctMembers]
  | cons member rest inductionHypothesis =>
      obtain ⟨key, value⟩ := member
      rw [Json.DistinctMembers, inductionHypothesis, List.forall_mem_cons]

/-- An object in normal form repeats no key if neither the data nor the
defaults do. -/
theorem distinct_normalizeFields
    {fields : List Field}
    (distinct : (fields.map (·.name)).Nodup)
    (formed : ∀ field ∈ fields, field.WellFormed)
    {members : Members}
    (values : Json.DistinctMembers members)
    (kept : ∀ field ∈ fields, ∀ value : Json, value.Distinct ->
      (field.type.normalize value).Distinct) :
    (Json.object (normalizeFields fields members)).Distinct := by
  rw [Json.Distinct, distinctMembers_iff]
  refine ⟨distinct.sublist (keys_normalizeFields fields members), ?_⟩
  rintro ⟨key, value⟩ present
  obtain ⟨field, stored, _, entry⟩ :=
    exists_field_of_mem_normalizeFields distinct present
  obtain ⟨given, original, rfl⟩ | ⟨_, filled⟩ := normalEntry_cases entry
  · exact kept field stored given
      (Json.distinct_of_mem values (Members.mem_of_lookup original))
  · exact ((formed field stored).default value filled).1

/-- Normalizing introduces no repeated key. -/
theorem distinct_normalize
    (type : FieldType)
    (value : Json)
    (formed : type.WellFormed)
    (distinct : value.Distinct) :
    (type.normalize value).Distinct := by
  induction type generalizing value with
  | integer =>
      rw [normalize]
      cases coerced : coerceInteger? value with
      | none => exact distinct
      | some whole =>
          obtain ⟨⟨number, bounded, rfl⟩, _⟩ := accepts_of_coerceInteger coerced
          trivial
  | optional present inner =>
      cases value with
      | null => exact distinct
      | _ => exact inner _ formed distinct
  | list item inner =>
      cases value with
      | array items =>
          rw [Json.Distinct, distinctItems_iff] at distinct
          rw [normalize, Json.Distinct, distinctItems_iff]
          intro part present
          obtain ⟨given, stored, rfl⟩ := List.mem_map.mp present
          exact inner given formed (distinct given stored)
      | _ => exact distinct
  | map entry inner =>
      cases value with
      | object members =>
          rw [Json.Distinct, distinctMembers_iff] at distinct
          rw [normalize, Json.Distinct, distinctMembers_iff]
          constructor
          · rw [Members.Distinct, Members.keys, List.map_map]
            exact distinct.1
          · intro member present
            obtain ⟨given, stored, rfl⟩ := List.mem_map.mp present
            exact inner given.2 formed (distinct.2 given stored)
      | _ => exact distinct
  | object title fields types =>
      cases value with
      | object members =>
          rw [Json.Distinct] at distinct
          rw [WellFormed, allWellFormed_iff] at formed
          rw [normalize]
          exact distinct_normalizeFields formed.1 formed.2
            distinct.2 fun field stored part =>
              types field stored part (formed.2 field stored).type
      | _ => exact distinct
  | _ => exact distinct

/-- Items that are changed stay the same if each of them does. -/
theorem sameItems_map_iff {change : Json -> Json} {items : List Json} :
    Json.sameItems (items.map change) items = true ↔
      ∀ part ∈ items, (change part).same part = true := by
  induction items with
  | nil => simp [Json.sameItems]
  | cons item rest inductionHypothesis =>
      rw [List.map_cons, Json.sameItems, Bool.and_eq_true, inductionHypothesis,
        List.forall_mem_cons]

/-- Members whose values are changed are found among themselves if each value
stays the same. -/
theorem membersWithin_map_iff
    {change : Json -> Json}
    {members : Members}
    (distinct : members.Distinct) :
    Json.membersWithin (members.map fun member => (member.1, change member.2))
      members = true ↔
      ∀ member ∈ members, (change member.2).same member.2 = true := by
  rw [Json.membersWithin_eq_true_iff]
  constructor
  · intro within member present
    obtain ⟨other, found, agree⟩ := within member.1 (change member.2)
      (List.mem_map.mpr ⟨member, present, rfl⟩)
    rw [(Members.lookup_eq_some_iff_mem distinct).mpr present] at found
    obtain rfl := Option.some.inj found
    exact agree
  · intro agree key value present
    obtain ⟨member, stored, same⟩ := List.mem_map.mp present
    obtain ⟨rfl, rfl⟩ := Prod.mk.inj same
    exact ⟨member.2, (Members.lookup_eq_some_iff_mem distinct).mpr stored,
      agree member stored⟩

/-- An object is the same as its normal form exactly when every field is
settled in it. -/
theorem same_normalizeFields_iff
    {fields : List Field}
    (distinct : (fields.map (·.name)).Nodup)
    {members : Members}
    (distinctKeys : members.Distinct)
    (declared : ∀ key ∈ members.keys, ∃ field ∈ fields, field.name = key)
    (agrees : ∀ field ∈ fields,
      ∀ value, members.lookup field.name = some value ->
        ((field.type.normalize value).same value = true ↔
          field.type.Settled value)) :
    (Json.object (normalizeFields fields members)).same (.object members) =
      true ↔
      ∀ field ∈ fields, field.SettledIn members := by
  have keys := keys_normalizeFields fields members
  have normalDistinct : Members.Distinct (normalizeFields fields members) :=
    distinct.sublist keys
  rw [Json.same, Bool.and_eq_true, beq_iff_eq, Json.membersWithin_eq_true_iff]
  constructor
  · rintro ⟨_, within⟩ field stored
    have found := lookup_normalizeFields distinct members field stored
    constructor
    · intro value present
      have entry :
          normalEntry field members = some (field.type.normalize value) := by
        simp [normalEntry, present]
      rw [entry] at found
      obtain ⟨other, original, same⟩ := within _ _ (Members.mem_of_lookup found)
      rw [present] at original
      obtain rfl := Option.some.inj original
      exact (agrees field stored value present).mp same
    · intro missing
      cases filled : field.default with
      | none => rfl
      | some value =>
          have entry : normalEntry field members = some value := by
            simp [normalEntry, missing, filled]
          rw [entry] at found
          obtain ⟨other, original, _⟩ :=
            within _ _ (Members.mem_of_lookup found)
          rw [missing] at original
          contradiction
  · intro settled
    have within : ∀ key value, (key, value) ∈ normalizeFields fields members ->
        ∃ other, members.lookup key = some other ∧ value.same other = true := by
      intro key value present
      obtain ⟨field, stored, rfl, entry⟩ :=
        exists_field_of_mem_normalizeFields distinct present
      obtain ⟨given, original, rfl⟩ | ⟨missing, filled⟩ :=
        normalEntry_cases entry
      · exact ⟨given, original, (agrees field stored given original).mpr
          ((settled field stored).present given original)⟩
      · rw [(settled field stored).absent missing] at filled
        contradiction
    refine ⟨?_, within⟩
    have permuted :
        (Members.keys (normalizeFields fields members)).Perm members.keys := by
      refine (List.perm_ext_iff_of_nodup normalDistinct
        distinctKeys).mpr fun key => ?_
      constructor
      · intro present
        obtain ⟨⟨_, value⟩, stored, rfl⟩ := List.mem_map.mp present
        obtain ⟨other, original, _⟩ := within _ _ stored
        exact List.mem_map.mpr ⟨_, Members.mem_of_lookup original, rfl⟩
      · intro present
        obtain ⟨field, stored, rfl⟩ := declared key present
        obtain ⟨⟨name, value⟩, original, rfl⟩ := List.mem_map.mp present
        have given := (Members.lookup_eq_some_iff_mem distinctKeys).mpr original
        have found := lookup_normalizeFields distinct members field stored
        have entry :
            normalEntry field members = some (field.type.normalize value) := by
          simp_all [normalEntry]
        rw [entry] at found
        exact List.mem_map.mpr ⟨_, Members.mem_of_lookup found, rfl⟩
    simpa [Members.keys] using permuted.length_eq

/-- An accepted value is the same as its normal form exactly when it
is settled. -/
theorem same_normalize_iff
    (type : FieldType)
    (value : Json)
    (formed : type.WellFormed)
    (accepted : type.Accepts value)
    (distinct : value.Distinct) :
    (type.normalize value).same value = true ↔ type.Settled value := by
  induction type generalizing value with
  | integer =>
      rw [Accepts, Option.isSome_iff_exists] at accepted
      obtain ⟨whole, coerced⟩ := accepted
      rw [normalize, coerced, Option.getD_some, Settled]
      exact (accepts_of_coerceInteger coerced).2
  | optional present inner =>
      rw [Accepts] at accepted
      obtain rfl | accepted := accepted
      · simp [Json.same]
      · have agrees := inner value formed accepted distinct
        cases value with
        | null => simp [Json.same]
        | _ => simpa only [normalize, Settled, reduceCtorEq,
            false_or] using agrees
  | list item inner =>
      rw [Accepts] at accepted
      obtain ⟨items, rfl, fits⟩ := accepted
      rw [Json.Distinct, distinctItems_iff] at distinct
      rw [normalize, Json.same, sameItems_map_iff, Settled]
      constructor
      · rintro agree _ ⟨⟩ part present
        exact (inner part formed (fits part present) (distinct part present)).mp
          (agree part present)
      · intro settled part present
        exact (inner part formed (fits part present)
          (distinct part present)).mpr
          (settled items rfl part present)
  | map entry inner =>
      rw [Accepts] at accepted
      obtain ⟨members, rfl, fits⟩ := accepted
      rw [Json.Distinct, distinctMembers_iff] at distinct
      rw [normalize, Json.same, List.length_map, beq_self_eq_true,
        Bool.true_and, membersWithin_map_iff distinct.1, Settled]
      constructor
      · rintro agree _ ⟨⟩ member present
        exact (inner member.2 formed (fits member present)
          (distinct.2 member present)).mp
          (agree member present)
      · intro settled member present
        exact (inner member.2 formed (fits member present)
          (distinct.2 member present)).mpr
          (settled members rfl member present)
  | object title fields types =>
      rw [Accepts] at accepted
      obtain ⟨members, rfl, admitted, declared⟩ := accepted
      rw [Json.Distinct] at distinct
      rw [WellFormed, allWellFormed_iff] at formed
      rw [allAdmit_iff] at admitted
      have settled : (object ⟨title, fields⟩).Settled (.object members) ↔
          ∀ field ∈ fields, field.SettledIn members := by
        rw [Settled, ← allSettled_iff]
        exact ⟨fun all => all members rfl,
          fun all _ same => Json.object.inj same ▸ all⟩
      rw [normalize, settled]
      apply same_normalizeFields_iff formed.1 distinct.1 declared
      intro field stored part present
      exact types field stored part (formed.2 field stored).type
        ((admitted field stored).present part present)
        (Json.distinct_of_mem distinct.2 (Members.mem_of_lookup present))
  | _ => simp [Json.same_self value distinct]

/-- A field is settled in a normal form once its type settles values and its
default is settled. -/
theorem settledIn_normalizeFields
    {fields : List Field}
    (distinct : (fields.map (·.name)).Nodup)
    {members : Members}
    {field : Field}
    (stored : field ∈ fields)
    (settles : ∀ value, members.lookup field.name = some value ->
      field.type.Settled (field.type.normalize value))
    (default :
      ∀ value, field.default = some value -> field.type.Settled value) :
    field.SettledIn (normalizeFields fields members) := by
  have found := lookup_normalizeFields distinct members field stored
  constructor
  · intro value present
    rw [found] at present
    obtain ⟨given, original, rfl⟩ | ⟨_, filled⟩ := normalEntry_cases present
    · exact settles given original
    · exact default value filled
  · intro missing
    rw [found] at missing
    unfold normalEntry at missing
    cases original : members.lookup field.name with
    | some given => simp [original] at missing
    | none => simpa only [original] using missing

/-- Where every default is settled, the normal form of an accepted value
is settled. -/
theorem settled_normalize
    (type : FieldType)
    (value : Json)
    (formed : type.WellFormed)
    (defaults : type.DefaultsSettled)
    (accepted : type.Accepts value) :
    type.Settled (type.normalize value) := by
  induction type generalizing value with
  | integer =>
      rw [Accepts, Option.isSome_iff_exists] at accepted
      obtain ⟨whole, coerced⟩ := accepted
      obtain ⟨⟨number, bounded, rfl⟩, _⟩ := accepts_of_coerceInteger coerced
      rw [normalize, coerced, Option.getD_some, Settled]
      simp
  | optional present inner =>
      rw [Accepts] at accepted
      rw [Settled]
      cases value with
      | null => exact .inl rfl
      | _ =>
          exact .inr
            (inner _ formed defaults (accepted.resolve_left (by simp)))
  | list item inner =>
      rw [Accepts] at accepted
      obtain ⟨items, rfl, fits⟩ := accepted
      rw [normalize, Settled]
      rintro _ ⟨⟩ part present
      obtain ⟨given, stored, rfl⟩ := List.mem_map.mp present
      exact inner given formed defaults (fits given stored)
  | map entry inner =>
      rw [Accepts] at accepted
      obtain ⟨members, rfl, fits⟩ := accepted
      rw [normalize, Settled]
      rintro _ ⟨⟩ member present
      obtain ⟨given, stored, rfl⟩ := List.mem_map.mp present
      exact inner given.2 formed defaults (fits given stored)
  | object title fields types =>
      rw [Accepts] at accepted
      obtain ⟨members, rfl, admitted, _⟩ := accepted
      rw [WellFormed, allWellFormed_iff] at formed
      rw [DefaultsSettled, allDefaultsSettled_iff] at defaults
      rw [allAdmit_iff] at admitted
      rw [normalize, Settled]
      rintro _ ⟨⟩
      rw [allSettled_iff]
      intro field stored
      refine settledIn_normalizeFields formed.1 stored ?_
        (defaults field stored).2
      intro part present
      exact types field stored part (formed.2 field stored).type
        (defaults field stored).1
        ((admitted field stored).present part present)
  | _ => simp

end FieldType
end PromptTuning
