import PromptTuning.Proofs.Binary.Whole
import PromptTuning.Proofs.Schema.Narrowing
import PromptTuning.Proofs.Schema.Normalization

/-!
# Narrowing is sound for data

A value that a narrow type accepts has, under every wider type, no violation
other than members that the narrow type declares and the wide one does not. Two
things are needed for it. Every object within the value has the members that the
narrow type requires; that can only fail inside a default, which is filled in
without its own defaults. And where the wide type asks for an integer, the
integers that the narrow one lists are small enough for the doubles that equal
them to be taken as integers.
-/

namespace PromptTuning

namespace FieldType

mutual

/-- Every object within a value has the members that its type requires. -/
def Filled : FieldType -> Json -> Prop
  | .optional present, value => value = .null ∨ present.Filled value
  | .object ⟨_, fields⟩, value =>
      ∀ members : Members, value = .object members ->
        AllFilled fields members
  | .list item, value => ∀ items : List Json, value = .array items ->
      ∀ part ∈ items, item.Filled part
  | .map entry, value => ∀ members : Members, value = .object members ->
      ∀ member ∈ members, entry.Filled member.2
  | _, _ => True

/-- Every field has a filled value, or is not required and has none. -/
def AllFilled : List Field -> Members -> Prop
  | [], _ => True
  | ⟨name, type, required, _, _⟩ :: rest, members =>
      (match members.lookup name with
        | some value => type.Filled value
        | none => required = false) ∧ AllFilled rest members

end

mutual

/-- A type declares the field at a path. -/
def Declares : FieldType -> Path -> Prop
  | .object ⟨_, fields⟩, path => AnyDeclares fields path
  | .optional present, path => present.Declares path
  | .list item, path =>
      ∃ index rest, path = .item index :: rest ∧ item.Declares rest
  | .map entry, path =>
      ∃ key rest, path = .member key :: rest ∧ entry.Declares rest
  | _, _ => False

/-- One of several fields stands at a path, or its type declares the
field there. -/
def AnyDeclares : List Field -> Path -> Prop
  | [], _ => False
  | ⟨name, type, _, _, _⟩ :: others, path =>
      (∃ rest, path = .member name :: rest ∧ (rest = [] ∨ type.Declares rest)) ∨
        AnyDeclares others path

end

/-- Under the wide type a value has no violation but unexpected members, each at
a path where the narrow type declares a field and the wide one does not. -/
def SurplusOnly (narrow wide : FieldType) (path : Path) (value : Json) : Prop :=
  ∀ violation ∈ wide.violations path value, ∃ rest,
    violation = ⟨path ++ rest, .unexpected⟩ ∧ narrow.Declares rest ∧
    ¬ wide.Declares rest

/-- If a literal is an integer, the double nearest to it is below two to the
power of 63. -/
def Coercible (literal : Json) : Prop :=
  ∀ value bounded, literal = .number (.integer value bounded) ->
    value.natAbs < 2 ^ 63 - 2 ^ 9

end FieldType

namespace Field

/-- A field has a filled value, or is not required and has none. -/
structure FilledIn (field : Field) (members : Members) : Prop where
  present :
    ∀ value, members.lookup field.name = some value -> field.type.Filled value
  absent : members.lookup field.name = none -> field.required = false

end Field

namespace FieldType

/-- Members are filled in for fields if they are so for each of them. -/
theorem allFilled_iff {fields : List Field} {members : Members} :
    AllFilled fields members ↔ ∀ field ∈ fields, field.FilledIn members := by
  induction fields with
  | nil => simp [AllFilled]
  | cons field rest inductionHypothesis =>
      obtain ⟨name, type, required, default, description⟩ := field
      rw [AllFilled, inductionHypothesis, List.forall_mem_cons]
      apply and_congr_left'
      exact Members.match_lookup_iff.trans
        ⟨fun both => ⟨both.1, both.2⟩,
          fun filled => ⟨filled.present, filled.absent⟩⟩

/-- Fields declare a path if one of them does. -/
theorem anyDeclares_iff {fields : List Field} {path : Path} :
    AnyDeclares fields path ↔
      ∃ field ∈ fields, ∃ rest, path = .member field.name :: rest ∧
        (rest = [] ∨ field.type.Declares rest) := by
  induction fields with
  | nil => simp [AnyDeclares]
  | cons field rest inductionHypothesis =>
      obtain ⟨name, type, required, default, description⟩ := field
      rw [AnyDeclares, inductionHypothesis, List.exists_mem_cons_iff]

/-- Accepted data that are settled are filled: no default is left to
be filled in. -/
theorem filled_of_settled
    (type : FieldType)
    (value : Json)
    (accepted : type.Accepts value)
    (settled : type.Settled value) :
    type.Filled value := by
  induction type generalizing value with
  | optional present inner =>
      rw [Accepts] at accepted
      rw [Settled] at settled
      by_cases null : value = .null
      · exact .inl null
      · exact .inr
          (inner value (accepted.resolve_left null) (settled.resolve_left null))
  | list item inner =>
      rw [Accepts] at accepted
      obtain ⟨items, rfl, fits⟩ := accepted
      rw [Settled] at settled
      rw [Filled]
      rintro _ ⟨⟩ part stored
      exact inner part (fits part stored) (settled items rfl part stored)
  | map entry inner =>
      rw [Accepts] at accepted
      obtain ⟨members, rfl, fits⟩ := accepted
      rw [Settled] at settled
      rw [Filled]
      rintro _ ⟨⟩ member stored
      exact inner member.2 (fits member stored)
        (settled members rfl member stored)
  | object title fields types =>
      rw [Accepts] at accepted
      obtain ⟨members, rfl, admitted, _⟩ := accepted
      rw [allAdmit_iff] at admitted
      rw [Settled] at settled
      have settledIn := allSettled_iff.mp (settled members rfl)
      rw [Filled]
      rintro _ ⟨⟩
      refine allFilled_iff.mpr fun field stored =>
        ⟨fun part given => ?_, fun missing => ?_⟩
      · exact types field stored part
          ((admitted field stored).present part given)
          ((settledIn field stored).present part given)
      · have absent := (admitted field stored).absent missing
        rw [(settledIn field stored).absent missing] at absent
        simpa using absent
  | _ => trivial

/-- A field stands at a path of at least one step. -/
theorem not_declares_nil (type : FieldType) : ¬ type.Declares [] := by
  induction type with
  | optional present inner => exact inner
  | object title fields types => simp [Declares, anyDeclares_iff]
  | list item inner => simp [Declares]
  | map value inner => simp [Declares]
  | _ => exact id

/-- A list declares below each place what its items declare. -/
theorem declares_list_iff {item : FieldType} {index : Nat} {rest : Path} :
    (list item).Declares (.item index :: rest) ↔ item.Declares rest := by
  simp [Declares]

/-- A map declares below each key what its values declare. -/
theorem declares_map_iff {entry : FieldType} {key : String} {rest : Path} :
    (map entry).Declares (.member key :: rest) ↔ entry.Declares rest := by
  simp [Declares]

/-- An object declares its fields and what their types declare below. -/
theorem declares_object_iff {schema : Schema} {key : String} {rest : Path} :
    (object schema).Declares (.member key :: rest) ↔
      ∃ field ∈ schema.fields,
        field.name = key ∧ (rest = [] ∨ field.type.Declares rest) := by
  obtain ⟨title, fields⟩ := schema
  rw [Declares, anyDeclares_iff]
  constructor
  · rintro ⟨field, listed, rest, same, stands⟩
    obtain ⟨step, rfl⟩ := List.cons.inj same
    exact ⟨field, listed, (Segment.member.inj step).symm, stands⟩
  · rintro ⟨field, listed, rfl, stands⟩
    exact ⟨field, listed, rest, rfl, stands⟩

/-- An accepted value has no surplus. -/
theorem SurplusOnly.of_accepts
    {narrow wide : FieldType}
    {path : Path}
    {value : Json}
    (accepted : wide.Accepts value) :
    narrow.SurplusOnly wide path value := by
  intro violation present
  rw [(violations_eq_nil_iff wide path value).mpr accepted] at present
  contradiction

/-- Surplus members of a part are surplus members of the whole, one
step further. -/
theorem SurplusOnly.nested
    {narrow wide narrowWhole wideWhole : FieldType}
    {path : Path}
    {step : Segment}
    {part : Json}
    (surplus : narrow.SurplusOnly wide (path ++ [step]) part)
    (declares :
      ∀ rest, narrow.Declares rest -> narrowWhole.Declares (step :: rest))
    (within : ∀ rest, narrow.Declares rest ->
      wideWhole.Declares (step :: rest) ->
      wide.Declares rest)
    {violation : Violation}
    (present : violation ∈ wide.violations (path ++ [step]) part) :
    ∃ rest, violation = ⟨path ++ rest, .unexpected⟩ ∧
      narrowWhole.Declares rest ∧
      ¬ wideWhole.Declares rest := by
  obtain ⟨rest, rfl, beyond, undeclared⟩ := surplus violation present
  exact ⟨step :: rest, by simp, declares rest beyond,
    fun stands => undeclared (within rest beyond stands)⟩

/-- A double that equals a coercible integer is taken as an integer. -/
theorem isSome_coerceInteger?_of_sameLiteral
    {literal value : Json}
    (integral : FieldType.integer.acceptsLiteral literal = true)
    (coercible : Coercible literal)
    (same : sameLiteral literal value = true) :
    (coerceInteger? value).isSome = true := by
  obtain ⟨number, bounded, rfl⟩ :
      ∃ number bounded, literal = .number (.integer number bounded) := by
    cases literal with
    | number kept =>
        cases kept with
        | integer number bounded => exact ⟨number, bounded, rfl⟩
        | double => contradiction
    | _ => contradiction
  cases value with
  | number given =>
      cases given with
      | integer => rfl
      | double double =>
          have agree :
              (Number.integer number bounded).numericallyEqual
                (.double double) = true :=
            same
          rw [Number.numericallyEqual, beq_iff_eq] at agree
          have place :
              (Binary.ofInt number : Double).place? = some double.place := agree
          obtain ⟨whole, exact, magnitude⟩ := Binary.toInt?_of_place?_eq place
          have small : whole.natAbs < 2 ^ 63 :=
            magnitude ▸
              BinaryFormat.nearestWhole_lt (coercible number bounded rfl)
          have inRange :
              -9223372036854775808 ≤ whole ∧ whole < 18446744073709551616 := by
            omega
          have coerced : (Number.double double).coerceInteger? =
              some (.integer whole inRange) := by
            rw [Number.coerceInteger?, exact]
            simp only [Nat.pow_eq, if_pos small, Number.ofInt?, dif_pos inRange]
          rw [coerceInteger?, coerced]
          rfl
  | _ => simp [sameLiteral, Json.same] at same

/-- What a type narrower than a primitive type accepts, the primitive
type accepts. -/
theorem accepts_of_isNarrowerThan_primitive
    {narrow wide : FieldType}
    {value : Json}
    (primitive : wide.isPrimitive = true)
    (narrower : narrow.isNarrowerThan wide = true)
    (accepted : narrow.Accepts value)
    (coercible : wide = .integer -> narrow.IntegerChoices Coercible .integer) :
    wide.Accepts value := by
  obtain rfl | ⟨rfl, rfl⟩ | ⟨values, rfl, literals⟩ :=
    (isNarrowerThan_primitive_iff primitive).mp narrower
  · exact accepted
  · cases value with
    | number number => exact ⟨number, rfl⟩
    | _ => simp [Accepts, coerceInteger?] at accepted
  · obtain ⟨choice, listed, same⟩ :
        ∃ choice ∈ values, sameLiteral choice value = true := accepted
    have literal := literals choice listed
    cases wide with
    | integer =>
        have small := coercible rfl
        rw [IntegerChoices] at small
        exact isSome_coerceInteger?_of_sameLiteral literal
          (small values rfl choice listed) same
    | string =>
        cases choice with
        | string =>
            cases value with
            | string other => exact ⟨other, rfl⟩
            | _ => simp [sameLiteral, Json.same] at same
        | _ => contradiction
    | number =>
        cases choice with
        | number =>
            cases value with
            | number other => exact ⟨other, rfl⟩
            | _ => simp [sameLiteral, Json.same] at same
        | _ => contradiction
    | boolean =>
        cases choice with
        | boolean =>
            cases value with
            | boolean other => exact ⟨other, rfl⟩
            | _ => simp [sameLiteral, Json.same] at same
        | _ => contradiction
    | _ => contradiction

/-- What a type narrower than a choice accepts is among the choices too. -/
theorem accepts_of_isNarrowerThan_oneOf
    {narrow : FieldType}
    {choices : List Json}
    {value : Json}
    (wideUnambiguous : (oneOf choices).Unambiguous)
    (narrowUnambiguous : narrow.Unambiguous)
    (narrower : narrow.isNarrowerThan (.oneOf choices) = true)
    (accepted : narrow.Accepts value) :
    (oneOf choices).Accepts value := by
  obtain ⟨values, rfl, matched⟩ := isNarrowerThan_oneOf_iff.mp narrower
  rw [Unambiguous, distinctItems_iff] at wideUnambiguous narrowUnambiguous
  obtain ⟨literal, listed, same⟩ :
      ∃ literal ∈ values, sameLiteral literal value = true := accepted
  obtain ⟨choice, present, equal⟩ := matched literal listed
  have reversed := sameLiteral_symm (narrowUnambiguous literal listed)
    (wideUnambiguous choice present) equal
  exact ⟨choice, present, sameLiteral_trans reversed same⟩

/-- Where there is a value, an optional type finds what its own type finds. -/
theorem SurplusOnly.of_ne_null
    {narrow wide : FieldType}
    {path : Path}
    {value : Json}
    (given : value ≠ .null)
    (surplus : narrow.SurplusOnly wide path value) :
    narrow.SurplusOnly (.optional wide) path value := by
  have same :
      (optional wide).violations path value = wide.violations path value := by
    cases value with
    | null => contradiction
    | _ => rfl
  rw [SurplusOnly, same]
  exact surplus

/-- A list has only surplus members if its items have. -/
theorem surplusOnly_list
    {item wide : FieldType}
    {path : Path}
    {items : List Json}
    (surplus : ∀ part ∈ items, ∀ position,
      item.SurplusOnly wide (path ++ [.item position]) part) :
    (list item).SurplusOnly (.list wide) path (.array items) := by
  intro violation present
  rw [violations, itemViolations_eq_flatMap, List.mem_flatMap] at present
  obtain ⟨⟨part, position⟩, indexed, within⟩ := present
  have stored := List.fst_mem_of_mem_zipIdx indexed
  exact (surplus part stored position).nested (fun _ => declares_list_iff.mpr)
    (fun _ _ stands => declares_list_iff.mp stands) within

/-- A map has only surplus members if its entries have. -/
theorem surplusOnly_map
    {entry wide : FieldType}
    {path : Path}
    {members : Members}
    (surplus : ∀ key part, (key, part) ∈ members ->
      entry.SurplusOnly wide (path ++ [.member key]) part) :
    (map entry).SurplusOnly (.map wide) path (.object members) := by
  intro violation present
  rw [violations, valueViolations, List.mem_flatMap] at present
  obtain ⟨⟨key, part⟩, stored, within⟩ := present
  exact (surplus key part stored).nested (fun _ => declares_map_iff.mpr)
    (fun _ _ stands => declares_map_iff.mp stands) within

/-- An object has only surplus members if its own extra members are declared and
the values of the wanted ones have only surplus members. -/
theorem surplusOnly_object
    {schema : Schema}
    {title : Option String}
    {wanted : List Field}
    {path : Path}
    {members : Members}
    (distinct : (wanted.map (·.name)).Nodup)
    (declared : ∀ key ∈ members.keys, ∃ field ∈ schema.fields, field.name = key)
    (filled : ∀ field ∈ schema.fields, field.FilledIn members)
    (covered : ∀ field ∈ wanted,
      ∃ found, schema.field? field.name = some found ∧
        found.Serves field ∧ ∀ value, members.lookup field.name = some value ->
          found.type.SurplusOnly field.type (path ++ [.member field.name])
            value) :
    (object schema).SurplusOnly (.object ⟨title, wanted⟩) path
      (.object members) := by
  intro violation present
  rw [violations, List.mem_append, mem_fieldViolations_iff,
    mem_unexpected_iff] at present
  obtain ⟨field, listed, inside⟩ | ⟨key, stored, unknown, rfl⟩ := present
  · obtain ⟨found, known, serves, surplus⟩ := covered field listed
    obtain ⟨foundListed, named⟩ := Schema.mem_of_field? known
    obtain ⟨value, given, present⟩ | ⟨missing, required, _⟩ := inside
    · refine (surplus value given).nested (fun rest beyond => ?_)
        (fun rest beyond stands => ?_)
        present
      · exact declares_object_iff.mpr ⟨found, foundListed, named, .inr beyond⟩
      · obtain ⟨other, otherListed, same, either⟩ :=
          declares_object_iff.mp stands
        obtain rfl := List.inj_on_of_nodup_map distinct otherListed listed same
        refine either.resolve_left ?_
        rintro rfl
        exact not_declares_nil found.type beyond
    · -- A required member is missing only if the narrow type does not require
      -- it either.
      have optional := (filled found foundListed).absent (named ▸ missing)
      rw [serves.required required] at optional
      contradiction
  · refine ⟨[.member key], rfl, ?_, ?_⟩
    · obtain ⟨field, listed, same⟩ := declared key stored
      exact declares_object_iff.mpr ⟨field, listed, same, .inl rfl⟩
    · intro stands
      obtain ⟨field, listed, same, _⟩ := declares_object_iff.mp stands
      exact unknown field listed same

/-- A filled value that the narrow type accepts has only surplus members under
the wide one. -/
theorem surplusOnly_of_isNarrowerThan
    (wide narrow : FieldType)
    (path : Path)
    (value : Json)
    (wideUnambiguous : wide.Unambiguous)
    (narrowUnambiguous : narrow.Unambiguous)
    (narrower : narrow.isNarrowerThan wide = true)
    (accepted : narrow.Accepts value)
    (filled : narrow.Filled value)
    (coercible : narrow.IntegerChoices Coercible wide) :
    narrow.SurplusOnly wide path value := by
  induction wide generalizing narrow path value with
  | any => exact .of_accepts trivial
  | string | number | boolean =>
      exact .of_accepts
        (accepts_of_isNarrowerThan_primitive rfl narrower accepted (by simp))
  | integer =>
      exact .of_accepts
        (accepts_of_isNarrowerThan_primitive rfl narrower
          accepted fun _ => coercible)
  | oneOf choices =>
      exact .of_accepts
        (accepts_of_isNarrowerThan_oneOf wideUnambiguous narrowUnambiguous
          narrower accepted)
  | list wide inner =>
      obtain ⟨item, rfl, narrower⟩ := isNarrowerThan_list_iff.mp narrower
      rw [Accepts] at accepted
      obtain ⟨items, rfl, fits⟩ := accepted
      rw [Filled] at filled
      rw [IntegerChoices] at coercible
      refine surplusOnly_list fun part stored position => ?_
      exact inner item _ part wideUnambiguous narrowUnambiguous narrower
        (fits part stored) (filled items rfl part stored)
        (coercible item rfl)
  | map wide inner =>
      obtain ⟨entry, rfl, narrower⟩ := isNarrowerThan_map_iff.mp narrower
      rw [Accepts] at accepted
      obtain ⟨members, rfl, fits⟩ := accepted
      rw [Filled] at filled
      rw [IntegerChoices] at coercible
      refine surplusOnly_map fun key part stored => ?_
      exact inner entry _ part wideUnambiguous narrowUnambiguous
        narrower (fits _ stored)
        (filled members rfl _ stored) (coercible entry rfl)
  | optional wide inner =>
      by_cases null : value = .null
      · subst null
        exact .of_accepts (.inl rfl)
      · refine .of_ne_null null ?_
        obtain ⟨present, rfl, narrower⟩ | ⟨bare, narrower⟩ :=
          isNarrowerThan_optional_iff.mp narrower
        · rw [Accepts] at accepted
          rw [Filled] at filled
          exact inner present path value wideUnambiguous
            narrowUnambiguous narrower
            (accepted.resolve_left null) (filled.resolve_left null) coercible
        · exact inner narrow path value wideUnambiguous narrowUnambiguous
            narrower accepted filled
            ((integerChoices_optional_of_ne bare).mp coercible)
  | object title wanted types =>
      obtain ⟨⟨name, fields⟩, rfl, covered⟩ :=
        isNarrowerThan_object_iff.mp narrower
      rw [Accepts] at accepted
      obtain ⟨members, rfl, admitted, declared⟩ := accepted
      rw [allAdmit_iff] at admitted
      rw [Filled] at filled
      have filledIn := allFilled_iff.mp (filled members rfl)
      rw [IntegerChoices] at coercible
      have choices := allIntegerChoices_iff.mp (coercible _ rfl)
      rw [Unambiguous, allUnambiguous_iff] at wideUnambiguous narrowUnambiguous
      refine surplusOnly_object wideUnambiguous.1 declared
        filledIn fun field listed => ?_
      obtain ⟨found, known, serves⟩ := covered field listed
      refine ⟨found, known, serves, fun part given => ?_⟩
      obtain ⟨stored, named⟩ := Schema.mem_of_field? known
      rw [← named] at given
      exact types field listed found.type _ part
        (wideUnambiguous.2 field listed)
        (narrowUnambiguous.2 found stored) serves.type
        ((admitted found stored).present part given)
        ((filledIn found stored).present part given)
        (choices field listed found known)

end FieldType
end PromptTuning
