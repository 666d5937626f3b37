import PromptTuning.Proofs.Schema.Composition

/-!
# Narrowing as an order

Every type is narrower than itself. Of three types in a row the first is
narrower than the last, with one exception: an enumeration that lists a double
may be narrower than an enumeration of integers, which is narrower than the
integers, while it is not narrower than the integers itself. The same holds of
containment between schemas.
-/

namespace PromptTuning

namespace Json

/-- A number that is kept as a double. -/
def IsDouble : Json -> Prop
  | .number (.double _) => True
  | _ => False

end Json

namespace Field

/-- A field serves where another is wanted: at a narrower type, and required if
the other is. -/
structure Serves (found wanted : Field) : Prop where
  type : found.type.isNarrowerThan wanted.type = true
  required : wanted.required = true -> found.required = true

end Field

namespace FieldType

mutual

/-- No schema within a type declares a name twice, and no literal
repeats a key. -/
def Unambiguous : FieldType -> Prop
  | .object ⟨_, fields⟩ => (fields.map (·.name)).Nodup ∧ AllUnambiguous fields
  | .list item => item.Unambiguous
  | .map value => value.Unambiguous
  | .optional present => present.Unambiguous
  | .oneOf values => Json.DistinctItems values
  | _ => True

/-- Every field has an unambiguous type. -/
def AllUnambiguous : List Field -> Prop
  | [] => True
  | ⟨_, type, _, _, _⟩ :: rest => type.Unambiguous ∧ AllUnambiguous rest

end

/-- Fields are unambiguous if the type of each of them is. -/
theorem allUnambiguous_iff {fields : List Field} :
    AllUnambiguous fields ↔ ∀ field ∈ fields, field.type.Unambiguous := by
  induction fields with
  | nil => simp [AllUnambiguous]
  | cons field rest inductionHypothesis =>
      obtain ⟨name, type, required, default, description⟩ := field
      rw [AllUnambiguous, inductionHypothesis, List.forall_mem_cons]

/-- A well-formed type is unambiguous. -/
theorem unambiguous_of_wellFormed (type : FieldType)
    (formed : type.WellFormed) :
    type.Unambiguous := by
  induction type with
  | object title fields types =>
      rw [WellFormed, allWellFormed_iff] at formed
      rw [Unambiguous, allUnambiguous_iff]
      exact ⟨formed.1,
        fun field declared =>
          types field declared (formed.2 field declared).type⟩
  | list item inner => exact inner formed
  | map value inner => exact inner formed
  | optional present inner => exact inner formed
  | oneOf values => exact formed
  | _ => trivial

section Inversion

attribute [local simp] isNarrowerThan

/-- Every type is narrower than any value. -/
theorem isNarrowerThan_any (narrow : FieldType) :
    narrow.isNarrowerThan .any = true := by
  simp

/-- What is narrower than a primitive type: the type itself, integers among the
numbers, and enumerations of its literals. -/
theorem isNarrowerThan_primitive_iff
    {narrow wide : FieldType}
    (primitive : wide.isPrimitive = true) :
    narrow.isNarrowerThan wide = true ↔
      narrow = wide ∨ narrow = .integer ∧ wide = .number ∨
        ∃ values, narrow = .oneOf values ∧
          ∀ literal ∈ values, wide.acceptsLiteral literal = true := by
  cases wide <;> simp only [isPrimitive, Bool.false_eq_true] at primitive <;>
    cases narrow <;> simp

/-- Narrower than an enumeration is one whose literals are all among
its choices. -/
theorem isNarrowerThan_oneOf_iff {narrow : FieldType} {choices : List Json} :
    narrow.isNarrowerThan (.oneOf choices) = true ↔
      ∃ values, narrow = .oneOf values ∧
        ∀ literal ∈ values,
          ∃ choice ∈ choices, sameLiteral literal choice = true := by
  cases narrow <;> simp

/-- Narrower than a list is a list of narrower items. -/
theorem isNarrowerThan_list_iff {narrow wide : FieldType} :
    narrow.isNarrowerThan (.list wide) = true ↔
      ∃ item, narrow = .list item ∧ item.isNarrowerThan wide = true := by
  cases narrow <;> simp

/-- Narrower than a map is a map of narrower values. -/
theorem isNarrowerThan_map_iff {narrow wide : FieldType} :
    narrow.isNarrowerThan (.map wide) = true ↔
      ∃ value, narrow = .map value ∧ value.isNarrowerThan wide = true := by
  cases narrow <;> simp

/-- Narrower than an optional type is an optional of a narrower one, or a
narrower one itself. -/
theorem isNarrowerThan_optional_iff {narrow wide : FieldType} :
    narrow.isNarrowerThan (.optional wide) = true ↔
      (∃ present,
        narrow = .optional present ∧ present.isNarrowerThan wide = true) ∨
        (∀ present, narrow ≠ .optional present) ∧
        narrow.isNarrowerThan wide = true := by
  cases narrow <;> simp

/-- A schema contains wanted fields if it has one that serves for each. -/
theorem containsFields_eq_true_iff {schema : Schema} {wanted : List Field} :
    containsFields schema wanted = true ↔
      ∀ field ∈ wanted,
        ∃ found,
          schema.field? field.name = some found ∧ found.Serves field := by
  induction wanted with
  | nil => simp [containsFields]
  | cons field rest inductionHypothesis =>
      obtain ⟨name, type, required, default, description⟩ := field
      rw [containsFields, Bool.and_eq_true, inductionHypothesis,
        List.forall_mem_cons]
      apply and_congr_left'
      cases schema.field? name with
      | none => simp
      | some found =>
          simp only [Bool.and_eq_true, Bool.or_eq_true, Bool.not_eq_true',
            Option.some.injEq, exists_eq_left']
          constructor
          · rintro ⟨flags, narrower⟩
            exact ⟨narrower,
              fun needed => flags.resolve_left (by simpa using needed)⟩
          · rintro ⟨narrower, flags⟩
            refine ⟨?_, narrower⟩
            cases required with
            | false => exact .inl rfl
            | true => exact .inr (flags rfl)

/-- Narrower than an object is one whose schema contains its fields. -/
theorem isNarrowerThan_object_iff {narrow : FieldType} {wide : Schema} :
    narrow.isNarrowerThan (.object wide) = true ↔
      ∃ schema, narrow = .object schema ∧
        ∀ field ∈ wide.fields, ∃ found, schema.field? field.name = some found ∧
          found.Serves field := by
  obtain ⟨title, wanted⟩ := wide
  cases narrow <;> simp [containsFields_eq_true_iff]

/-- What an optional type is narrower than is optional itself or
takes anything. -/
theorem wide_of_optional_isNarrowerThan {present wide : FieldType}
    (narrower : (optional present).isNarrowerThan wide = true) :
    wide = .any ∨
    ∃ other, wide = .optional other ∧ present.isNarrowerThan other = true := by
  cases wide with
  | any => exact .inl rfl
  | optional other => exact .inr ⟨other, rfl, by simpa using narrower⟩
  | object schema =>
      obtain ⟨_, impossible, _⟩ := isNarrowerThan_object_iff.mp narrower
      contradiction
  | _ => simp at narrower

end Inversion

/-- Every unambiguous type is narrower than itself. -/
theorem isNarrowerThan_self (type : FieldType)
    (unambiguous : type.Unambiguous) :
    type.isNarrowerThan type = true := by
  induction type with
  | any => exact isNarrowerThan_any .any
  | oneOf values =>
      rw [Unambiguous, distinctItems_iff] at unambiguous
      exact isNarrowerThan_oneOf_iff.mpr ⟨values, rfl, fun literal listed =>
        ⟨literal, listed, sameLiteral_self (unambiguous literal listed)⟩⟩
  | list item inner =>
      exact isNarrowerThan_list_iff.mpr ⟨item, rfl, inner unambiguous⟩
  | map value inner =>
      exact isNarrowerThan_map_iff.mpr ⟨value, rfl, inner unambiguous⟩
  | optional present inner =>
      exact isNarrowerThan_optional_iff.mpr
        (.inl ⟨present, rfl, inner unambiguous⟩)
  | object title fields types =>
      rw [Unambiguous, allUnambiguous_iff] at unambiguous
      have distinct : (⟨title, fields⟩ : Schema).Distinct := unambiguous.1
      refine isNarrowerThan_object_iff.mpr
        ⟨⟨title, fields⟩, rfl, fun field declared => ?_⟩
      exact ⟨field, (Schema.field?_eq_some_iff distinct).mpr ⟨declared, rfl⟩,
        types field declared (unambiguous.2 field declared), id⟩
  | _ => simp [isNarrowerThan]

mutual

/-- Wherever the wide type asks for an integer and the narrow one lists choices
instead, every choice is as expected. -/
def IntegerChoices (expected : Json -> Prop) (narrow : FieldType) :
    FieldType -> Prop
  | .integer =>
      ∀ values, narrow = .oneOf values -> ∀ literal ∈ values, expected literal
  | .optional wide =>
      match narrow with
      | .optional present => present.IntegerChoices expected wide
      | _ => narrow.IntegerChoices expected wide
  | .list wide =>
      ∀ item, narrow = .list item -> item.IntegerChoices expected wide
  | .map wide =>
      ∀ value, narrow = .map value -> value.IntegerChoices expected wide
  | .object ⟨_, wanted⟩ =>
      ∀ schema,
        narrow = .object schema -> AllIntegerChoices expected schema wanted
  | _ => True

/-- The choices of a schema's fields are as expected wherever the wanted ones
are integers. -/
def AllIntegerChoices (expected : Json -> Prop) (schema : Schema) :
    List Field -> Prop
  | [] => True
  | ⟨name, type, _, _, _⟩ :: rest =>
      (∀ found, schema.field? name = some found ->
        found.type.IntegerChoices expected type) ∧
        AllIntegerChoices expected schema rest

end

/-- What is expected of choices in an integer's place is expected
field by field. -/
theorem allIntegerChoices_iff {expected : Json -> Prop} {schema : Schema}
    {wanted : List Field} :
    AllIntegerChoices expected schema wanted ↔
      ∀ field ∈ wanted, ∀ found, schema.field? field.name = some found ->
        found.type.IntegerChoices expected field.type := by
  induction wanted with
  | nil => simp [AllIntegerChoices]
  | cons field rest inductionHypothesis =>
      obtain ⟨name, type, required, default, description⟩ := field
      rw [AllIntegerChoices, inductionHypothesis, List.forall_mem_cons]

/-- An optional type asks of a plain one what the type that it holds asks. -/
theorem integerChoices_optional_of_ne
    {expected : Json -> Prop}
    {narrow wide : FieldType}
    (plain : ∀ present, narrow ≠ .optional present) :
    narrow.IntegerChoices expected (.optional wide) ↔
    narrow.IntegerChoices expected wide := by
  cases narrow with
  | optional present => exact absurd rfl (plain present)
  | _ => exact Iff.rfl

/-- A literal that equals one of a primitive type is one as well, unless it is a
double in the place of an integer. -/
theorem acceptsLiteral_of_sameLiteral
    {type : FieldType}
    {literal other : Json}
    (primitive : type.isPrimitive = true)
    (same : sameLiteral literal other = true)
    (accepted : type.acceptsLiteral other = true)
    (exact : type = .integer -> ¬ literal.IsDouble) :
    type.acceptsLiteral literal = true := by
  cases type with
  | integer =>
      cases literal with
      | number value =>
          cases value with
          | integer => rfl
          | double => exact absurd trivial (exact rfl)
      | _ => cases other <;> simp_all [sameLiteral, Json.same, acceptsLiteral]
  | string | number | boolean =>
      cases other <;> cases literal <;>
        simp_all [sameLiteral, Json.same, acceptsLiteral]
  | _ => contradiction

/-- A type narrower than one that is narrower than a primitive type is narrower
than the primitive type, unless it lists doubles in the place of integers. -/
theorem isNarrowerThan_primitive_trans
    {narrow middle wide : FieldType}
    (primitive : wide.isPrimitive = true)
    (left : narrow.isNarrowerThan middle = true)
    (right : middle.isNarrowerThan wide = true)
    (exact : wide = .integer -> ∀ values, narrow = .oneOf values ->
      ∀ literal ∈ values, ¬ literal.IsDouble) :
    narrow.isNarrowerThan wide = true := by
  obtain rfl | ⟨rfl, rfl⟩ | ⟨choices, rfl, accepted⟩ :=
    (isNarrowerThan_primitive_iff primitive).mp right
  · exact left
  · -- Integers among the numbers: every integer literal is a number.
    obtain rfl | ⟨_, impossible⟩ | ⟨values, rfl, accepted⟩ :=
      (isNarrowerThan_primitive_iff rfl).mp left
    · exact right
    · contradiction
    · refine (isNarrowerThan_primitive_iff rfl).mpr
        (.inr (.inr ⟨values, rfl, ?_⟩))
      intro literal listed
      have integral := accepted literal listed
      cases literal <;> simp_all [acceptsLiteral]
  · obtain ⟨values, rfl, matched⟩ := isNarrowerThan_oneOf_iff.mp left
    refine (isNarrowerThan_primitive_iff primitive).mpr
      (.inr (.inr ⟨values, rfl, ?_⟩))
    intro literal listed
    obtain ⟨choice, chosen, same⟩ := matched literal listed
    exact acceptsLiteral_of_sameLiteral primitive same (accepted choice chosen)
      fun integral => exact integral values rfl literal listed

/-- Of three types in a row the first is narrower than the last if it lists no
double where the last asks for an integer. -/
theorem isNarrowerThan_trans
    (wide narrow middle : FieldType)
    (left : narrow.isNarrowerThan middle = true)
    (right : middle.isNarrowerThan wide = true)
    (choices : narrow.IntegerChoices (¬ ·.IsDouble) wide) :
    narrow.isNarrowerThan wide = true := by
  induction wide generalizing narrow middle with
  | any => exact isNarrowerThan_any narrow
  | string => exact isNarrowerThan_primitive_trans rfl left right (by simp)
  | number => exact isNarrowerThan_primitive_trans rfl left right (by simp)
  | boolean => exact isNarrowerThan_primitive_trans rfl left right (by simp)
  | integer =>
      exact isNarrowerThan_primitive_trans rfl left right fun _ => choices
  | oneOf choices =>
      obtain ⟨others, rfl, chosen⟩ := isNarrowerThan_oneOf_iff.mp right
      obtain ⟨values, rfl, matched⟩ := isNarrowerThan_oneOf_iff.mp left
      refine isNarrowerThan_oneOf_iff.mpr
        ⟨values, rfl, fun literal listed => ?_⟩
      obtain ⟨other, between, first⟩ := matched literal listed
      obtain ⟨choice, present, second⟩ := chosen other between
      exact ⟨choice, present, sameLiteral_trans first second⟩
  | list wide inner =>
      obtain ⟨between, rfl, second⟩ := isNarrowerThan_list_iff.mp right
      obtain ⟨item, rfl, first⟩ := isNarrowerThan_list_iff.mp left
      rw [IntegerChoices] at choices
      exact isNarrowerThan_list_iff.mpr
        ⟨item, rfl, inner item between first second (choices item rfl)⟩
  | map wide inner =>
      obtain ⟨between, rfl, second⟩ := isNarrowerThan_map_iff.mp right
      obtain ⟨value, rfl, first⟩ := isNarrowerThan_map_iff.mp left
      rw [IntegerChoices] at choices
      exact isNarrowerThan_map_iff.mpr
        ⟨value, rfl, inner value between first second (choices value rfl)⟩
  | optional wide inner =>
      rw [isNarrowerThan_optional_iff]
      obtain ⟨between, rfl, second⟩ | ⟨plain, second⟩ :=
        isNarrowerThan_optional_iff.mp right
      · obtain ⟨present, rfl, first⟩ | ⟨bare, first⟩ :=
          isNarrowerThan_optional_iff.mp left
        · exact .inl ⟨present, rfl, inner present between first second choices⟩
        · exact .inr ⟨bare, inner narrow between first second
            ((integerChoices_optional_of_ne bare).mp choices)⟩
      · by_cases bare : ∀ present, narrow ≠ .optional present
        · exact .inr ⟨bare, inner narrow middle left second
            ((integerChoices_optional_of_ne bare).mp choices)⟩
        · -- Only a type that takes anything lies between an optional type and a
          -- plain one.
          obtain ⟨present, bare⟩ := not_forall.mp bare
          obtain rfl := not_not.mp bare
          obtain rfl | ⟨other, rfl, _⟩ := wide_of_optional_isNarrowerThan left
          · exact .inl ⟨present, rfl,
              inner present .any (isNarrowerThan_any present) second choices⟩
          · exact absurd rfl (plain other)
  | object title wanted types =>
      obtain ⟨between, rfl, second⟩ := isNarrowerThan_object_iff.mp right
      obtain ⟨schema, rfl, first⟩ := isNarrowerThan_object_iff.mp left
      rw [IntegerChoices] at choices
      have expected := allIntegerChoices_iff.mp (choices schema rfl)
      refine isNarrowerThan_object_iff.mpr
        ⟨schema, rfl, fun field declared => ?_⟩
      obtain ⟨other, present, serves⟩ := second field declared
      obtain ⟨listed, named⟩ := Schema.mem_of_field? present
      obtain ⟨found, stored, otherServes⟩ := first other listed
      rw [named] at stored
      exact ⟨found, stored,
        types field declared found.type other.type otherServes.type serves.type
          (expected field declared found stored),
        fun needed => otherServes.required (serves.required needed)⟩

/-- A type that is narrower than another lists no double where the other asks
for an integer. -/
theorem integerChoices_of_isNarrowerThan
    (wide narrow : FieldType)
    (narrower : narrow.isNarrowerThan wide = true) :
    narrow.IntegerChoices (¬ ·.IsDouble) wide := by
  induction wide generalizing narrow with
  | integer =>
      rw [IntegerChoices]
      rintro values rfl literal listed isDouble
      obtain impossible | ⟨impossible, _⟩ | ⟨_, ⟨⟩, accepted⟩ :=
        (isNarrowerThan_primitive_iff rfl).mp narrower
      · contradiction
      · contradiction
      · have integral := accepted literal listed
        cases literal with
        | number value => cases value <;> contradiction
        | _ => contradiction
  | list wide inner =>
      rw [IntegerChoices]
      rintro item rfl
      obtain ⟨_, ⟨⟩, narrower⟩ := isNarrowerThan_list_iff.mp narrower
      exact inner item narrower
  | map wide inner =>
      rw [IntegerChoices]
      rintro value rfl
      obtain ⟨_, ⟨⟩, narrower⟩ := isNarrowerThan_map_iff.mp narrower
      exact inner value narrower
  | optional wide inner =>
      obtain ⟨present, rfl, narrower⟩ | ⟨bare, narrower⟩ :=
        isNarrowerThan_optional_iff.mp narrower
      · exact inner present narrower
      · exact (integerChoices_optional_of_ne bare).mpr (inner narrow narrower)
  | object title wanted types =>
      rw [IntegerChoices]
      rintro schema rfl
      obtain ⟨_, ⟨⟩, covered⟩ := isNarrowerThan_object_iff.mp narrower
      rw [allIntegerChoices_iff]
      intro field declared found stored
      obtain ⟨_, present, serves⟩ := covered field declared
      rw [stored] at present
      obtain rfl := Option.some.inj present
      exact types field declared found.type serves.type
  | _ => trivial

/-- Narrowing carries over exactly if no double is among choices in an
integer's place. -/
theorem isNarrowerThan_trans_iff
    {narrow middle wide : FieldType}
    (left : narrow.isNarrowerThan middle = true)
    (right : middle.isNarrowerThan wide = true) :
    narrow.isNarrowerThan wide = true ↔
    narrow.IntegerChoices (¬ ·.IsDouble) wide :=
  ⟨integerChoices_of_isNarrowerThan wide narrow,
    isNarrowerThan_trans wide narrow middle left right⟩

end FieldType

namespace Schema

/-- No name is declared twice at any depth, and no literal repeats a key. -/
def Unambiguous (schema : Schema) : Prop :=
  (FieldType.object schema).Unambiguous

/-- One schema contains another one if its object type is narrower. -/
theorem contains_eq_isNarrowerThan (schema needle : Schema) :
    schema.contains needle =
      (FieldType.object schema).isNarrowerThan (.object needle) := by
  obtain ⟨title, wanted⟩ := needle
  rw [FieldType.isNarrowerThan]
  rfl

/-- One schema contains another one if it has a field that serves for each of
its fields. -/
theorem contains_iff {schema needle : Schema} :
    schema.contains needle = true ↔
      ∀ field ∈ needle.fields, ∃ found, schema.field? field.name = some found ∧
        found.Serves field :=
  FieldType.containsFields_eq_true_iff

end Schema

namespace FieldType

/-- Narrowing and containment are reflexive, and transitive exactly as far as
no enumeration of the narrow side lists a double where the wide side asks for
an integer. -/
theorem narrowing_preorder
    (narrow middle wide : FieldType)
    (schema between needle : Schema) :
    (narrow.Unambiguous -> narrow.isNarrowerThan narrow = true) ∧
      (narrow.isNarrowerThan middle = true ->
        middle.isNarrowerThan wide = true ->
        (narrow.isNarrowerThan wide = true ↔
          narrow.IntegerChoices (¬ ·.IsDouble) wide)) ∧
      (schema.Unambiguous -> schema.contains schema = true) ∧
      (schema.contains between = true -> between.contains needle = true ->
        (schema.contains needle = true ↔
          (object schema).IntegerChoices (¬ ·.IsDouble) (object needle))) := by
  simp only [Schema.contains_eq_isNarrowerThan]
  exact ⟨isNarrowerThan_self narrow, isNarrowerThan_trans_iff,
    isNarrowerThan_self (.object schema), isNarrowerThan_trans_iff⟩

/-- From a choice over a larger choice to optional strings, in a list and
under a field. -/
theorem narrowing_preorder_of_roles :
    (list (.oneOf [.string "user"])).isNarrowerThan
      (.list (.optional .string)) = true ∧
      (⟨none, [.mandatory "roles" (.list (.oneOf [.string "user"]))]⟩ :
        Schema).contains
        ⟨none, [.voluntary "roles" (.list (.optional .string))]⟩ = true := by
  have left : (list (.oneOf [.string "user"])).isNarrowerThan
      (.list (.oneOf [.string "tool", .string "user"])) = true := by decide
  have right : (list (.oneOf [.string "tool", .string "user"])).isNarrowerThan
      (.list (.optional .string)) = true := by decide
  have choices : (list (.oneOf [.string "user"])).IntegerChoices (¬ ·.IsDouble)
      (.list (.optional .string)) := by
    rintro item ⟨⟩
    trivial
  obtain ⟨_, types, _, schemas⟩ := narrowing_preorder
    (.list (.oneOf [.string "user"]))
    (.list (.oneOf [.string "tool", .string "user"]))
    (.list (.optional .string))
    ⟨none, [.mandatory "roles" (.list (.oneOf [.string "user"]))]⟩
    ⟨none,
      [.mandatory "roles" (.list (.oneOf [.string "tool", .string "user"]))]⟩
    ⟨none, [.voluntary "roles" (.list (.optional .string))]⟩
  refine ⟨(types left right).mpr choices,
    (schemas (by decide) (by decide)).mpr ?_⟩
  rintro _ ⟨⟩
  refine ⟨?_, trivial⟩
  rintro _ ⟨⟩
  exact choices

/-- One as a double. -/
def doubleOne : Json :=
  .number (.double ⟨false, 1023 * Nat.pow 2 52, by decide⟩)

/-- The double one equals the integer one as a choice, and is no
integer literal. -/
theorem not_trans_of_enumerated_double :
    (oneOf [doubleOne]).isNarrowerThan (.oneOf [.ofNat 1]) = true ∧
      (oneOf [.ofNat 1]).isNarrowerThan .integer = true ∧
      (oneOf [doubleOne]).isNarrowerThan .integer = false ∧
      (⟨none, [.mandatory "n" (.oneOf [doubleOne])]⟩ : Schema).contains
        ⟨none, [.mandatory "n" (.oneOf [.ofNat 1])]⟩ = true ∧
      (⟨none, [.mandatory "n" (.oneOf [.ofNat 1])]⟩ : Schema).contains
        ⟨none, [.mandatory "n" .integer]⟩ = true ∧
      (⟨none, [.mandatory "n" (.oneOf [doubleOne])]⟩ : Schema).contains
        ⟨none, [.mandatory "n" .integer]⟩ = false := by
  decide +kernel

end FieldType
end PromptTuning
