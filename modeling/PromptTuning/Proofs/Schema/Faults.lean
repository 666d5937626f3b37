import Mathlib.Algebra.Group.Nat.Defs
import Mathlib.Data.List.Nodup
import PromptTuning.Proofs.Schema.Normalization

/-!
# Faulty positions

`FaultAt` says, without a list, at which positions of a value something is wrong
under a type: a needed field is absent, a key is not declared, or what stands
there does not fit. The violations of a value are exactly its faulty positions,
each with the path that leads to it, and no position is listed twice.
-/

namespace PromptTuning

namespace FieldType

/-- A value fits a type as far as it is seen without its parts. A double
fits an integer type if it is a whole number below two to the power of 63
in magnitude. -/
inductive Fits : FieldType -> Json -> Prop
  | any {value : Json} : Fits .any value
  | optional {present : FieldType} {value : Json} :
      Fits (.optional present) value
  | string {text : String} : Fits .string (.string text)
  | boolean {truth : Bool} : Fits .boolean (.boolean truth)
  | number {value : Number} : Fits .number (.number value)
  | integer {value : Int}
      {bounded : -9223372036854775808 ≤ value ∧ value < 18446744073709551616} :
      Fits .integer (.number (.integer value bounded))
  | whole {value : FiniteDouble} {magnitude : Nat}
      (equal : value.units = magnitude * 2 ^ BinaryFormat.double.unitExponent)
      (small : magnitude < 2 ^ 63) :
      Fits .integer (.number (.double value))
  | choice {choices : List Json} {choice value : Json}
      (listed : choice ∈ choices)
      (same : sameLiteral choice value = true) :
      Fits (.oneOf choices) value
  | object {schema : Schema} {members : Members} :
      Fits (.object schema) (.object members)
  | list {item : FieldType} {items : List Json} :
      Fits (.list item) (.array items)
  | map {entry : FieldType} {members : Members} :
      Fits (.map entry) (.object members)

/-- A type whose values are not looked into. -/
inductive Flat : FieldType -> Prop
  | any : Flat .any
  | string : Flat .string
  | boolean : Flat .boolean
  | number : Flat .number
  | integer : Flat .integer
  | oneOf {choices : List Json} : Flat (.oneOf choices)

/-- What is wrong with a value that does not fit a type. -/
def misfit : FieldType -> Json -> Fault
  | .oneOf choices, value =>
      .notMember value.compact (FieldType.oneOf choices).describe
  | type, value => .mismatch type.describe value.kind

end FieldType

/-- What is wrong within a value under a type, and the chain of field names, map
keys and list indices that leads there. -/
inductive FaultAt : FieldType -> Json -> Path -> Fault -> Prop
  /-- The value itself does not fit. -/
  | misfit {type : FieldType} {value : Json}
      (misfit : ¬ type.Fits value) :
      FaultAt type value [] (type.misfit value)
  /-- A required field without a default is absent. -/
  | missing {schema : Schema} {members : Members} {field : Field}
      (declared : field ∈ schema.fields)
      (absent : members.lookup field.name = none)
      (required : field.required = true)
      (unfilled : field.default = none) :
      FaultAt (.object schema) (.object members) [.member field.name] .missing
  /-- A key is not declared. -/
  | unexpected {schema : Schema} {members : Members} {key : String}
      (given : key ∈ members.keys)
      (undeclared : ∀ field ∈ schema.fields, field.name ≠ key) :
      FaultAt (.object schema) (.object members) [.member key] .unexpected
  /-- Something is wrong within a value that may be null but is not. -/
  | present {type : FieldType} {value : Json} {path : Path} {fault : Fault}
      (given : value ≠ .null)
      (inner : FaultAt type value path fault) :
      FaultAt (.optional type) value path fault
  /-- Something is wrong within a field. -/
  | member {schema : Schema} {members : Members} {field : Field} {part : Json}
      {path : Path} {fault : Fault} (declared : field ∈ schema.fields)
      (found : members.lookup field.name = some part)
      (inner : FaultAt field.type part path fault) :
      FaultAt (.object schema) (.object members)
        (.member field.name :: path) fault
  /-- Something is wrong within an item of a list. -/
  | item {type : FieldType} {items : List Json} {index : Nat} {part : Json}
      {path : Path} {fault : Fault} (found : items[index]? = some part)
      (inner : FaultAt type part path fault) :
      FaultAt (.list type) (.array items) (.item index :: path) fault
  /-- Something is wrong within an entry of a map. -/
  | entry {type : FieldType} {members : Members} {key : String} {part : Json}
      {path : Path} {fault : Fault} (found : (key, part) ∈ members)
      (inner : FaultAt type part path fault) :
      FaultAt (.map type) (.object members) (.member key :: path) fault

/-- A double stands for an integer exactly if it is a whole number that is
not too large. -/
theorem Number.isSome_coerceInteger?_double (value : FiniteDouble) :
    (Number.double value).coerceInteger?.isSome = true ↔
      ∃ magnitude,
        value.units = magnitude * 2 ^ BinaryFormat.double.unitExponent ∧
        magnitude < 2 ^ 63 := by
  have positive : 0 < 2 ^ BinaryFormat.double.unitExponent := Nat.two_pow_pos _
  rw [coerceInteger?, Finite.toInt?, Nat.pow_eq, Nat.pow_eq]
  generalize 2 ^ BinaryFormat.double.unitExponent = unit at positive ⊢
  by_cases whole : value.units % unit = 0
  · obtain ⟨magnitude, equal⟩ := Nat.dvd_of_mod_eq_zero whole
    rw [Nat.mul_comm] at equal
    have only :
        (∃ other, value.units = other * unit ∧ other < 2 ^ 63) ↔
        magnitude < 2 ^ 63 := by
      constructor
      · rintro ⟨other, again, small⟩
        rwa [Nat.eq_of_mul_eq_mul_right positive (equal.symm.trans again)]
      · exact fun small => ⟨magnitude, equal, small⟩
    rw [only, if_pos whole, equal, Nat.mul_div_cancel _ positive]
    have size :
        (if value.negative = true then -(magnitude : Int)
          else magnitude).natAbs =
          magnitude := by
      split <;> simp
    simp only [size]
    split
    case isTrue small =>
      have inRange : -9223372036854775808 ≤
            (if value.negative = true then -(magnitude : Int) else magnitude) ∧
          (if value.negative = true then -(magnitude : Int) else magnitude) <
            18446744073709551616 := by
        split <;> omega
      simp [ofInt?, inRange, small]
    case isFalse large => simp [large]
  · rw [if_neg whole]
    refine iff_of_false (by simp) ?_
    rintro ⟨magnitude, equal, _⟩
    exact whole (by rw [equal, Nat.mul_mod_left])

namespace FieldType

/-- Fit for an integer is what can be coerced to one. -/
theorem fits_integer_iff {value : Json} :
    FieldType.integer.Fits value ↔ (coerceInteger? value).isSome = true := by
  constructor
  · intro fits
    cases fits with
    | integer => rfl
    | whole equal small =>
        rw [coerceInteger?, Option.isSome_map]
        exact (Number.isSome_coerceInteger?_double _).mpr ⟨_, equal, small⟩
  · intro coerced
    cases value with
    | number value =>
        cases value with
        | integer value bounded => exact .integer
        | double value =>
            rw [coerceInteger?, Option.isSome_map] at coerced
            obtain ⟨magnitude, equal, small⟩ :=
              (Number.isSome_coerceInteger?_double value).mp coerced
            exact .whole equal small
    | _ => contradiction

/-- Fit for an enumeration is what is the same as one of its choices. -/
theorem fits_oneOf_iff {choices : List Json} {value : Json} :
    (FieldType.oneOf choices).Fits value ↔
      (choices.any fun choice => sameLiteral choice value) = true := by
  rw [List.any_eq_true]
  constructor
  · rintro ⟨⟩
    exact ⟨_, ‹_›, ‹_›⟩
  · rintro ⟨choice, listed, same⟩
    exact .choice listed same

/-- A value that does not fit has that one violation. -/
theorem violations_of_not_fits
    {type : FieldType}
    {value : Json}
    (misfit : ¬ type.Fits value)
    (path : Path) :
    type.violations path value = [⟨path, type.misfit value⟩] := by
  cases type with
  | any => exact absurd .any misfit
  | optional present => exact absurd .optional misfit
  | integer =>
      rw [fits_integer_iff] at misfit
      rw [violations, if_neg misfit]
      rfl
  | oneOf choices =>
      rw [fits_oneOf_iff] at misfit
      rw [violations, if_neg misfit]
      rfl
  | string =>
      cases value with
      | string text => exact absurd .string misfit
      | _ => rfl
  | boolean =>
      cases value with
      | boolean truth => exact absurd .boolean misfit
      | _ => rfl
  | number =>
      cases value with
      | number value => exact absurd .number misfit
      | _ => rfl
  | object schema =>
      obtain ⟨title, fields⟩ := schema
      cases value with
      | object members => exact absurd .object misfit
      | _ => rfl
  | list item =>
      cases value with
      | array items => exact absurd .list misfit
      | _ => rfl
  | map entry =>
      cases value with
      | object members => exact absurd .map misfit
      | _ => rfl

/-- A value that fits a type that looks no further has no violation. -/
theorem Flat.violations_of_fits
    {type : FieldType}
    {value : Json}
    (flat : type.Flat)
    (fits : type.Fits value)
    (path : Path) :
    type.violations path value = [] := by
  cases flat with
  | integer => rw [violations, if_pos (fits_integer_iff.mp fits)]
  | oneOf => rw [violations, if_pos (fits_oneOf_iff.mp fits)]
  | _ =>
      cases fits
      rfl

end FieldType

namespace Field

/-- Every violation of one declared field by the members of an object. -/
def violations (field : Field) (path : Path) (members : Members) :
    List Violation :=
  match members.lookup field.name with
  | some value => field.type.violations (path ++ [.member field.name]) value
  | none =>
      if field.required && field.default.isNone then
        [⟨path ++ [.member field.name], .missing⟩]
      else []

/-- What is wrong with a field that is there is what is wrong with its value. -/
theorem violations_of_lookup
    {field : Field}
    {members : Members}
    {value : Json}
    (found : members.lookup field.name = some value)
    (path : Path) :
    field.violations path members =
      field.type.violations (path ++ [.member field.name]) value := by
  rw [violations, found]

end Field

namespace FieldType

/-- Violations of the declared fields, field by field. -/
theorem fieldViolations_eq_flatMap (fields : List Field) (path : Path)
    (members : Members) :
    fieldViolations fields path members =
      fields.flatMap fun field => field.violations path members := by
  induction fields with
  | nil => rfl
  | cons field rest inductionHypothesis =>
      obtain ⟨name, type, required, default, description⟩ := field
      rw [fieldViolations, inductionHypothesis, List.flatMap_cons]
      rfl

/-- What is wrong with an object is wrong with its fields or unexpected. -/
theorem violations_object (schema : Schema) (path : Path) (members : Members) :
    (FieldType.object schema).violations path (.object members) =
      fieldViolations schema.fields path members ++
      unexpected schema.fields path members := by
  obtain ⟨title, fields⟩ := schema
  rw [violations]

/-- Whatever is faulty is listed, with the path that leads there. -/
theorem mem_violations_of_faultAt
    {type : FieldType}
    {value : Json}
    {place : Path}
    {fault : Fault}
    (faulty : FaultAt type value place fault)
    (path : Path) :
    ⟨path ++ place, fault⟩ ∈ type.violations path value := by
  induction faulty generalizing path with
  | misfit misfit =>
      rw [violations_of_not_fits misfit, List.append_nil]
      exact List.mem_singleton_self _
  | missing declared absent required unfilled =>
      rw [violations_object, List.mem_append, mem_fieldViolations_iff]
      exact .inl ⟨_, declared, .inr ⟨absent, required, unfilled, rfl⟩⟩
  | unexpected given undeclared =>
      rw [violations_object, List.mem_append, mem_unexpected_iff]
      exact .inr ⟨_, given, undeclared, rfl⟩
  | @present type value place fault given inner inductionHypothesis =>
      cases value with
      | null => contradiction
      | _ => exact inductionHypothesis path
  | @member schema members field part place fault declared found inner
      inductionHypothesis =>
      rw [violations_object, List.mem_append, mem_fieldViolations_iff]
      refine .inl ⟨field, declared, .inl ⟨part, found, ?_⟩⟩
      rw [List.append_cons path _ place]
      exact inductionHypothesis (path ++ [.member field.name])
  | @item type items index part place fault found inner inductionHypothesis =>
      rw [violations, itemViolations_eq_flatMap, List.mem_flatMap]
      refine ⟨(part, index), List.mem_zipIdx_iff_getElem?.mpr found, ?_⟩
      rw [List.append_cons path _ place]
      exact inductionHypothesis (path ++ [.item index])
  | @entry type members key part place fault found inner inductionHypothesis =>
      rw [violations, valueViolations, List.mem_flatMap]
      refine ⟨(key, part), found, ?_⟩
      rw [List.append_cons path _ place]
      exact inductionHypothesis (path ++ [.member key])

/-- A path below a segment, as a path below the value that the segment
leads from. -/
theorem append_below (path : Path) (segment : Segment) (place : Path) :
    path ++ [segment] ++ place = path ++ segment :: place :=
  (List.append_cons path segment place).symm

/-- A value that does not fit is reported with its fault. -/
theorem exists_faultAt_of_not_fits
    {type : FieldType}
    {path : Path}
    {value : Json}
    {violation : Violation}
    (misfit : ¬ type.Fits value)
    (listed : violation ∈ type.violations path value) :
    ∃ place, violation.path = path ++ place ∧
      FaultAt type value place violation.fault := by
  rw [violations_of_not_fits misfit] at listed
  obtain rfl := List.mem_singleton.mp listed
  exact ⟨[], (List.append_nil path).symm, .misfit misfit⟩

/-- What is reported of a flat value is a fault of the value itself. -/
theorem Flat.exists_faultAt
    {type : FieldType}
    {path : Path}
    {value : Json}
    {violation : Violation}
    (flat : type.Flat)
    (listed : violation ∈ type.violations path value) :
    ∃ place, violation.path = path ++ place ∧
      FaultAt type value place violation.fault := by
  refine exists_faultAt_of_not_fits (fun fits => ?_) listed
  rw [flat.violations_of_fits fits] at listed
  exact List.not_mem_nil listed

/-- Whatever is listed is faulty, at the path from the value. -/
theorem exists_faultAt_of_mem_violations
    (type : FieldType)
    {path : Path}
    {value : Json}
    {violation : Violation}
    (listed : violation ∈ type.violations path value) :
    ∃ place, violation.path = path ++ place ∧
      FaultAt type value place violation.fault := by
  induction type generalizing path value violation with
  | any => exact Flat.any.exists_faultAt listed
  | string => exact Flat.string.exists_faultAt listed
  | boolean => exact Flat.boolean.exists_faultAt listed
  | number => exact Flat.number.exists_faultAt listed
  | integer => exact Flat.integer.exists_faultAt listed
  | oneOf choices => exact Flat.oneOf.exists_faultAt listed
  | optional present inductionHypothesis =>
      by_cases null : value = .null
      · subst null
        exact absurd listed List.not_mem_nil
      · have inner : violation ∈ present.violations path value := by
          cases value with
          | null => contradiction
          | _ => exact listed
        obtain ⟨place, reached, faulty⟩ := inductionHypothesis inner
        exact ⟨place, reached, .present null faulty⟩
  | list item inductionHypothesis =>
      cases value with
      | array items =>
          rw [violations, itemViolations_eq_flatMap, List.mem_flatMap] at listed
          obtain ⟨⟨part, index⟩, stored, inner⟩ := listed
          obtain ⟨place, reached, faulty⟩ := inductionHypothesis inner
          have found := List.mem_zipIdx_iff_getElem?.mp stored
          exact ⟨.item index :: place,
            reached.trans (append_below path _ place),
            .item found faulty⟩
      | _ => exact exists_faultAt_of_not_fits (by rintro ⟨⟩) listed
  | map entry inductionHypothesis =>
      cases value with
      | object members =>
          rw [violations, valueViolations, List.mem_flatMap] at listed
          obtain ⟨⟨key, part⟩, stored, inner⟩ := listed
          obtain ⟨place, reached, faulty⟩ := inductionHypothesis inner
          exact ⟨.member key :: place,
            reached.trans (append_below path _ place),
            .entry stored faulty⟩
      | _ => exact exists_faultAt_of_not_fits (by rintro ⟨⟩) listed
  | object title fields inductionHypothesis =>
      cases value with
      | object members =>
          rw [violations_object, List.mem_append, mem_fieldViolations_iff,
            mem_unexpected_iff] at listed
          obtain ⟨field, declared,
            ⟨part, found, inner⟩ | ⟨absent, required, unfilled, missing⟩⟩ |
            ⟨key, given, undeclared, unexpected⟩ := listed
          · obtain ⟨place, reached, faulty⟩ :=
              inductionHypothesis field declared inner
            exact ⟨.member field.name :: place,
              reached.trans (append_below path _ place),
              .member declared found faulty⟩
          · rw [missing]
            exact ⟨_, rfl, .missing declared absent required unfilled⟩
          · rw [unexpected]
            exact ⟨_, rfl, .unexpected given undeclared⟩
      | _ => exact exists_faultAt_of_not_fits (by rintro ⟨⟩) listed

/-- The violations of a value are its faulty positions. -/
theorem mem_violations_iff {type : FieldType} {value : Json} {place : Path}
    {fault : Fault} :
    ⟨place, fault⟩ ∈ type.violations [] value ↔
    FaultAt type value place fault := by
  constructor
  · intro listed
    obtain ⟨other, reached, faulty⟩ :=
      exists_faultAt_of_mem_violations type listed
    obtain rfl : place = other := reached
    exact faulty
  · exact fun faulty => mem_violations_of_faultAt faulty []

/-- Lists of violations below different segments have no path in common. -/
theorem nodup_paths_flatMap
    {Part : Type}
    {parts : List Part}
    {check : Part -> List Violation}
    (path : Path)
    (segment : Part -> Segment)
    (distinct : (parts.map segment).Nodup)
    (each : ∀ part ∈ parts, ((check part).map Violation.path).Nodup)
    (below : ∀ part ∈ parts, ∀ violation ∈ check part,
      ∃ place, violation.path = path ++ segment part :: place) :
    ((parts.flatMap check).map Violation.path).Nodup := by
  rw [List.map_flatMap, List.nodup_flatMap]
  refine ⟨each, (List.pairwise_map.mp distinct).imp_of_mem ?_⟩
  intro left right leftListed rightListed different
  refine List.disjoint_left.mpr fun shared fromLeft fromRight => ?_
  obtain ⟨first, firstListed, rfl⟩ := List.mem_map.mp fromLeft
  obtain ⟨second, secondListed, same⟩ := List.mem_map.mp fromRight
  obtain ⟨leftPlace, leftPath⟩ := below left leftListed first firstListed
  obtain ⟨rightPlace, rightPath⟩ := below right rightListed second secondListed
  rw [leftPath, rightPath] at same
  exact different (List.cons.inj (List.append_cancel_left same)).1.symm

/-- Every violation of a field lies below its name. -/
theorem exists_path_of_mem_field_violations
    {field : Field}
    {path : Path}
    {members : Members}
    {violation : Violation}
    (listed : violation ∈ field.violations path members) :
    ∃ place, violation.path = path ++ .member field.name :: place := by
  unfold Field.violations at listed
  split at listed
  case h_1 part found =>
    obtain ⟨place, reached, _⟩ :=
      exists_faultAt_of_mem_violations field.type listed
    exact ⟨place, reached.trans (append_below path _ place)⟩
  case h_2 absent =>
    split at listed
    · obtain rfl := List.mem_singleton.mp listed
      exact ⟨[], rfl⟩
    · exact absurd listed List.not_mem_nil

/-- Unexpected members are reported once each. -/
theorem nodup_paths_unexpected {members : Members} (distinct : members.Distinct)
    (fields : List Field) (path : Path) :
    ((unexpected fields path members).map Violation.path).Nodup := by
  rw [unexpected, List.map_map]
  refine (distinct.filter _).map fun left right same => ?_
  exact Segment.member.inj (List.cons.inj (List.append_cancel_left same)).1

/-- A value that does not fit is reported once. -/
theorem nodup_paths_of_not_fits
    {type : FieldType}
    {path : Path}
    {value : Json}
    (misfit : ¬ type.Fits value) :
    ((type.violations path value).map Violation.path).Nodup := by
  rw [violations_of_not_fits misfit]
  exact List.nodup_singleton path

/-- A flat value is reported at most once. -/
theorem Flat.nodup_paths {type : FieldType} (flat : type.Flat) (path : Path)
    (value : Json) :
    ((type.violations path value).map Violation.path).Nodup := by
  by_cases fits : type.Fits value
  · rw [flat.violations_of_fits fits]
    exact List.nodup_nil
  · exact nodup_paths_of_not_fits fits

/-- Names that are not repeated lead to different members. -/
theorem nodup_members {Part : Type} {parts : List Part} {name : Part -> String}
    (distinct : (parts.map name).Nodup) :
    (parts.map fun part => Segment.member (name part)).Nodup := by
  have renamed := distinct.map fun left right same => Segment.member.inj same
  rwa [List.map_map] at renamed

/-- No position within an object is listed twice if none within a field is. -/
theorem nodup_paths_object
    {schema : Schema}
    {members : Members}
    {path : Path}
    (names : schema.Distinct)
    (distinct : members.Distinct)
    (each : ∀ field ∈ schema.fields,
      ((field.violations path members).map Violation.path).Nodup) :
    (((FieldType.object schema).violations path (.object members)).map
      Violation.path).Nodup := by
  rw [violations_object, fieldViolations_eq_flatMap, List.map_append,
    List.nodup_append]
  refine ⟨?_, nodup_paths_unexpected distinct schema.fields path, ?_⟩
  · exact nodup_paths_flatMap path (fun field => .member field.name)
      (nodup_members names) each
      fun field _ violation listed => exists_path_of_mem_field_violations listed
  · -- What is not declared lies below no declared name.
    intro place fromField other fromKey same
    obtain ⟨first, firstListed, rfl⟩ := List.mem_map.mp fromField
    obtain ⟨second, secondListed, rfl⟩ := List.mem_map.mp fromKey
    obtain ⟨field, declared, listed⟩ := List.mem_flatMap.mp firstListed
    obtain ⟨key, _, undeclared, rfl⟩ := mem_unexpected_iff.mp secondListed
    obtain ⟨place, reached⟩ := exists_path_of_mem_field_violations listed
    rw [reached] at same
    exact undeclared field declared
      (Segment.member.inj (List.cons.inj (List.append_cancel_left same)).1)

/-- No position is listed twice. -/
theorem nodup_paths_violations
    (type : FieldType)
    (formed : type.WellFormed)
    {value : Json}
    (distinct : value.Distinct)
    (path : Path) :
    ((type.violations path value).map Violation.path).Nodup := by
  induction type generalizing value path with
  | any => exact Flat.any.nodup_paths path value
  | string => exact Flat.string.nodup_paths path value
  | boolean => exact Flat.boolean.nodup_paths path value
  | number => exact Flat.number.nodup_paths path value
  | integer => exact Flat.integer.nodup_paths path value
  | oneOf choices => exact Flat.oneOf.nodup_paths path value
  | optional present inductionHypothesis =>
      cases value with
      | null => exact List.nodup_nil
      | _ => exact inductionHypothesis formed distinct path
  | list item inductionHypothesis =>
      cases value with
      | array items =>
          rw [Json.Distinct, distinctItems_iff] at distinct
          rw [violations, itemViolations_eq_flatMap]
          refine nodup_paths_flatMap path (fun part => .item part.2) ?_ ?_ ?_
          · have indices : (items.zipIdx.map Prod.snd).Nodup := by
              rw [List.zipIdx_map_snd]
              exact List.nodup_range'
            have places :=
              indices.map fun left right same => Segment.item.inj same
            rwa [List.map_map] at places
          · rintro ⟨part, index⟩ stored
            exact inductionHypothesis formed
              (distinct part (List.fst_mem_of_mem_zipIdx stored)) _
          · rintro ⟨part, index⟩ stored violation listed
            obtain ⟨place, reached, _⟩ :=
              exists_faultAt_of_mem_violations item listed
            exact ⟨place, reached.trans (append_below path _ place)⟩
      | _ => exact nodup_paths_of_not_fits (by rintro ⟨⟩)
  | map entry inductionHypothesis =>
      cases value with
      | object members =>
          rw [Json.Distinct, distinctMembers_iff] at distinct
          rw [violations, valueViolations]
          refine nodup_paths_flatMap path (fun member => .member member.1)
            (nodup_members distinct.1) ?_ ?_
          · rintro ⟨key, part⟩ stored
            exact inductionHypothesis formed (distinct.2 (key, part) stored) _
          · rintro ⟨key, part⟩ stored violation listed
            obtain ⟨place, reached, _⟩ :=
              exists_faultAt_of_mem_violations entry listed
            exact ⟨place, reached.trans (append_below path _ place)⟩
      | _ => exact nodup_paths_of_not_fits (by rintro ⟨⟩)
  | object title fields inductionHypothesis =>
      cases value with
      | object members =>
          rw [Json.Distinct] at distinct
          obtain ⟨names, each⟩ := Schema.wellFormed_iff.mp formed
          refine nodup_paths_object names distinct.1 fun field declared => ?_
          unfold Field.violations
          split
          case h_1 part found =>
            exact inductionHypothesis field declared (each field declared).type
              (Json.distinct_of_mem distinct.2 (Members.mem_of_lookup found)) _
          case h_2 =>
            split
            · exact List.nodup_singleton _
            · exact List.nodup_nil
      | _ => exact nodup_paths_of_not_fits (by rintro ⟨⟩)

end FieldType
end PromptTuning
