import Mathlib.Data.List.Basic
import PromptTuning.Schema.Composition

/-!
# The data a type accepts

`FieldType.Accepts` says which values fit a type without listing what is wrong
with the others. The list of violations of a value is empty exactly when its
type accepts it, whatever the path under which the value is checked. Types nest
through the fields of schemas; `FieldType.induction` is the induction that
reaches into them.
-/

namespace PromptTuning
namespace FieldType

/-- Induction over types, with a hypothesis for the type of every field
of an object. -/
@[induction_eliminator]
theorem induction
    {motive : FieldType -> Prop}
    (string : motive .string)
    (integer : motive .integer)
    (number : motive .number)
    (boolean : motive .boolean)
    (any : motive .any)
    (oneOf : ∀ values, motive (.oneOf values))
    (list : ∀ item, motive item -> motive (.list item))
    (map : ∀ value, motive value -> motive (.map value))
    (optional : ∀ present, motive present -> motive (.optional present))
    (object : ∀ title fields, (∀ field ∈ fields, motive field.type) ->
      motive (.object ⟨title, fields⟩))
    (type : FieldType) :
    motive type :=
  @FieldType.rec
    (fun field => motive field.type)
    motive (fun schema => motive (.object schema))
    (fun fields => ∀ field ∈ fields, motive field.type)
    (fun _ _ _ _ _ inner => inner)
    string integer number boolean any (fun _ inner => inner) list map
    optional oneOf object
    (fun _ listed => absurd listed List.not_mem_nil)
    (fun _ _ first rest => List.forall_mem_cons.mpr ⟨first, rest⟩)
    type

mutual

/-- A value fits a type. -/
def Accepts : FieldType -> Json -> Prop
  | .any, _ => True
  | .optional present, value => value = .null ∨ present.Accepts value
  | .integer, value => (coerceInteger? value).isSome = true
  | .string, value => ∃ text, value = .string text
  | .number, value => ∃ number, value = .number number
  | .boolean, value => ∃ truth, value = .boolean truth
  | .oneOf choices, value => ∃ choice ∈ choices, sameLiteral choice value = true
  | .object ⟨_, fields⟩, value =>
      ∃ members : Members, value = .object members ∧ AllAdmit fields members ∧
        ∀ key ∈ members.keys, ∃ field ∈ fields, field.name = key
  | .list item, value =>
      ∃ items, value = .array items ∧ ∀ part ∈ items, item.Accepts part
  | .map entry, value =>
      ∃ members : Members,
        value = .object members ∧ ∀ member ∈ members, entry.Accepts member.2

/-- The members of an object fit every one of several fields: a present value
fits the type, and an absent one is not needed. -/
def AllAdmit : List Field -> Members -> Prop
  | [], _ => True
  | ⟨name, type, required, default, _⟩ :: rest, members =>
      (match members.lookup name with
        | some value => type.Accepts value
        | none => (required && default.isNone) = false) ∧ AllAdmit rest members

end

/-- No item of a list is reported just if each item fits, wherever the
list stands. -/
theorem itemViolations_eq_nil_iff
    {check : Path -> Json -> List Violation}
    {Fits : Json -> Prop}
    {items : List Json}
    (agree : ∀ item ∈ items, ∀ path, check path item = [] ↔ Fits item)
    (path : Path)
    (index : Nat) :
    itemViolations check path index items = [] ↔ ∀ item ∈ items, Fits item := by
  induction items generalizing index with
  | nil => simp [itemViolations]
  | cons item rest inductionHypothesis =>
      rw [itemViolations, List.append_eq_nil_iff, agree item List.mem_cons_self,
        inductionHypothesis fun other member =>
          agree other (List.mem_cons_of_mem item member)]
      simp

/-- No value of a mapping is reported just if each value fits. -/
theorem valueViolations_eq_nil_iff
    {check : Path -> Json -> List Violation}
    {Fits : Json -> Prop}
    {members : Members}
    (agree :
      ∀ member ∈ members, ∀ path, check path member.2 = [] ↔ Fits member.2)
    (path : Path) :
    valueViolations check path members = [] ↔
    ∀ member ∈ members, Fits member.2 := by
  rw [valueViolations, List.flatMap_eq_nil_iff]
  constructor
  · intro clean member present
    exact (agree member present _).mp (clean member present)
  · intro fits member present
    exact (agree member present _).mpr (fits member present)

/-- No member is unexpected just if every member has a field. -/
theorem unexpected_eq_nil_iff (fields : List Field) (path : Path)
    (members : Members) :
    unexpected fields path members = [] ↔
      ∀ key ∈ members.keys, ∃ field ∈ fields, field.name = key := by
  simp [unexpected, List.filter_eq_nil_iff]

/-- Violations of consecutive items, item by item. -/
theorem itemViolations_eq_flatMap
    (check : Path -> Json -> List Violation)
    (path : Path)
    (index : Nat)
    (items : List Json) :
    itemViolations check path index items =
      (items.zipIdx index).flatMap fun part =>
        check (path ++ [.item part.2]) part.1 := by
  induction items generalizing index with
  | nil => rfl
  | cons item rest inductionHypothesis =>
      rw [itemViolations, inductionHypothesis, List.zipIdx_cons,
        List.flatMap_cons]

/-- Unexpected members are reported at their own names, and nothing else is. -/
theorem mem_unexpected_iff
    {fields : List Field}
    {path : Path}
    {members : Members}
    {violation : Violation} :
    violation ∈ unexpected fields path members ↔
      ∃ key ∈ members.keys, (∀ field ∈ fields, field.name ≠ key) ∧
        violation = ⟨path ++ [.member key], .unexpected⟩ := by
  rw [unexpected, List.mem_map]
  constructor
  · rintro ⟨key, unknown, rfl⟩
    rw [List.mem_filter] at unknown
    exact ⟨key, unknown.1, by simpa using unknown.2, rfl⟩
  · rintro ⟨key, stored, unknown, rfl⟩
    exact ⟨key, List.mem_filter.mpr ⟨stored, by simpa using unknown⟩, rfl⟩

/-- A violation of the declared fields lies within the value of one of them, or
a required field has neither a value nor a default. -/
theorem mem_fieldViolations_iff
    {fields : List Field}
    {path : Path}
    {members : Members}
    {violation : Violation} :
    violation ∈ fieldViolations fields path members ↔
      ∃ field ∈ fields,
        (∃ value, members.lookup field.name = some value ∧
          violation ∈
            field.type.violations (path ++ [.member field.name]) value) ∨
        members.lookup field.name = none ∧ field.required = true ∧
          field.default = none ∧
          violation = ⟨path ++ [.member field.name], .missing⟩ := by
  induction fields with
  | nil => simp [fieldViolations]
  | cons field rest inductionHypothesis =>
      obtain ⟨name, type, required, default, description⟩ := field
      rw [fieldViolations, List.mem_append, inductionHypothesis,
        List.exists_mem_cons_iff]
      apply or_congr_left
      cases members.lookup name with
      | some value => simp
      | none => cases required <;> cases default <;> simp

mutual

/-- A value has no violation exactly when its type accepts it. -/
theorem violations_eq_nil_iff :
    ∀ (type : FieldType) (path : Path) (value : Json),
      type.violations path value = [] ↔ type.Accepts value
  | .any, path, value => by simp [violations, Accepts]
  | .optional present, path, value => by
      cases value <;> simp [violations, Accepts, violations_eq_nil_iff present]
  | .integer, path, value => by
      cases coerced : (coerceInteger? value).isSome <;>
        simp [violations, Accepts, coerced, mismatch]
  | .string, path, value => by
      cases value <;> simp [violations, Accepts, acceptsLiteral, mismatch]
  | .number, path, value => by
      cases value <;> simp [violations, Accepts, acceptsLiteral, mismatch]
  | .boolean, path, value => by
      cases value <;> simp [violations, Accepts, acceptsLiteral, mismatch]
  | .oneOf choices, path, value => by
      simp only [violations, Accepts, ← List.any_eq_true]
      split <;> simp_all
  | .object ⟨title, fields⟩, path, value => by
      cases value with
      | object members =>
          rw [violations, List.append_eq_nil_iff,
            fieldViolations_eq_nil_iff fields, unexpected_eq_nil_iff]
          simp [Accepts]
      | _ => simp [violations, Accepts, mismatch]
  | .list item, path, value => by
      cases value with
      | array items =>
          rw [violations, itemViolations_eq_nil_iff fun part _ place =>
            violations_eq_nil_iff item place part]
          simp [Accepts]
      | _ => simp [violations, Accepts, mismatch]
  | .map entry, path, value => by
      cases value with
      | object members =>
          rw [violations, valueViolations_eq_nil_iff fun member _ place =>
            violations_eq_nil_iff entry place member.2]
          simp [Accepts]
      | _ => simp [violations, Accepts, mismatch]

/-- Members have no violation of declared fields exactly when every field
admits them. -/
theorem fieldViolations_eq_nil_iff :
    ∀ (fields : List Field) (path : Path) (members : Members),
      fieldViolations fields path members = [] ↔ AllAdmit fields members
  | [], path, members => by simp [fieldViolations, AllAdmit]
  | ⟨name, type, required, default, _⟩ :: rest, path, members => by
      rw [fieldViolations, AllAdmit, List.append_eq_nil_iff,
        fieldViolations_eq_nil_iff rest]
      cases members.lookup name with
      | some value => simp [violations_eq_nil_iff type]
      | none => cases required <;> cases default <;> simp

end

end FieldType
end PromptTuning
