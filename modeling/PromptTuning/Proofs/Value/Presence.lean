import PromptTuning.Proofs.Value.Conformance

/-!
# Values are complete

However a value is built, each field of its schema that is required or has a
default has a value. Construction fills the fields in, and the other operations
take no value away without its field.
-/

namespace PromptTuning
namespace Value

/-- Every field that is required or has a default has a value. -/
def Complete (value : Value) : Prop :=
  ∀ field ∈ value.schema.fields,
    field.required = true ∨ field.default.isSome = true ->
    ∃ part, value.data.lookup field.name = some part

/-- A value made of members has every field of its schema. -/
theorem complete_of_ofMembers
    {schema : Schema}
    {members : Members}
    {value : Value}
    (distinct : schema.Distinct)
    (made : ofMembers schema members = .ok value) :
    value.Complete := by
  obtain ⟨admitted, rfl⟩ := ofMembers_eq_ok made
  intro field stored needed
  have found := FieldType.lookup_normalizeFields distinct members field stored
  change ∃ part,
    (FieldType.normalizeFields schema.fields members).lookup field.name =
      some part
  rw [found, FieldType.normalEntry]
  cases given : members.lookup field.name with
  | some part => exact ⟨_, rfl⟩
  | none =>
      have absent := (admitted.fields field stored).absent given
      cases default : field.default with
      | some part => exact ⟨part, rfl⟩
      | none =>
          have required : field.required = true := by
            simpa [default] using needed
          simp [required, default] at absent

/-- Setting one field of a complete value keeps it complete. -/
theorem Complete.updateField
    {value updated : Value}
    {name : String}
    {content : Json}
    (complete : value.Complete)
    (made : value.updateField name content = .ok updated) :
    updated.Complete := by
  obtain ⟨replaced, _, _, rfl⟩ := updateField_eq_ok made
  intro field stored needed
  by_cases same : field.name = name
  · subst same
    exact ⟨_,
      Members.lookup_put_self field.name (replaced.type.normalize content)
        value.data⟩
  · obtain ⟨part, found⟩ := complete field stored needed
    exact ⟨part, (Members.lookup_put_of_ne same _ value.data).trans found⟩

/-- A complete value cut down to some of its fields has all of them. -/
theorem Complete.restrict
    {value : Value}
    (complete : value.Complete)
    {schema : Schema}
    (chosen : schema.fields ⊆ value.schema.fields) :
    (value.restrict schema).Complete := by
  intro field stored needed
  have declared : field ∈ schema.fields := stored
  rw [lookup_restrict value declared]
  exact complete field (chosen declared) needed

/-- What construction makes of data has every field of its schema. -/
theorem complete_of_construct
    {schema : Schema}
    {data : Json}
    {value : Value}
    (formed : schema.WellFormed)
    (made : construct schema data = .ok value) :
    value.Complete := by
  obtain ⟨members, rfl, made⟩ := construct_eq_ok made
  exact complete_of_ofMembers formed.distinct made

/-- Every value that can be built has all that its schema requires or has a
default for. -/
theorem Built.complete {value : Value} (built : value.Built) :
    value.Complete := by
  induction built with
  | construct formed distinct made => exact complete_of_construct formed made
  | updateField _ distinct made inductionHypothesis =>
      exact inductionHypothesis.updateField made
  | concat leftBuilt rightBuilt made =>
      obtain ⟨schema, composed, checked⟩ := concat_eq_ok made
      have formed :=
        leftBuilt.conforms.formed.compose rightBuilt.conforms.formed composed
      exact complete_of_ofMembers formed.distinct checked
  | project _ made inductionHypothesis =>
      obtain ⟨fields, chosen, rfl⟩ := project_eq_ok made
      exact inductionHypothesis.restrict chosen.subset
  | keep _ made inductionHypothesis =>
      obtain ⟨fields, chosen, rfl⟩ := keep_eq_ok made
      exact inductionHypothesis.restrict chosen.subset
  | ofPortable distinct made =>
      obtain ⟨schema, data, formed, _, made⟩ := ofPortable_eq_ok distinct made
      exact complete_of_construct formed made

end Value
end PromptTuning
