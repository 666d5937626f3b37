import PromptTuning.Proofs.Value.Reporting

/-!
# Updating and rebuilding

An update checks the new content of one field and trusts the rest of the value.
That is as good as constructing the value again from all of its data: the rest
of a value that can be built has no violation, and does not get one when another
field changes.
-/

namespace PromptTuning
namespace Value

variable {value : Value} {field : Field}

/-- With another content of a field, the data of a value have the violations of
that content. -/
theorem Conforms.violations_put (conforms : value.Conforms)
    (declared : field ∈ value.schema.fields) (content : Json) :
    value.schema.violations (value.data.put field.name content) =
      field.type.violations [.member field.name] content := by
  have names := conforms.formed.distinct
  have apart := Members.apartFrom_put value.data field.name content
  have others :
      (value.schema.violations (value.data.put field.name content)).filter
        (!·.concerns field.name) = [] := by
    rw [value.schema.filter_violations_congr apart,
      Schema.violations_eq_nil_iff.mpr conforms.fits, List.filter_nil]
  have all :
      (value.schema.violations (value.data.put field.name content)).filter
        (·.concerns field.name) =
        value.schema.violations (value.data.put field.name content) := by
    rw [List.filter_eq_self]
    simpa [List.filter_eq_nil_iff] using others
  rw [← all, Schema.filter_concerns_violations names declared,
    Field.violations_of_lookup (Members.lookup_put_self _ _ _), List.nil_append]

/-- An update of a declared field and a construction with the new content both
succeed, or both fail with the same violations. -/
theorem Conforms.updateField_cases (conforms : value.Conforms)
    (declared : field ∈ value.schema.fields) (content : Json) :
    value.updateField field.name content =
          .ok { value with
            data :=
              value.data.put field.name (field.type.normalize content) } ∧
        construct value.schema (.object (value.data.put field.name content)) =
          .ok ⟨value.schema,
            value.schema.normalize (value.data.put field.name content)⟩ ∨
      ∃ violations,
        value.updateField field.name content = .error (.validation violations) ∧
          construct value.schema (.object (value.data.put field.name content)) =
            .error violations := by
  have names := conforms.formed.distinct
  rw [Value.updateField, (Schema.field?_eq_some_iff names).mpr ⟨declared, rfl⟩]
  dsimp only
  obtain ⟨clean, made⟩ | ⟨faulty, refused⟩ :=
    construct_object_cases value.schema (value.data.put field.name content)
  · rw [conforms.violations_put declared] at clean
    rw [clean]
    exact .inl ⟨rfl, made⟩
  · rw [conforms.violations_put declared] at faulty refused
    refine .inr ⟨_, ?_, refused⟩
    split
    case h_1 clean => exact absurd clean faulty
    case h_2 => rfl

/-- A value constructed from data with a new content of a field holds its
normal form. -/
theorem field?_of_construct_put
    {rebuilt : Value}
    {members : Members}
    {content : Json}
    {schema : Schema}
    (names : schema.Distinct)
    (declared : field ∈ schema.fields)
    (made : construct schema (.object (members.put field.name content)) =
      .ok rebuilt) :
    rebuilt.field? field.name = some (field.type.normalize content) := by
  obtain ⟨_, rfl⟩ := ofMembers_eq_ok made
  rw [field?, Schema.normalize,
    FieldType.lookup_normalizeFields names _ field declared,
    FieldType.normalEntry, Members.lookup_put_self]

/-- Updating a declared field of a value that can be built succeeds exactly if
the value can be constructed again from its data with the new content, and fails
with the violations that this fails with. The updated value has the same schema,
holds what the constructed value holds under the name, the normal form of the
content, and is otherwise unchanged. A name that is not declared is unknown. -/
theorem updateField_agrees_with_construct
    (built : value.Built)
    (name : String)
    (content : Json) :
    ((∀ field ∈ value.schema.fields, field.name ≠ name) ->
        value.updateField name content =
          .error (.schema (.unknownField name))) ∧
      ∀ field ∈ value.schema.fields, field.name = name ->
        ((∃ updated, value.updateField name content = .ok updated) ↔
          ∃ rebuilt,
            construct value.schema (.object (value.data.put name content)) =
              .ok rebuilt) ∧
        (∀ cause, value.updateField name content = .error cause ↔
          ∃ violations, cause = .validation violations ∧
            construct value.schema (.object (value.data.put name content)) =
              .error violations) ∧
        (∀ updated, value.updateField name content = .ok updated ->
          updated.schema = value.schema ∧
            updated.field? name = some (field.type.normalize content) ∧
            ∀ other,
              other ≠ name -> updated.field? other = value.field? other) ∧
        ∀ rebuilt,
          construct value.schema (.object (value.data.put name content)) =
            .ok rebuilt ->
          rebuilt.field? name = some (field.type.normalize content) := by
  have conforms := built.conforms
  have names := conforms.formed.distinct
  constructor
  · intro undeclared
    have missing : value.schema.field? name = none := by
      rw [Schema.field?, List.find?_eq_none]
      intro field stored named
      exact undeclared field stored (beq_iff_eq.mp named)
    rw [updateField, missing]
  · rintro field declared rfl
    have holds (rebuilt : Value)
        (made : construct value.schema
          (.object (value.data.put field.name content)) =
          .ok rebuilt) :
        rebuilt.field? field.name = some (field.type.normalize content) :=
      field?_of_construct_put names declared made
    obtain ⟨updates, constructs⟩ | ⟨violations, updates, constructs⟩ :=
      conforms.updateField_cases declared content
    · refine ⟨iff_of_true ⟨_, updates⟩ ⟨_, constructs⟩, ?_, ?_, holds⟩
      · simp [updates, constructs]
      · intro updated made
        rw [updates] at made
        obtain rfl := Except.ok.inj made
        exact ⟨rfl, Members.lookup_put_self _ _ _,
          fun other different => Members.lookup_put_of_ne different _ _⟩
    · refine ⟨by simp [updates, constructs], ?_, ?_, holds⟩
      · simp [updates, constructs, eq_comm]
      · intro updated made
        rw [updates] at made
        contradiction

/-- A conversation without messages gets another number of turns, but none in
words, and no field that it does not have. -/
theorem updateField_agrees_with_construct_of_conversationExample :
    ∃ value : Value,
      construct conversationExample (.object [("messages", .array [])]) =
        .ok value ∧
      value.Built ∧
      (∃ updated, value.updateField "turns" (.ofNat 2) = .ok updated ∧
        updated.schema = conversationExample ∧
        updated.field? "turns" = some (.ofNat 2) ∧
        ∀ other, other ≠ "turns" -> updated.field? other = value.field? other) ∧
      value.updateField "turns" (.string "two") =
        .error
          (.validation [⟨[.member "turns"], .mismatch "integer" "string"⟩]) ∧
      value.updateField "mood" (.ofNat 1) =
        .error (.schema (.unknownField "mood")) := by
  have made :
      construct conversationExample (.object [("messages", .array [])]) =
        .ok ⟨conversationExample,
          [("messages", .array []), ("turns", .ofNat 0)]⟩ := rfl
  have distinct : (Json.object [("messages", .array [])]).Distinct :=
    ⟨List.nodup_singleton "messages", trivial, trivial⟩
  have built := Built.construct wellFormed_conversationExample distinct made
  have turns : (Field.voluntary "turns" .integer).withDefault (.ofNat 0) ∈
      conversationExample.fields :=
    List.mem_cons_of_mem _ (List.mem_singleton_self _)
  obtain ⟨succeeds, _, keeps, _⟩ :=
    (updateField_agrees_with_construct built "turns" (.ofNat 2)).2 _ turns rfl
  obtain ⟨_, fails, _⟩ :=
    (updateField_agrees_with_construct built "turns" (.string "two")).2 _ turns
      rfl
  obtain ⟨updated, updates⟩ := succeeds.mpr ⟨_, rfl⟩
  refine ⟨_, made, built, ⟨updated, updates, keeps updated updates⟩,
    (fails _).mpr ⟨_, rfl, rfl⟩, ?_⟩
  refine (updateField_agrees_with_construct built "mood" (.ofNat 1)).1 ?_
  simp [conversationExample, Field.mandatory, Field.voluntary,
    Field.withDefault]

end Value
end PromptTuning
