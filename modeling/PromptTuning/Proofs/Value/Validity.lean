import PromptTuning.Proofs.Value.Presence
import PromptTuning.Proofs.Value.RoundTrip

/-!
# Values stay valid

Only two of the operations on values run the validator. The others rely on what
it has established before: whatever the order in which they are used, a value
has no member that its schema does not declare, lacks none that the schema
requires or has a default for, and would be accepted again.
-/

namespace PromptTuning
namespace Value

/-- A value that conforms has no member its schema does not declare. -/
theorem Conforms.declares
    {value : Value}
    (conforms : value.Conforms)
    {key : String}
    (present : key ∈ value.data.keys) :
    value.schema.declares key = true :=
  Schema.declares_iff.mpr
    (List.mem_map.mpr (conforms.fits.declared key present))

/-- Every value that can be built has members for declared fields only and for
each field that is required or has a default, and constructing a value from its
schema and data succeeds. -/
theorem built_stays_valid {value : Value} (built : value.Built) :
    (∀ key ∈ value.data.keys, value.schema.declares key = true) ∧
      (∀ field ∈ value.schema.fields,
        field.required = true ∨ field.default.isSome = true ->
        ∃ part, value.field? field.name = some part) ∧
      construct value.schema (.object value.data) = .ok value.normalized :=
  ⟨fun _ => built.conforms.declares, built.complete,
    construct_of_conforms built.conforms⟩

/-- A count that defaults to zero. -/
def countedExample : Schema :=
  ⟨some "Counted", [(Field.voluntary "turns" .integer).withDefault (.ofNat 0)]⟩

/-- A count that is required, and a note that need not be there. -/
def notedExample : Schema :=
  ⟨none, [.mandatory "turns" .integer, .voluntary "note" .string]⟩

/-- The composition of both, in which the count is required and
has a default. -/
def jointExample : Schema :=
  ⟨some "Counted", [(Field.mandatory "turns" .integer).withDefault (.ofNat 0),
    .voluntary "note" .string]⟩

theorem wellFormed_countedExample : countedExample.WellFormed := by
  refine Schema.wellFormed_iff.mpr
    ⟨List.nodup_singleton "turns", fun field stored => ?_⟩
  obtain rfl := List.mem_singleton.mp stored
  exact .withDefault trivial trivial rfl

theorem wellFormed_notedExample : notedExample.WellFormed := by
  simp [Schema.WellFormed, notedExample, Field.mandatory, Field.voluntary,
    FieldType.WellFormed, FieldType.AllWellFormed]

/-- The count is filled in, required by the composition and left out; the
note is added. -/
theorem built_stays_valid_of_notedExample :
    ∃ counted noted both updated smaller : Value,
      construct countedExample (.object []) = .ok counted ∧
        construct notedExample (.object [("turns", .ofNat 3)]) = .ok noted ∧
        counted.concat noted = .ok both ∧
        both.updateField "note" (.string "done") = .ok updated ∧
        updated.project ["turns"] = .ok smaller ∧ smaller.Built ∧
        smaller.data.keys = ["note"] ∧
        (∀ key ∈ smaller.data.keys, smaller.schema.declares key = true) ∧
        construct smaller.schema (.object smaller.data) =
          .ok smaller.normalized := by
  have empty : (Json.object []).Distinct := ⟨List.nodup_nil, trivial⟩
  have single : (Json.object [("turns", .ofNat 3)]).Distinct :=
    ⟨List.nodup_singleton "turns", trivial, trivial⟩
  have counts : construct countedExample (.object []) =
      .ok ⟨countedExample, [("turns", .ofNat 0)]⟩ := rfl
  have notes : construct notedExample (.object [("turns", .ofNat 3)]) =
      .ok ⟨notedExample, [("turns", .ofNat 3)]⟩ := rfl
  have countedBuilt := Built.construct wellFormed_countedExample empty counts
  have notedBuilt := Built.construct wellFormed_notedExample single notes
  have joined : Value.concat ⟨countedExample, [("turns", .ofNat 0)]⟩
      ⟨notedExample, [("turns", .ofNat 3)]⟩ =
    .ok ⟨jointExample, [("turns", .ofNat 3)]⟩ := rfl
  have updates :
      Value.updateField ⟨jointExample, [("turns", .ofNat 3)]⟩ "note"
        (.string "done") =
        .ok ⟨jointExample, [("turns", .ofNat 3), ("note", .string "done")]⟩ :=
    rfl
  have projects :
      Value.project
        ⟨jointExample, [("turns", .ofNat 3), ("note", .string "done")]⟩
        ["turns"] = .ok ⟨⟨some "Counted", [.voluntary "note" .string]⟩,
          [("note", .string "done")]⟩ := rfl
  have text : (Json.string "done").Distinct := trivial
  have bothBuilt := Built.concat countedBuilt notedBuilt joined
  have smallerBuilt :=
    Built.project (Built.updateField bothBuilt text updates) projects
  obtain ⟨declared, _, again⟩ := built_stays_valid smallerBuilt
  exact ⟨_, _, _, _, _, counts, notes, joined, updates, projects,
    smallerBuilt, rfl, declared,
    again⟩

end Value
end PromptTuning
