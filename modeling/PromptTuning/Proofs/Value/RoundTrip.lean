import PromptTuning.Proofs.Value.Conformance

/-!
# Portable forms and back

Reading the portable form of a value back gives its schema again and the normal
form of its data. The data are the same as before exactly when they were
settled, and only a default that is not in normal form itself can unsettle them:
a filled-in default is not normalized.
-/

namespace PromptTuning
namespace Value

/-- The value with its data in normal form. -/
def normalized (value : Value) : Value :=
  ⟨value.schema, value.schema.normalize value.data⟩

/-- Data that conform to a schema are accepted under it again. -/
theorem construct_of_conforms {value : Value} (conforms : value.Conforms) :
    construct value.schema (.object value.data) = .ok value.normalized :=
  ofMembers_of_admits conforms.fits

theorem ofPortable_of_conforms {value : Value} (conforms : value.Conforms) :
    ofPortable value.toPortable = .ok value.normalized := by
  have written := Schema.toSchema_toDocument conforms.formed
  have document :
      value.toPortable.get? "schema" = some value.schema.toDocument := rfl
  have data : value.toPortable.get? "data" = some (.object value.data) := rfl
  unfold ofPortable
  simp only [document, data, written, construct_of_conforms conforms]
  rfl

/-- A value equals its normal form just if it is settled. -/
theorem same_normalized_iff {value : Value} (conforms : value.Conforms) :
    value.normalized.same value = true ↔ value.Settled := by
  obtain ⟨names, fields⟩ := Schema.wellFormed_iff.mp conforms.formed
  have distinct := conforms.distinct
  rw [Json.Distinct] at distinct
  rw [same, normalized, Schema.same_self conforms.formed, Bool.true_and]
  apply FieldType.same_normalizeFields_iff names distinct.1
    conforms.fits.declared
  intro field stored part present
  exact FieldType.same_normalize_iff field.type part (fields field stored).type
    ((conforms.fits.fields field stored).present part present)
    (Json.distinct_of_mem distinct.2 (Members.mem_of_lookup present))

/-- Every value that can be built is read back from its portable form with its
schema and the normal form of its data. That is the same value exactly if the
data are settled, as they are whenever the defaults of the schema are in normal
form at every depth. -/
theorem ofPortable_toPortable {value : Value} (built : value.Built) :
    ofPortable value.toPortable = .ok value.normalized ∧
      (value.normalized.same value = true ↔ value.Settled) ∧
      ((∀ field ∈ value.schema.fields, field.DefaultsSettled) ->
        value.Settled) := by
  have conforms := built.conforms
  refine ⟨ofPortable_of_conforms conforms, same_normalized_iff conforms, ?_⟩
  intro defaults field stored
  exact conforms.settled field stored (defaults field stored)

/-- An integer field that defaults to the double zero. -/
def doubleDefault : Field :=
  (Field.voluntary "n" .integer).withDefault (.number (.double (.zero .double)))

theorem wellFormed_doubleDefault :
    (⟨none, [doubleDefault]⟩ : Schema).WellFormed := by
  refine Schema.wellFormed_iff.mpr ⟨List.nodup_singleton "n", ?_⟩
  intro field stored
  obtain rfl := List.mem_singleton.mp stored
  have coerced :
      (FieldType.coerceInteger? (.number (.double (.zero .double)))).isSome =
        true := by
    decide +kernel
  exact .withDefault trivial trivial coerced

/-- The constructor accepts the double as a default, no data take it up, and
reading the portable form back turns it into an integer. -/
theorem not_same_ofPortable_of_doubleDefault :
    ∃ schema value read,
      Schema.ofFields [doubleDefault] = .ok schema ∧
        construct schema (.object []) = .ok value ∧
        value.Built ∧ ofPortable value.toPortable = .ok read ∧
        read.same value = false := by
  obtain ⟨names, fields⟩ := Schema.wellFormed_iff.mp wellFormed_doubleDefault
  have accepted :
      Schema.ofFields [doubleDefault] = .ok ⟨none, [doubleDefault]⟩ :=
    Schema.ofFields_eq_ok_iff.mpr
      ⟨rfl, names,
        fun field stored value given =>
          ((fields field stored).default value given).2⟩
  have made : construct ⟨none, [doubleDefault]⟩ (.object []) =
      .ok ⟨⟨none, [doubleDefault]⟩,
        [("n", .number (.double (.zero .double)))]⟩ := rfl
  have distinct : (Json.object []).Distinct := ⟨List.nodup_nil, trivial⟩
  have built := Built.construct wellFormed_doubleDefault distinct made
  have conforms := built.conforms
  refine ⟨_, _, _, accepted, made, built, ofPortable_of_conforms conforms, ?_⟩
  rw [Bool.eq_false_iff, ne_eq, same_normalized_iff conforms]
  intro settled
  have number := (settled _ List.mem_cons_self).present _ rfl
  rw [doubleDefault, Field.withDefault, Field.voluntary,
    FieldType.Settled] at number
  exact number _ rfl

/-- A value built from an integer is read back the same, beside the
unsettled default. -/
theorem ofPortable_toPortable_of_integer :
    ∃ value : Value, value.Built ∧
      ofPortable value.toPortable = .ok value.normalized ∧
      (value.normalized.same value = true ↔ value.Settled) := by
  have made : construct ⟨none, [doubleDefault]⟩ (.object [("n", .ofNat 3)]) =
      .ok ⟨⟨none, [doubleDefault]⟩, [("n", .ofNat 3)]⟩ := by rfl
  have distinct : (Json.object [("n", .ofNat 3)]).Distinct :=
    ⟨List.nodup_singleton "n", trivial, trivial⟩
  have built := Built.construct wellFormed_doubleDefault distinct made
  obtain ⟨read, same, _⟩ := ofPortable_toPortable built
  exact ⟨_, built, read, same⟩

end Value
end PromptTuning
