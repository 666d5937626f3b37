import PromptTuning.Module.Call
import PromptTuning.Proofs.Schema.Checked
import PromptTuning.Proofs.Schema.Soundness
import PromptTuning.Proofs.Value.Presence

/-!
# What a pipeline admits

A pipeline compares schemas and never looks at the data. An input that it admits
still has every field that the declared schema requires, and what stands there
fits the declared type up to members that the type does not declare, as far as
narrowing is sound for data.
-/

namespace PromptTuning

namespace FieldType

/-- The normal form of what a narrow type accepts, under a wide type: it is
filled if every default is in normal form, and once it is filled only surplus
members are wrong with it. -/
theorem surplusOnly_normalize
    {narrow wide : FieldType}
    (narrowChecked : narrow.Checked)
    (wideChecked : wide.Checked)
    (narrower : narrow.isNarrowerThan wide = true)
    {value : Json}
    {path : Path}
    (clean : narrow.violations path value = []) :
    (narrow.DefaultsSettled -> narrow.Filled (narrow.normalize value)) ∧
      (narrow.Filled (narrow.normalize value) ->
        narrow.IntegerChoices Coercible wide ->
        narrow.SurplusOnly wide path (narrow.normalize value)) := by
  have narrowFormed := (wellFormed_iff_checked narrow).mpr narrowChecked
  have wideFormed := (wellFormed_iff_checked wide).mpr wideChecked
  have accepted := (violations_eq_nil_iff narrow path value).mp clean
  have kept := accepts_normalize narrow value narrowFormed accepted
  constructor
  · intro defaults
    exact filled_of_settled narrow _ kept
      (settled_normalize narrow value narrowFormed defaults accepted)
  · exact surplusOnly_of_isNarrowerThan wide narrow path _
      (unambiguous_of_wellFormed wide wideFormed)
      (unambiguous_of_wellFormed narrow narrowFormed) narrower kept

end FieldType

namespace Field

/-- A field supplies a wanted one from the members of an object: there is a
value if it is required, and a value that is filled has only surplus members
under the wanted type. -/
structure Supplies (found wanted : Field) (members : Members) : Prop where
  present :
    wanted.required = true -> ∃ part, members.lookup wanted.name = some part
  filled :
    ∀ part, members.lookup wanted.name = some part -> found.DefaultsSettled ->
      found.type.Filled part
  fits :
    ∀ part, members.lookup wanted.name = some part -> found.type.Filled part ->
      found.type.IntegerChoices FieldType.Coercible wanted.type ->
        found.type.SurplusOnly wanted.type [.member wanted.name] part

end Field

namespace Value

/-- A value supplies every field of a schema that its own schema contains. -/
theorem Built.supplies
    {value : Value}
    (built : value.Built)
    {declared : Schema}
    (formed : declared.WellFormed)
    (contained : value.schema.contains declared = true)
    {wanted : Field}
    (listed : wanted ∈ declared.fields) :
    ∃ found, value.schema.field? wanted.name = some found ∧
      found.Supplies wanted value.data := by
  have conforms := built.conforms
  obtain ⟨_, fields⟩ := Schema.wellFormed_iff.mp conforms.formed
  obtain ⟨_, wantedFields⟩ := Schema.wellFormed_iff.mp formed
  obtain ⟨found, known, serves⟩ :=
    Schema.contains_iff.mp contained wanted listed
  obtain ⟨stored, named⟩ := Schema.mem_of_field? known
  have accepted {part : Json}
      (given : value.data.lookup wanted.name = some part) :
        found.type.Accepts part :=
    (conforms.fits.fields found stored).present part (named ▸ given)
  refine ⟨found, known, ?_, ?_, ?_⟩
  · intro needed
    rw [← named]
    exact built.complete found stored (.inl (serves.required needed))
  · intro part given defaults
    have settled := conforms.settled found stored defaults
    exact FieldType.filled_of_settled found.type part (accepted given)
      (settled.present part (named ▸ given))
  · intro part given filled coercible
    exact FieldType.surplusOnly_of_isNarrowerThan wanted.type found.type _ part
      (FieldType.unambiguous_of_wellFormed _ (wantedFields wanted listed).type)
      (FieldType.unambiguous_of_wellFormed _ (fields found stored).type)
      serves.type (accepted given) filled coercible

end Value

namespace Module

/-- A pipeline refuses its input, or passes on an input that supplies every
declared field. -/
theorem call_pipeline_admits
    {input : Value}
    (built : input.Built)
    {declared : Schema}
    (formed : declared.WellFormed)
    (training : Bool)
    (name description : String)
    (modules : List Module) :
    input.schema.contains declared = false ∧
        call training input (.pipeline name description declared modules) =
          .done (.error (.inputMismatch name)) ∨
      call training input (.pipeline name description declared modules) =
          callAll training input modules ∧
        ∀ wanted ∈ declared.fields,
          ∃ found, input.schema.field? wanted.name = some found ∧
            found.Supplies wanted input.data := by
  rw [call]
  cases contained : input.schema.contains declared with
  | false => exact .inl ⟨rfl, rfl⟩
  | true =>
      exact .inr
        ⟨rfl, fun wanted listed => built.supplies formed contained listed⟩

/-- Narrowing is sound for data, and so a pipeline's check of schemas is: where
every object has the members that its narrow type requires and every listed
integer can be coerced, the wide type finds nothing but surplus members. -/
theorem narrowing_sound
    {narrow wide : FieldType}
    {declared : Schema}
    {input : Value}
    (narrowChecked : narrow.Checked)
    (wideChecked : wide.Checked)
    (narrower : narrow.isNarrowerThan wide = true)
    (declaredChecked : declared.Checked)
    (built : input.Built) :
    (∀ (value : Json) (path : Path), narrow.violations path value = [] ->
      (narrow.DefaultsSettled -> narrow.Filled (narrow.normalize value)) ∧
        (narrow.Filled (narrow.normalize value) ->
          narrow.IntegerChoices FieldType.Coercible wide ->
            narrow.SurplusOnly wide path (narrow.normalize value))) ∧
      ∀ (training : Bool) (name description : String) (modules : List Module),
        input.schema.contains declared = false ∧
            call training input (.pipeline name description declared modules) =
              .done (.error (.inputMismatch name)) ∨
          call training input (.pipeline name description declared modules) =
              callAll training input modules ∧
            ∀ wanted ∈ declared.fields,
              ∃ found, input.schema.field? wanted.name = some found ∧
                found.Supplies wanted input.data := by
  constructor
  · intro value path clean
    exact FieldType.surplusOnly_normalize narrowChecked
      wideChecked narrower clean
  · exact call_pipeline_admits built
      (Schema.wellFormed_iff_checked.mpr declaredChecked)

/-- A choice of integers, a nested object and a note with a default. -/
def answerExample : Schema where
  title := none
  fields :=
    [.mandatory "answer" (.oneOf [.ofNat 1, .ofNat 2]),
      .mandatory "author"
        (.object
          ⟨none, [.mandatory "name" .string, .voluntary "role" .string]⟩),
      (Field.voluntary "note" .string).withDefault (.string "")]

/-- Any integer and a nested object with fewer fields. -/
def questionExample : Schema where
  title := none
  fields :=
    [.mandatory "author"
      (.object ⟨none, [.mandatory "name" (.optional .string)]⟩),
      .mandatory "answer" .integer]

theorem checked_answerExample : answerExample.Checked := by
  refine ⟨rfl, ⟨trivial, trivial, trivial⟩, nofun,
    ⟨rfl, trivial, nofun, trivial, nofun, trivial⟩,
    nofun, trivial, ?_, trivial⟩
  rintro _ ⟨⟩
  trivial

theorem checked_questionExample : questionExample.Checked :=
  ⟨rfl, ⟨rfl, trivial, nofun, trivial⟩, nofun, trivial, nofun, trivial⟩

/-- An answer without a note. -/
def answerData : Members :=
  [("answer", .ofNat 1),
    ("author", .object [("role", .string "user"), ("name", .string "Ada")])]

theorem admits_answerData : answerExample.Admits answerData := by
  have accepted :
      (FieldType.object answerExample).Accepts (.object answerData) := by
    refine ⟨answerData, rfl,
      ⟨⟨.ofNat 1, List.mem_cons_self, sameLiteral_self trivial⟩,
        ⟨_, rfl, ⟨⟨_, rfl⟩, ⟨_, rfl⟩, trivial⟩, ?_⟩, rfl, trivial⟩, ?_⟩
    · simp [Field.mandatory, Field.voluntary]
    · simp [answerData, Field.mandatory, Field.voluntary]
  exact Schema.accepts_object_iff.mp accepted

/-- The note and the author's role are surplus to the question. -/
theorem narrowing_sound_of_answerExample :
    ∃ input : Value, input.Built ∧ input.schema = answerExample ∧
      (FieldType.object answerExample).SurplusOnly (.object questionExample) []
        (.object input.data) ∧
      ∀ (training : Bool) (name description : String) (modules : List Module),
        call training input
          (.pipeline name description questionExample modules) =
            callAll training input modules ∧
          ∀ wanted ∈ questionExample.fields, ∃ found,
            input.schema.field? wanted.name = some found ∧
            found.Supplies wanted input.data := by
  have clean := Schema.violations_eq_nil_iff.mpr admits_answerData
  have distinct : (Json.object answerData).Distinct :=
    ⟨by simp [answerData, Members.Distinct, Members.keys], trivial,
      ⟨by simp [Members.Distinct, Members.keys], trivial, trivial, trivial⟩,
      trivial⟩
  have made : Value.construct answerExample (.object answerData) =
      .ok ⟨answerExample, answerExample.normalize answerData⟩ := by
    rw [Value.construct, Value.ofMembers, clean]
  have built := Value.Built.construct
    (Schema.wellFormed_iff_checked.mpr checked_answerExample)
    distinct made
  have contained : answerExample.contains questionExample = true := rfl
  have narrower := contained
  rw [Schema.contains_eq_isNarrowerThan] at narrower
  have choices :
      (FieldType.object answerExample).IntegerChoices FieldType.Coercible
        (.object questionExample) := by
    rintro _ ⟨⟩
    refine ⟨?_, ?_, trivial⟩
    · rintro _ ⟨⟩ _ ⟨⟩
      exact ⟨by rintro _ ⟨⟩; trivial, trivial⟩
    · rintro _ ⟨⟩ _ ⟨⟩ literal listed
      obtain rfl | rfl : literal = .ofNat 1 ∨ literal = .ofNat 2 := by
        simpa using listed
      all_goals
        rintro _ _ ⟨⟩
        decide
  have defaults : (FieldType.object answerExample).DefaultsSettled := by
    refine ⟨⟨trivial, ?_⟩, ⟨⟨⟨trivial, ?_⟩, ⟨trivial, ?_⟩, trivial⟩, ?_⟩,
      ⟨trivial, ?_⟩, trivial⟩
    all_goals
      rintro _ ⟨⟩
    trivial
  obtain ⟨data, admits⟩ :=
    narrowing_sound checked_answerExample checked_questionExample narrower
      checked_questionExample built
  obtain ⟨filled, surplus⟩ := data (.object answerData) [] clean
  refine ⟨_, built, rfl, ?_, fun training name description modules => ?_⟩
  · have only := surplus (filled defaults) choices
    rw [answerExample.normalize_object] at only
    exact only
  · exact (admits training name description modules).resolve_left
      fun refused => Bool.noConfusion (contained.symm.trans refused.1)

/-- An author without a name, though the name is required and has a default. -/
def hollowExample : Schema where
  title := none
  fields :=
    [(Field.mandatory "author" (.object ⟨none,
      [(Field.mandatory "name" .string).withDefault
        (.string "Ada")]⟩)).withDefault (.object [])]

/-- An author with a name. -/
def authorExample : Schema where
  title := none
  fields := [.mandatory "author" (.object ⟨none, [.mandatory "name" .string]⟩)]

/-- Two to the power of 63 as a double. -/
def doubleEdge : Json :=
  .number (.double ⟨false, 1086 * Nat.pow 2 52, by decide⟩)

theorem checked_hollowExample : hollowExample.Checked := by
  refine ⟨rfl, ⟨rfl, trivial, ?_, trivial⟩, ?_, trivial⟩
  · rintro _ ⟨⟩
    trivial
  · rintro _ ⟨⟩
    exact ⟨List.nodup_nil, trivial⟩

/-- A default is filled in as it stands, without its own defaults, and a double
may equal a listed integer without being taken as an integer. -/
theorem not_sound_of_hollow_default :
    (hollowExample.Checked ∧ authorExample.Checked ∧
      hollowExample.contains authorExample = true ∧
      hollowExample.violations [] = [] ∧
      authorExample.violations (hollowExample.normalize []) =
        [⟨[.member "author", .member "name"], .missing⟩]) ∧
    (∃ input : Value, Value.construct hollowExample (.object []) = .ok input ∧
      input.Built ∧
      authorExample.violations input.data =
        [⟨[.member "author", .member "name"], .missing⟩] ∧
      ∀ (training : Bool) (name description : String) (modules : List Module),
        call training input (.pipeline name description authorExample modules) =
          callAll training input modules) ∧
    (FieldType.oneOf [.ofNat (2 ^ 63 - 1)]).isNarrowerThan .integer = true ∧
      (FieldType.oneOf [.ofNat (2 ^ 63 - 1)]).violations [] doubleEdge = [] ∧
      FieldType.integer.violations []
        ((FieldType.oneOf [.ofNat (2 ^ 63 - 1)]).normalize doubleEdge) =
        [⟨[], .mismatch "integer" "number"⟩] := by
  have missing : authorExample.violations [("author", .object [])] =
      [⟨[.member "author", .member "name"], .missing⟩] := rfl
  have made : Value.construct hollowExample (.object []) =
      .ok ⟨hollowExample, [("author", .object [])]⟩ := rfl
  have distinct : (Json.object []).Distinct := ⟨List.nodup_nil, trivial⟩
  have built := Value.Built.construct
    (Schema.wellFormed_iff_checked.mpr checked_hollowExample)
    distinct made
  refine ⟨⟨checked_hollowExample,
    ⟨rfl, ⟨rfl, trivial, nofun, trivial⟩, nofun, trivial⟩, rfl, rfl,
    missing⟩, ⟨_, made, built, missing, fun _ _ _ _ => rfl⟩, ?_⟩
  decide +kernel

end Module
end PromptTuning
