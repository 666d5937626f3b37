import Mathlib
import PromptTuning.Proofs.Schema.Monoid
import PromptTuning.Module.Basic

/-!
# Thinking fields

The names of the thinking fields are pairwise distinct, so they form a schema of
any length, and only a target field of one of these names and another type than
text stands in the way of a chain of thought. Its output schema starts with the
thinking fields, merged with the target fields of their names, and goes on with
the other target fields.
-/

namespace PromptTuning
namespace ChainOfThought

section Names

/-- A numbered name is longer than the text that it starts with. -/
theorem length_thinkingName_succ (index : Nat) :
    (thinkingName (index + 1)).length = 9 + (toString (index + 1)).length := by
  rw [thinkingName, if_neg index.succ_ne_zero, String.length_append]
  rfl

/-- No numbered name is the one without a number, because it is longer. -/
theorem thinkingName_zero_ne_succ (index : Nat) :
    thinkingName 0 ≠ thinkingName (index + 1) := by
  intro same
  have lengths := congrArg String.length same
  rw [length_thinkingName_succ] at lengths
  have eight : (thinkingName 0).length = 8 := rfl
  omega

/-- No two thinking fields have the same name. -/
theorem thinkingName_injective : Function.Injective thinkingName := by
  intro first second same
  cases first with
  | zero =>
      cases second with
      | zero => rfl
      | succ second => exact absurd same (thinkingName_zero_ne_succ second)
  | succ first =>
      cases second with
      | zero => exact absurd same.symm (thinkingName_zero_ne_succ first)
      | succ second =>
          rw [thinkingName, thinkingName, if_neg first.succ_ne_zero,
            if_neg second.succ_ne_zero,
            String.append_right_inj] at same
          exact Nat.repr_inj.mp same

/-- The names of the thinking fields, in order. -/
def thinkingNames (count : Nat) : List String :=
  (List.range count).map thinkingName

/-- The names in a schema of thinking fields are those of the fields. -/
theorem mem_thinkingNames_iff {count : Nat} {name : String} :
    name ∈ thinkingNames count ↔
    ∃ index < count, thinkingName index = name := by
  simp [thinkingNames]

/-- The names of thinking fields are pairwise distinct. -/
theorem nodup_thinkingNames (count : Nat) : (thinkingNames count).Nodup :=
  List.nodup_range.map thinkingName_injective

theorem names_thinkingFields (count : Nat) :
    (thinkingFields count).map (·.name) = thinkingNames count := by
  rw [thinkingFields, List.map_map]
  rfl

end Names

section Schema

/-- The schema of the thinking fields alone. -/
def thinkingSchema (count : Nat) : Schema :=
  ⟨none, thinkingFields count⟩

theorem names_thinkingSchema (count : Nat) :
    (thinkingSchema count).names = thinkingNames count :=
  names_thinkingFields count

/-- The schema of the thinking fields repeats no name. -/
theorem distinct_thinkingSchema (count : Nat) :
    (thinkingSchema count).Distinct := by
  rw [Schema.Distinct, names_thinkingSchema]
  exact nodup_thinkingNames count

/-- The schema of the thinking fields is unambiguous. -/
theorem unambiguous_thinkingSchema (count : Nat) :
    (thinkingSchema count).Unambiguous := by
  refine ⟨distinct_thinkingSchema count,
    FieldType.allUnambiguous_iff.mpr fun field listed => ?_⟩
  obtain ⟨index, _, rfl⟩ := List.mem_map.mp listed
  trivial

/-- The thinking fields form a schema, however many they are. -/
theorem ofFields_thinkingFields (count : Nat) :
    Schema.ofFields (thinkingFields count) = .ok (thinkingSchema count) := by
  refine Schema.ofFields_eq_ok_iff.mpr ⟨rfl, distinct_thinkingSchema count, ?_⟩
  intro field listed value given
  obtain ⟨index, _, rfl⟩ := List.mem_map.mp listed
  contradiction

/-- What a chain of thought answers is the composition of its thinking fields
with its target. -/
theorem answerSchema_eq (count : Nat) (target : Schema) :
    answerSchema count target = (thinkingSchema count).compose target := by
  rw [answerSchema, ofFields_thinkingFields]
  rfl

/-- The thinking field of an index. -/
def thinkingField (index : Nat) : Field :=
  (Field.mandatory (thinkingName index) .string).withDescription
    "Your step by step thinking"

/-- Each thinking field is found under its name. -/
theorem field?_thinkingSchema {count index : Nat} (within : index < count) :
    (thinkingSchema count).field? (thinkingName index) =
      some (thinkingField index) := by
  refine (Schema.field?_eq_some_iff (distinct_thinkingSchema count)).mpr
    ⟨?_, rfl⟩
  exact List.mem_map_of_mem (List.mem_range.mpr within)

/-- No other name is found among the thinking fields. -/
theorem field?_thinkingSchema_of_not_mem
    {count : Nat}
    {name : String}
    (other : name ∉ thinkingNames count) :
    (thinkingSchema count).field? name = none := by
  rw [← names_thinkingSchema] at other
  simpa [Schema.field?, Schema.names] using other

end Schema

end ChainOfThought

/-- Only text is the same type as text. -/
theorem FieldType.string_same_iff {type : FieldType} :
    FieldType.string.same type = true ↔ type = .string := by
  cases type <;> simp [FieldType.same]

namespace ChainOfThought

variable {count : Nat} {target schema : Schema}

/-- Every target field of the name of a thinking field is text. -/
def TextualThinking (count : Nat) (target : Schema) : Prop :=
  ∀ index < count, ∀ field,
    target.field? (thinkingName index) = some field -> field.type = .string

/-- The thinking fields are compatible with a target unless it uses one of their
names for something else than text. -/
theorem compatible_thinkingSchema_iff :
    (thinkingSchema count).Compatible target ↔
    TextualThinking count target := by
  constructor
  · intro compatible index within field declared
    have agree := compatible _ _ field (field?_thinkingSchema within) declared
    exact FieldType.string_same_iff.mp agree
  · intro textual name first second thinking declared
    by_cases mine : name ∈ thinkingNames count
    · obtain ⟨index, within, rfl⟩ := mem_thinkingNames_iff.mp mine
      rw [field?_thinkingSchema within] at thinking
      obtain rfl := Option.some.inj thinking
      exact FieldType.string_same_iff.mpr (textual index within second declared)
    · rw [field?_thinkingSchema_of_not_mem mine] at thinking
      contradiction

/-- A thinking field together with what a target declares under its name. -/
def thinkingFieldIn (target : Schema) (index : Nat) : Field :=
  ((target.field? (thinkingName index)).map (thinkingField index).merge).getD
    (thinkingField index)

/-- A thinking field is required even where it is merged with a target field. -/
theorem required_thinkingFieldIn (target : Schema) (index : Nat) :
    (thinkingFieldIn target index).required = true := by
  unfold thinkingFieldIn
  cases target.field? (thinkingName index) <;> rfl

/-- A thinking field is text even where it is merged with a target field. -/
theorem type_thinkingFieldIn (target : Schema) (index : Nat) :
    (thinkingFieldIn target index).type = .string := by
  unfold thinkingFieldIn
  cases target.field? (thinkingName index) <;> rfl

/-- A thinking field keeps its name where it is merged with a target field. -/
theorem name_thinkingFieldIn (target : Schema) (index : Nat) :
    (thinkingFieldIn target index).name = thinkingName index := by
  unfold thinkingFieldIn
  cases target.field? (thinkingName index) <;> rfl

/-- The fields of a target under other names than those of the thinking
fields, in order. -/
def remaining (count : Nat) (target : Schema) : List Field :=
  target.fields.filter fun field => !(thinkingNames count).contains field.name

/-- The composition lists the thinking fields and then the remaining ones of
the target. -/
theorem fields_of_compose
    (distinct : target.Distinct)
    (done : (thinkingSchema count).compose target = .ok schema) :
    schema.fields =
      (List.range count).map (thinkingFieldIn target) ++
      remaining count target := by
  have names := Schema.names_of_compose distinct done
  rw [names_thinkingSchema] at names
  rw [Schema.fields_eq_filterMap
    (Schema.distinct_of_compose (distinct_thinkingSchema count) done),
    names, List.filterMap_append]
  congr 1
  · rw [thinkingNames, List.filterMap_map, ← List.filterMap_eq_map]
    apply List.filterMap_congr
    intro index within
    have thinking := field?_thinkingSchema (List.mem_range.mp within)
    rw [Function.comp_apply, Schema.field?_compose distinct done, thinking,
      Function.comp_apply]
    unfold thinkingFieldIn
    cases target.field? (thinkingName index) <;> rfl
  · rw [remaining, Schema.names, List.filter_map, List.filterMap_map]
    have other : ∀ field ∈ target.fields.filter
          ((fun name => !(thinkingNames count).contains name) ∘ (·.name)),
        (schema.field? ∘ (·.name)) field = some field := by
      intro field chosen
      obtain ⟨declared, fresh⟩ := List.mem_filter.mp chosen
      have missing : (thinkingSchema count).field? field.name = none :=
        field?_thinkingSchema_of_not_mem (by simpa using fresh)
      rw [Function.comp_apply,
        Schema.field?_compose_of_right distinct done missing]
      exact (Schema.field?_eq_some_iff distinct).mpr ⟨declared, rfl⟩
    rw [List.filterMap_congr other, List.filterMap_some]
    rfl

/-- The names of thinking fields come first, then those of the other
target fields. -/
theorem names_of_fields
    (fields : schema.fields =
      (List.range count).map (thinkingFieldIn target) ++
      remaining count target) :
    schema.names = thinkingNames count ++
      target.names.filter fun name => !(thinkingNames count).contains name := by
  have names : (·.name) ∘ thinkingFieldIn target = thinkingName :=
    funext (name_thinkingFieldIn target)
  rw [Schema.names, fields, List.map_append, List.map_map, names, remaining,
    Schema.names, List.filter_map]
  rfl

/-- Every field of the name of a thinking field is required and text. -/
theorem thinking_of_fields
    (fields : schema.fields =
      (List.range count).map (thinkingFieldIn target) ++
      remaining count target) :
    ∀ field ∈ schema.fields, field.name ∈ thinkingNames count ->
      field.required = true ∧ field.type = .string := by
  intro field declared mine
  rw [fields, List.mem_append] at declared
  cases declared with
  | inl thinking =>
      obtain ⟨index, _, rfl⟩ := List.mem_map.mp thinking
      exact ⟨required_thinkingFieldIn target index,
        type_thinkingFieldIn target index⟩
  | inr other =>
      have fresh := (List.mem_filter.mp other).2
      simp [mine] at fresh

/-- A chain of thought is made from the composition of its thinking fields with
its target. -/
theorem create_eq_ok_iff {name : String} {model : LanguageModel}
    {chain : ChainOfThought} :
    create name target model count = .ok chain ↔
      ∃ schema, (thinkingSchema (max count 1)).compose target = .ok schema ∧
        chain =
          ⟨name, max count 1, target,
            .create (name ++ "_generator") schema model⟩ := by
  rw [create, answerSchema_eq]
  cases (thinkingSchema (max count 1)).compose target with
  | ok schema => simp [Except.map, eq_comm]
  | error cause => simp [Except.map]

/-- A chain of thought can be made exactly if the target uses none of the names
of the thinking fields for something else than text. Its output schema then
consists of the thinking fields, all required and text, and the remaining fields
of the target in their order, and contains the target. -/
theorem create_iff_textualThinking
    (name : String)
    (model : LanguageModel)
    (count : Nat)
    {target : Schema}
    (unambiguous : target.Unambiguous) :
    ((∃ chain, create name target model count = .ok chain) ↔
      TextualThinking (max count 1) target) ∧
      ∀ chain, create name target model count = .ok chain ->
        chain.count = max count 1 ∧ chain.targetSchema = target ∧
        (Module.chainOfThought chain).outputSchema.names =
          thinkingNames (max count 1) ++
            target.names.filter
              (fun name => !(thinkingNames (max count 1)).contains name) ∧
        (Module.chainOfThought chain).outputSchema.fields =
          (List.range (max count 1)).map (thinkingFieldIn target) ++
            remaining (max count 1) target ∧
        (∀ field ∈ (Module.chainOfThought chain).outputSchema.fields,
          field.name ∈ thinkingNames (max count 1) ->
            field.required = true ∧ field.type = .string) ∧
        (Module.chainOfThought chain).outputSchema.contains target = true := by
  have distinct : target.Distinct := by
    obtain ⟨title, fields⟩ := target
    exact unambiguous.1
  constructor
  · rw [← compatible_thinkingSchema_iff, ← Schema.exists_compose_iff distinct]
    constructor
    · rintro ⟨chain, made⟩
      obtain ⟨schema, done, _⟩ := create_eq_ok_iff.mp made
      exact ⟨schema, done⟩
    · rintro ⟨schema, done⟩
      exact ⟨_, create_eq_ok_iff.mpr ⟨schema, done, rfl⟩⟩
  · intro chain made
    obtain ⟨schema, done, rfl⟩ := create_eq_ok_iff.mp made
    have fields := fields_of_compose distinct done
    exact ⟨rfl, rfl, names_of_fields fields, fields, thinking_of_fields fields,
      (Schema.contains_parts_of_compose (unambiguous_thinkingSchema _)
        unambiguous done).2⟩

/-- A target that has thoughts of its own under the second name, with a default,
and something else under the fourth. -/
def thoughtfulExample : Schema where
  title := some "Answer"
  fields :=
    [.mandatory "answer" .integer,
      (Field.voluntary "thinking_1" .string).withDefault (.string "none"),
      .voluntary "thinking_3" .integer]

theorem create_iff_textualThinking_of_thoughtfulExample :
    thoughtfulExample.Unambiguous ∧
      ¬ (∃ chain,
        create "solver" thoughtfulExample (.scripted "model") 4 = .ok chain) ∧
      ∃ chain,
        create "solver" thoughtfulExample (.scripted "model") 3 = .ok chain ∧
        (Module.chainOfThought chain).outputSchema.names =
          ["thinking", "thinking_1", "thinking_2", "answer", "thinking_3"] ∧
        (Module.chainOfThought chain).outputSchema.contains thoughtfulExample =
          true := by
  have unambiguous : thoughtfulExample.Unambiguous := by
    simp [thoughtfulExample, Schema.Unambiguous, Field.mandatory,
      Field.voluntary, Field.withDefault, FieldType.Unambiguous,
      FieldType.AllUnambiguous]
  obtain ⟨made, spec⟩ :=
    create_iff_textualThinking "solver" (.scripted "model") 3 unambiguous
  have refused :=
    (create_iff_textualThinking "solver" (.scripted "model") 4 unambiguous).1
  have textual : TextualThinking 3 thoughtfulExample := by
    intro index within field declared
    have cases : index = 0 ∨ index = 1 ∨ index = 2 := by omega
    obtain rfl | rfl | rfl := cases
    · contradiction
    · obtain rfl := Option.some.inj declared
      rfl
    · contradiction
  obtain ⟨chain, done⟩ := made.mpr textual
  obtain ⟨_, _, names, _, _, contains⟩ := spec chain done
  refine ⟨unambiguous, fun success => ?_, chain, done, names, contains⟩
  have clash :=
    refused.mp success 3 (by decide) (.voluntary "thinking_3" .integer) rfl
  contradiction

end ChainOfThought
end PromptTuning
