import PromptTuning.Module.Config
import PromptTuning.Proofs.Schema.Equivalence
import PromptTuning.Proofs.Value.Conformance
import PromptTuning.Proofs.Variable.Document

/-!
# Reading portable configs of modules

A generator and a chain of thought are read back from their configs: every part
but the language model as it was written, the language model as the resolver
finds it. So if the resolver finds a model with the same config, the config of
what is read is the same again. No object within a config repeats a key, which
makes it comparable with itself.
-/

namespace PromptTuning

namespace Json

/-- An array of texts repeats no key. -/
theorem distinct_ofStrings (lines : List String) :
    (ofStrings lines).Distinct := by
  rw [ofStrings, Distinct, distinctItems_iff]
  simp [Distinct]

theorem distinct_ofString? (text : Option String) :
    (ofString? text).Distinct := by
  cases text <;> trivial

theorem asString?_ofString? (text : Option String) :
    (ofString? text).asString? = text := by
  cases text <;> rfl

/-- A double, or null in its place, repeats no key. -/
theorem distinct_ofDouble (value : Double) : (ofDouble value).Distinct := by
  cases value <;> trivial

/-- A natural number of 64 bits is written as it is. -/
theorem exists_ofNat_eq {value : Nat} (bounded : value < UInt64.size) :
    ∃ inRange, ofNat value = .number (.integer value inRange) := by
  have inRange : -9223372036854775808 ≤ (value : Int) ∧
      (value : Int) < 18446744073709551616 := by
    unfold UInt64.size at bounded
    omega
  have exact : Number.ofInt? value = some (.integer value inRange) :=
    dif_pos inRange
  exact ⟨inRange, by rw [ofNat, exact]; rfl⟩

/-- A number that 64 bits can hold is read back. -/
theorem asNat?_ofNat {value : Nat} (bounded : value < UInt64.size) :
    (ofNat value).asNat? = some value := by
  obtain ⟨_, written⟩ := exists_ofNat_eq bounded
  rw [written]
  rfl

end Json

-- Looking into the number of a variable would compare it with two to the power
-- of 64 in unary.
attribute [local irreducible] Json.ofNat

/-- A number that 64 bits can hold repeats no key. -/
theorem Json.distinct_ofNat {value : Nat} (bounded : value < UInt64.size) :
    (ofNat value).Distinct := by
  obtain ⟨_, written⟩ := exists_ofNat_eq bounded
  rw [written]
  exact True.intro

namespace Members

/-- An object stays the same if one member is replaced by a value that
is the same. -/
theorem same_put
    {members : Members}
    {name : String}
    {value old : Json}
    (distinct : (Json.object members).Distinct)
    (valueDistinct : value.Distinct)
    (found : members.lookup name = some old)
    (agree : value.same old = true) :
    (Json.object (members.put name value)).same (.object members) = true := by
  have putDistinct : (Json.object (members.put name value)).Distinct :=
    distinct_put distinct valueDistinct
  rw [Json.Distinct] at putDistinct
  have keys := distinct
  rw [Json.Distinct] at keys
  refine (FieldType.same_members_iff putDistinct.1 keys.1).mpr fun key => ?_
  by_cases same : key = name
  · subst same
    rw [lookup_put_self, found]
    exact agree
  · rw [lookup_put_of_ne same]
    cases kept : members.lookup key with
    | none => rfl
    | some part =>
        exact Json.same_self part
          (Json.distinct_of_mem keys.2 (mem_of_lookup kept))

end Members

namespace FieldType

/-- What is noted beside a type adds keys that its document does not have. -/
theorem distinct_annotate
    {document : Json}
    (description : Option String)
    {default : Option Json}
    (distinct : document.Distinct)
    (defaultDistinct : ∀ value, default = some value -> value.Distinct) :
    (annotate description default document).Distinct := by
  cases document with
  | object members =>
      have described (text : String) :
          (Json.object
            (Members.put "description" (.string text) members)).Distinct :=
        Members.distinct_put distinct True.intro
      cases default with
      | none =>
          cases description with
          | none => exact distinct
          | some text => exact described text
      | some value =>
          have valueDistinct := defaultDistinct value rfl
          cases description with
          | none => exact Members.distinct_put distinct valueDistinct
          | some text =>
              exact Members.distinct_put (described text) valueDistinct
  | _ => exact distinct

/-- The documents of fields are listed under the names of the fields. -/
theorem keys_fieldDocuments (fields : List Field) :
    (fieldDocuments fields).keys = fields.map (·.name) := by
  induction fields with
  | nil => rfl
  | cons field rest inductionHypothesis =>
      obtain ⟨name, type, required, default, description⟩ := field
      rw [fieldDocuments, Members.keys_cons, inductionHypothesis, List.map_cons]

/-- The documents of fields repeat no key if those of their types do not. -/
theorem distinctMembers_fieldDocuments
    {fields : List Field}
    (each : ∀ field ∈ fields, field.type.toDocument.Distinct ∧
      ∀ value, field.default = some value -> value.Distinct) :
    Json.DistinctMembers (fieldDocuments fields) := by
  induction fields with
  | nil => trivial
  | cons field rest inductionHypothesis =>
      obtain ⟨first, others⟩ := List.forall_mem_cons.mp each
      obtain ⟨name, type, required, default, description⟩ := field
      rw [fieldDocuments, Json.DistinctMembers]
      exact ⟨distinct_annotate description first.1 first.2,
        inductionHypothesis others⟩

/-- No object within the document of a well-formed type repeats a key. -/
theorem distinct_toDocument (type : FieldType) (formed : type.WellFormed) :
    type.toDocument.Distinct := by
  induction type with
  | oneOf values => exact ⟨List.nodup_singleton "enum", formed, trivial⟩
  | list item inner =>
      exact ⟨by simp [Members.Distinct], trivial, inner formed, trivial⟩
  | map value inner =>
      exact ⟨by simp [Members.Distinct], trivial, inner formed, trivial⟩
  | optional present inner =>
      have null : (namedDocument "null").Distinct :=
        ⟨List.nodup_singleton "type", trivial, trivial⟩
      exact ⟨List.nodup_singleton "anyOf",
        ⟨inner formed, null, trivial⟩, trivial⟩
  | object title fields types =>
      rw [WellFormed, allWellFormed_iff] at formed
      obtain ⟨names, each⟩ := formed
      have properties : (Json.object (fieldDocuments fields)).Distinct := by
        refine ⟨?_, distinctMembers_fieldDocuments fun field declared => ?_⟩
        · rw [Members.Distinct, keys_fieldDocuments]
          exact names
        · exact ⟨types field declared (each field declared).type,
            fun value given => ((each field declared).default value given).1⟩
      have required := Json.distinct_ofStrings (requiredNames fields)
      rw [toDocument, objectDocument]
      cases title with
      | none =>
          exact ⟨by simp [Members.Distinct], trivial, properties, required,
            trivial, trivial⟩
      | some text =>
          exact ⟨by simp [Members.Distinct], trivial, trivial, properties,
            required, trivial, trivial⟩
  | any => exact ⟨List.nodup_nil, trivial⟩
  | _ => exact ⟨List.nodup_singleton "type", trivial, trivial⟩

end FieldType

/-- The document of a well-formed schema repeats no key. -/
theorem Schema.distinct_toDocument {schema : Schema}
    (formed : schema.WellFormed) :
    schema.toDocument.Distinct :=
  FieldType.distinct_toDocument (.object schema) formed

namespace LanguageModel

/-- A resolver finds a model of the same config. -/
def RestoredBy (resolve : Resolver) (model : LanguageModel) : Prop :=
  ∃ other,
    resolve model.config = .ok other ∧ other.config.same model.config = true

/-- The config of a language model repeats no key. -/
theorem distinct_config (model : LanguageModel) : model.config.Distinct := by
  cases model with
  | scripted name =>
      exact ⟨by simp [Members.Distinct], trivial, trivial, trivial⟩
  | served model =>
      have count :
          (model.maxTokens.elim .null fun count =>
            Json.ofNat count.toNat).Distinct := by
        cases model.maxTokens with
        | none => trivial
        | some count =>
            rw [Option.elim_some]
            exact Json.distinct_ofNat
              (Nat.lt_trans count.toNat_lt_size (by decide))
      exact ⟨by simp [Members.Distinct], trivial,
        Json.distinct_ofString? model.backend, trivial,
        Json.distinct_ofDouble _, count, trivial⟩

end LanguageModel

namespace Prediction

/-- The prediction that is read from its document, in which a reward that is not
finite is null. -/
def legible (prediction : Prediction) : Prediction :=
  { prediction with reward := prediction.reward.filter (·.isFinite) }

/-- A prediction is written as its legible form is. -/
theorem toJson_legible (prediction : Prediction) :
    prediction.legible.toJson = prediction.toJson := by
  obtain ⟨label, inputs, outputs, reward⟩ := prediction
  rcases reward with _ | (_ | _ | _) <;> rfl

/-- A prediction that is written is read back in its legible form. -/
theorem decode_toJson_legible (prediction : Prediction) :
    decode prediction.toJson = .ok prediction.legible := by
  rw [← toJson_legible]
  refine decode_toJson fun given held => ?_
  exact (Option.filter_eq_some_iff.mp held).2

/-- No object within the inputs and outputs repeats a key. -/
structure Distinct (prediction : Prediction) : Prop where
  inputs : (Json.object prediction.inputs).Distinct
  outputs : (Json.object prediction.outputs).Distinct

/-- A prediction without repeated keys is written without any. -/
theorem Distinct.toJson {prediction : Prediction}
    (distinct : prediction.Distinct) :
    prediction.toJson.Distinct := by
  have reward : (Json.ofReward prediction.reward).Distinct := by
    cases prediction.reward with
    | none => trivial
    | some given => exact Json.distinct_ofDouble given
  exact ⟨by simp [toMembers, Members.Distinct], trivial, distinct.inputs,
    distinct.outputs, reward,
    trivial⟩

end Prediction

namespace Generator

/-- The output schema is well-formed, and no object within the examples
repeats a key. -/
structure Portable (generator : Generator) : Prop where
  formed : generator.outputSchema.WellFormed
  examples : ∀ item ∈ generator.examples, item.Distinct

/-- The members of the portable config. -/
def members (generator : Generator) : Members :=
  [("name", .string generator.name),
    ("output_schema", generator.outputSchema.toDocument),
    ("instructions", .ofStrings generator.instructions),
    ("examples", .array (generator.examples.map Prediction.toJson)),
    ("prompt_template", .ofString? generator.promptTemplate),
    ("static_system_prompt", .ofString? generator.systemPrompt),
    ("return_inputs", .boolean generator.returnInputs),
    ("language_model", generator.languageModel.config)]

theorem config_eq (generator : Generator) :
    generator.config = .object generator.members := rfl

/-- The generator that is read from its config with a model; it is not bound
to a store. -/
def reread (generator : Generator) (model : LanguageModel) : Generator :=
  { generator with
    languageModel := model
    examples := generator.examples.map Prediction.legible
    store := none }

variable {generator : Generator} {resolve : Resolver} {model : LanguageModel}

/-- The examples of a generator are read back in their legible form. -/
theorem decode_examples :
    Decoder.list Prediction.decode
      (.array (generator.examples.map Prediction.toJson)) =
      .ok (generator.examples.map Prediction.legible) := by
  have shown : generator.examples.map Prediction.toJson =
      (generator.examples.map Prediction.legible).map Prediction.toJson := by
    simp [Prediction.toJson_legible]
  rw [shown]
  refine Decoder.list_array fun item listed => ?_
  obtain ⟨original, _, rfl⟩ := List.mem_map.mp listed
  rw [Prediction.toJson_legible]
  exact Prediction.decode_toJson_legible original

/-- The config of a generator is read back, with the model that the
resolver finds. -/
theorem ofConfig_config
    (formed : generator.outputSchema.WellFormed)
    (found : resolve generator.languageModel.config = .ok model) :
    ofConfig resolve generator.config = .ok (generator.reread model) := by
  have name :
      Module.requiredString generator.config "name" = .ok generator.name := rfl
  have schema : Module.requiredSchema generator.config "output_schema" =
      .ok generator.outputSchema :=
    mapError_eq_ok_iff.mpr (Schema.toSchema_toDocument formed)
  have instructions : Module.decodedOr generator.config "instructions"
      (Decoder.list Decoder.string) [] = .ok generator.instructions :=
    mapError_eq_ok_iff.mpr (Decoder.list_string_eq_ok_iff.mpr rfl)
  have examples : Module.decodedOr generator.config "examples"
      (Decoder.list Prediction.decode) [] =
    .ok (generator.examples.map Prediction.legible) :=
    mapError_eq_ok_iff.mpr decode_examples
  have template :
      (generator.config.get? "prompt_template").bind Json.asString? =
        generator.promptTemplate :=
    Json.asString?_ofString? generator.promptTemplate
  have prompt :
      (generator.config.get? "static_system_prompt").bind Json.asString? =
        generator.systemPrompt :=
    Json.asString?_ofString? generator.systemPrompt
  have description : generator.config.get? "language_model" =
      some generator.languageModel.config := rfl
  have returnInputs :
      ((generator.config.get? "return_inputs").bind Json.asBoolean?).getD
        false =
        generator.returnInputs := rfl
  have resolved :
      (resolve generator.languageModel.config).mapError
        ModuleError.languageModel =
        .ok model := mapError_eq_ok_iff.mpr found
  simp only [ofConfig, description, Decoder.ok_bind, resolved, name, schema,
    instructions, examples, template, prompt, returnInputs]
  rfl

/-- The members of a portable generator's config repeat no key. -/
theorem distinct_members (portable : generator.Portable) :
    (Json.object generator.members).Distinct := by
  have examples :
      (Json.array (generator.examples.map Prediction.toJson)).Distinct := by
    rw [Json.Distinct, distinctItems_iff, List.forall_mem_map]
    exact fun item listed => (portable.examples item listed).toJson
  exact ⟨by simp [members, Members.Distinct], trivial,
    Schema.distinct_toDocument portable.formed,
    Json.distinct_ofStrings generator.instructions,
    examples, Json.distinct_ofString? generator.promptTemplate,
    Json.distinct_ofString? generator.systemPrompt, trivial,
    generator.languageModel.distinct_config, trivial⟩

/-- What is read differs in the config by the model alone. -/
theorem config_reread (generator : Generator) (model : LanguageModel) :
    (generator.reread model).config =
      .object (generator.members.put "language_model" model.config) := by
  have examples :
      (generator.examples.map Prediction.legible).map Prediction.toJson =
        generator.examples.map Prediction.toJson := by
    simp [Prediction.toJson_legible]
  rw [config, reread, examples]
  rfl

/-- A generator that is read back has the same config, up to the order
of members. -/
theorem same_config_reread
    (portable : generator.Portable)
    (agree : model.config.same generator.languageModel.config = true) :
    (generator.reread model).config.same generator.config = true := by
  rw [config_reread]
  exact Members.same_put (distinct_members portable)
    model.distinct_config rfl agree

/-- A generator whose model is restored is read back from its config with the
same config. -/
theorem exists_ofConfig
    (portable : generator.Portable)
    (restored : generator.languageModel.RestoredBy resolve) :
    ∃ other, ofConfig resolve generator.config = .ok other ∧
      other.config.same generator.config = true := by
  obtain ⟨model, found, agree⟩ := restored
  exact ⟨generator.reread model, ofConfig_config portable.formed found,
    same_config_reread portable agree⟩

end Generator

namespace ChainOfThought

/-- The chains of thought that can be made: by the constructor, whose count is a
word, and then with the generator configured in any way. -/
inductive Made : ChainOfThought -> Prop
  | create {name : String} {target : Schema} {model : LanguageModel}
      {count : UInt64} {chain : ChainOfThought} (formed : target.WellFormed)
      (made : create name target model count.toNat = .ok chain) :
      Made chain
  | configure {chain : ChainOfThought} {generator : Generator}
      (made : Made chain)
      (portable : generator.Portable) :
      Made { chain with generator := generator }

/-- The count is a word, the target schema well-formed and the
generator portable. -/
structure Portable (chain : ChainOfThought) : Prop where
  count : chain.count < UInt64.size
  target : chain.targetSchema.WellFormed
  generator : chain.generator.Portable

/-- The answer schema of a chain of thought is well-formed if its target is. -/
theorem wellFormed_answerSchema
    {count : Nat}
    {target schema : Schema}
    (formed : target.WellFormed)
    (made : answerSchema count target = .ok schema) :
    schema.WellFormed := by
  unfold answerSchema at made
  cases thinking : Schema.ofFields (thinkingFields count) with
  | error reason => simp [thinking, Except.bind] at made
  | ok first =>
      rw [thinking] at made
      refine Schema.WellFormed.compose
        (Schema.wellFormed_of_ofFields ?_ ?_ thinking) formed made
      · intro field listed
        obtain ⟨index, _, rfl⟩ := List.mem_map.mp listed
        trivial
      · intro field listed value given
        obtain ⟨index, _, rfl⟩ := List.mem_map.mp listed
        contradiction

/-- Every chain of thought that can be made is portable. -/
theorem Made.portable {chain : ChainOfThought} (made : chain.Made) :
    chain.Portable := by
  induction made with
  | @create name target model count chain formed made =>
      unfold ChainOfThought.create at made
      cases answer : answerSchema (max count.toNat 1) target with
      | error reason => simp [answer, Except.map] at made
      | ok schema =>
          rw [answer] at made
          obtain rfl := Except.ok.inj made
          have bound : max count.toNat 1 < UInt64.size :=
            Nat.max_lt.mpr ⟨count.toNat_lt_size, by decide⟩
          exact ⟨bound, formed, wellFormed_answerSchema formed answer, nofun⟩
  | configure _ portable inductionHypothesis =>
      exact ⟨inductionHypothesis.count, inductionHypothesis.target, portable⟩

/-- The members of the portable config. -/
def members (chain : ChainOfThought) : Members :=
  [("name", .string chain.name),
    ("k", .ofNat chain.count),
    ("target_schema", chain.targetSchema.toDocument),
    ("generator", chain.generator.config)]

theorem config_eq (chain : ChainOfThought) :
    chain.config = .object chain.members := rfl

variable {chain : ChainOfThought} {resolve : Resolver} {model : LanguageModel}

/-- The config of a chain of thought is read back, with the generator
that is read. -/
theorem ofConfig_config
    (portable : chain.Portable)
    (found : resolve chain.generator.languageModel.config = .ok model) :
    ofConfig resolve chain.config =
      .ok { chain with generator := chain.generator.reread model } := by
  have name : Module.requiredString chain.config "name" = .ok chain.name := rfl
  have target :
      Module.requiredSchema chain.config "target_schema" =
        .ok chain.targetSchema :=
    mapError_eq_ok_iff.mpr (Schema.toSchema_toDocument portable.target)
  have description :
      chain.config.get? "generator" = some chain.generator.config := rfl
  have generator := Generator.ofConfig_config portable.generator.formed found
  have written : chain.config.get? "k" = some (.ofNat chain.count) := rfl
  have count : (chain.config.get? "k").bind Json.asNat? = some chain.count := by
    rw [written, Option.bind_some, Json.asNat?_ofNat portable.count]
  simp only [ofConfig, description, Decoder.ok_bind, generator, count, name,
    target]
  rfl

/-- A chain with another generator changes the generator in its config alone. -/
theorem config_with_generator (chain : ChainOfThought) (generator : Generator) :
    config { chain with generator := generator } =
      .object (chain.members.put "generator" generator.config) := rfl

/-- The members of a portable chain's config repeat no key. -/
theorem distinct_members (portable : chain.Portable) :
    (Json.object chain.members).Distinct := by
  rw [Json.Distinct, FieldType.distinctMembers_iff]
  refine ⟨by simp [members, Members.Distinct], ?_⟩
  simp only [members, List.forall_mem_cons]
  exact ⟨trivial, Json.distinct_ofNat portable.count,
    Schema.distinct_toDocument portable.target,
    Generator.distinct_members portable.generator, List.forall_mem_nil _⟩

/-- A chain of thought whose model is restored is read back from its config with
the same config. -/
theorem exists_ofConfig
    (portable : chain.Portable)
    (restored : chain.generator.languageModel.RestoredBy resolve) :
    ∃ other, ofConfig resolve chain.config = .ok other ∧
      other.config.same chain.config = true := by
  obtain ⟨model, found, agree⟩ := restored
  refine ⟨_, ofConfig_config portable found, ?_⟩
  have distinct : (chain.generator.reread model).config.Distinct := by
    rw [Generator.config_reread]
    exact Members.distinct_put (Generator.distinct_members portable.generator)
      model.distinct_config
  rw [config_with_generator]
  exact Members.same_put (distinct_members portable) distinct rfl
    (Generator.same_config_reread portable.generator agree)

end ChainOfThought
end PromptTuning
