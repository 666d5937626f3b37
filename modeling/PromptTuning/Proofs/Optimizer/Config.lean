import PromptTuning.LanguageModel.Scripted
import PromptTuning.Optimizer.Basic
import PromptTuning.Proofs.Module.Config

/-!
# Reading the portable config of an optimizer

An optimizer is read back from its config with every setting it has; of its
generation program the config only tells which it is, and nothing is read of it.
Together with generators and chains of thought: whatever is read from a config
has that config.
-/

namespace PromptTuning

/-- An object without the members of a name. -/
def Json.without (name : String) : Json -> Json
  | .object members => .object (members.filter fun member => member.1 != name)
  | other => other

/-- A member that was added last is taken away again. -/
theorem Json.without_append
    {members : Members}
    {name : String}
    {value : Json}
    (absent : name ∉ members.keys) :
    (object (members ++ [(name, value)])).without name = object members := by
  have kept : members.filter (fun member => member.1 != name) = members := by
    refine List.filter_eq_self.mpr fun member stored => bne_iff_ne.mpr ?_
    rintro rfl
    exact absent (List.mem_map_of_mem stored)
  rw [without, List.filter_append, kept]
  simp

namespace LanguageModel

/-- No language model has null as its config. -/
theorem config_ne_null (model : LanguageModel) : model.config ≠ .null := by
  cases model <;> simp [config]

/-- What stands in a config for a model that may be missing. -/
def entry (model : Option LanguageModel) : Json :=
  model.elim .null config

/-- The entry of a language model, or null in its place, repeats no key. -/
theorem distinct_entry (model : Option LanguageModel) :
    (entry model).Distinct := by
  cases model with
  | none => exact True.intro
  | some model => exact model.distinct_config

end LanguageModel

-- Looking into the number of a variable would compare it with two to the power
-- of 64 in unary.
attribute [local irreducible] Json.ofNat

namespace Optimizer

/-- The optimizers that can be made: the standard ones, and then with other
settings and rankings. -/
inductive Made : Optimizer -> Prop
  | standard (id : OptimizerId) (languageModel : Option LanguageModel) :
      Made (.standard id languageModel)
  | withShown {optimizer : Optimizer} (made : Made optimizer) (count : UInt64) :
      Made (optimizer.withShown count.toNat)
  | withName {optimizer : Optimizer} (made : Made optimizer) (name : String) :
      Made { optimizer with name := name }
  | withDescription {optimizer : Optimizer} (made : Made optimizer)
      (description : String) :
      Made { optimizer with description := description }
  | withMetaInstructions {optimizer : Optimizer} (made : Made optimizer)
      (lines : List String) :
      Made { optimizer with metaInstructions := lines }
  | withRankings
      {optimizer : Optimizer}
      (made : Made optimizer)
      (candidates : Ranking Instructions.reward)
      (predictions : Ranking Prediction.reward) :
      Made { optimizer with
        candidateRanking := candidates
        predictionRanking := predictions }

variable {optimizer : Optimizer}

/-- At least one item is shown, and their number is a word. -/
theorem Made.shown_bounds (made : optimizer.Made) :
    1 ≤ optimizer.shown ∧ optimizer.shown < UInt64.size := by
  induction made with
  | standard =>
      change 1 ≤ defaultShown ∧ defaultShown < UInt64.size
      decide
  | withShown made count =>
      exact ⟨Nat.le_max_right _ _,
        Nat.max_lt.mpr ⟨count.toNat_lt_size, by decide⟩⟩
  | _ => assumption

/-- The members of the portable config but the program. -/
def members (optimizer : Optimizer) : Members :=
  [("name", .string optimizer.name),
    ("description", .string optimizer.description),
    ("k_best", .ofNat optimizer.shown),
    ("meta_instructions", .ofStrings optimizer.metaInstructions),
    ("language_model", LanguageModel.entry optimizer.languageModel)]

theorem config_eq (optimizer : Optimizer) (program : Option Module) :
    optimizer.config program =
      .object
        (optimizer.members ++
          [("program", program.elim .null Module.config)]) := rfl

/-- Apart from its program, an optimizer's config is that of its own members. -/
theorem config_without (optimizer : Optimizer) (program : Option Module) :
    (optimizer.config program).without "program" =
      .object optimizer.members := by
  rw [config_eq]
  exact Json.without_append (by simp [members])

/-- What is found for the document of a language model: none if it is null. -/
inductive Finds (resolve : Resolver) : Json -> Option LanguageModel -> Prop
  | absent : Finds resolve .null none
  | model {document : Json} {model : LanguageModel}
      (written : document ≠ .null)
      (found : resolve document = .ok model) :
      Finds resolve document (some model)

/-- An optimizer is read from any config that holds its settings; how it ranks
is not among them. -/
theorem ofConfig_eq
    {resolve : Resolver}
    {config document count : Json}
    {found : Option LanguageModel}
    (id : OptimizerId)
    (name : (config.get? "name").bind Json.asString? = some optimizer.name)
    (description : (config.get? "description").bind Json.asString? =
      some optimizer.description)
    (shown : config.get? "k_best" = some count)
    (number : count.asNat? = some optimizer.shown)
    (positive : 1 ≤ optimizer.shown)
    (lines : config.get? "meta_instructions" =
      some (.ofStrings optimizer.metaInstructions))
    (model : config.get? "language_model" = some document)
    (finds : Finds resolve document found) :
    ofConfig id resolve config = .ok { optimizer with
      id := id
      languageModel := found
      candidateRanking := .insertion
      predictionRanking := .insertion } := by
  have read :
      (Decoder.list Decoder.string
        (.ofStrings optimizer.metaInstructions)).mapError
        (fun reason =>
          BuildError.config ("meta_instructions: " ++ reason.message)) =
          .ok optimizer.metaInstructions :=
    mapError_eq_ok_iff.mpr (Decoder.list_string_eq_ok_iff.mpr rfl)
  have most : max optimizer.shown 1 = optimizer.shown :=
    Nat.max_eq_left positive
  cases finds with
  | absent =>
      simp only [ofConfig, model, shown, number, lines, read, name, description,
        most, Decoder.ok_bind]
      rfl
  | model written found =>
      have resolved :
          (resolve document).mapError BuildError.languageModel = .ok _ :=
        mapError_eq_ok_iff.mpr found
      cases document with
      | null => contradiction
      | _ =>
          simp only [ofConfig, model, shown, number, lines, read, name,
            description, most, Decoder.ok_bind, resolved, Except.map]
          rfl

/-- The members of a made optimizer's config repeat no key. -/
theorem distinct_members (made : optimizer.Made) :
    (Json.object optimizer.members).Distinct := by
  rw [Json.Distinct, FieldType.distinctMembers_iff]
  refine ⟨by simp [members, Members.Distinct], ?_⟩
  simp only [members, List.forall_mem_cons]
  exact ⟨trivial, trivial, Json.distinct_ofNat made.shown_bounds.2,
    Json.distinct_ofStrings optimizer.metaInstructions,
    LanguageModel.distinct_entry optimizer.languageModel, List.forall_mem_nil _⟩

/-- Neither the number of an optimizer nor what its model is found as shows in
its own members. -/
theorem members_with_languageModel
    (optimizer : Optimizer)
    (id : OptimizerId)
    (found : Option LanguageModel) :
    members { optimizer with
        id := id
        languageModel := found
        candidateRanking := .insertion
        predictionRanking := .insertion } =
      optimizer.members.put "language_model" (LanguageModel.entry found) := rfl

/-- A resolver that restores the model of an optimizer finds one of the
same config. -/
theorem exists_finds
    {resolve : Resolver}
    (restored : ∀ model ∈ optimizer.languageModel, model.RestoredBy resolve) :
    ∃ found, Finds resolve (LanguageModel.entry optimizer.languageModel) found ∧
      (LanguageModel.entry found).same
        (LanguageModel.entry optimizer.languageModel) = true := by
  cases given : optimizer.languageModel with
  | none => exact ⟨none, .absent, rfl⟩
  | some model =>
      obtain ⟨other, found, agree⟩ := restored model given
      exact ⟨some other, .model model.config_ne_null found, agree⟩

/-- An optimizer whose model, if any, is restored is read back from its config
with the same config, of which the program is no part. -/
theorem exists_ofConfig
    {resolve : Resolver}
    (made : optimizer.Made)
    (id : OptimizerId)
    (program : Option Module)
    (restored : ∀ model ∈ optimizer.languageModel, model.RestoredBy resolve) :
    ∃ other, ofConfig id resolve (optimizer.config program) = .ok other ∧
      ((other.config none).without "program").same
        ((optimizer.config program).without "program") = true := by
  obtain ⟨found, finds, agree⟩ := exists_finds restored
  refine ⟨_, ofConfig_eq id rfl rfl rfl (Json.asNat?_ofNat made.shown_bounds.2)
    made.shown_bounds.1 rfl rfl finds, ?_⟩
  rw [config_without, config_without, members_with_languageModel]
  exact Members.same_put (distinct_members made)
    (LanguageModel.distinct_entry found) rfl agree

end Optimizer

/-- If the resolver finds a language model of the same config, then
generators, chains of thought and optimizers are read back from their portable
configs, and what is read has the same config; of an optimizer's config the
program is not read. -/
theorem portable_configs_read_back (resolve : Resolver) :
    (∀ generator : Generator, generator.Portable ->
      generator.languageModel.RestoredBy resolve ->
      ∃ other, Generator.ofConfig resolve generator.config = .ok other ∧
        other.config.same generator.config = true) ∧
      (∀ chain : ChainOfThought, chain.Made ->
        chain.generator.languageModel.RestoredBy resolve ->
        ∃ other, ChainOfThought.ofConfig resolve chain.config = .ok other ∧
          other.config.same chain.config = true) ∧
      ∀ (optimizer : Optimizer) (id : OptimizerId) (program : Option Module),
        optimizer.Made ->
        (∀ model ∈ optimizer.languageModel, model.RestoredBy resolve) ->
        ∃ other,
          Optimizer.ofConfig id resolve (optimizer.config program) = .ok other ∧
          ((other.config none).without "program").same
            ((optimizer.config program).without "program") = true :=
  ⟨fun _ => Generator.exists_ofConfig,
    fun _ made => ChainOfThought.exists_ofConfig made.portable,
    fun _ id program made => Optimizer.exists_ofConfig made id program⟩

/-- Under one scripted model, a generator with an example, a chain of two
thoughts and an optimizer that shows three items are read back. -/
theorem portable_configs_read_back_of_scripted :
    let writer := LanguageModel.scripted "writer"
    let resolve := Scripts.resolve [("writer", ⟨[], none, 0, []⟩)]
    let generator :=
      { Generator.create "summarize" Catalogue.relation writer with
        instructions := ["be brief"]
        examples := [Prediction.unscored [("topic", .string "rain")] []] }
    (∃ other, Generator.ofConfig resolve generator.config = .ok other ∧
      other.config.same generator.config = true) ∧
      (∃ chain,
        ChainOfThought.create "solve" Catalogue.relation writer 2 = .ok chain ∧
        ∃ other, ChainOfThought.ofConfig resolve chain.config = .ok other ∧
          other.config.same chain.config = true) ∧
      ∃ other, Optimizer.ofConfig 1 resolve
          (((Optimizer.standard 0 (some writer)).withShown 3).config none) =
        .ok other ∧
        ((other.config none).without "program").same
          ((((Optimizer.standard 0 (some writer)).withShown 3).config
            none).without "program") =
            true := by
  intro writer resolve generator
  obtain ⟨generators, chains, optimizers⟩ := portable_configs_read_back resolve
  have restored : writer.RestoredBy resolve := ⟨writer, rfl, rfl⟩
  have formed : Catalogue.relation.WellFormed := by
    simp [Schema.WellFormed, Catalogue.relation, Catalogue.entity,
      Catalogue.entityLabel, Catalogue.titled, Catalogue.described,
      Field.mandatory, Field.withDescription, FieldType.WellFormed,
      FieldType.AllWellFormed]
  have distinct :
      (Prediction.unscored [("topic", .string "rain")] []).Distinct :=
    ⟨by simp [Prediction.unscored, Json.Distinct, Json.DistinctMembers,
      Members.Distinct],
      by simp [Prediction.unscored, Json.Distinct, Json.DistinctMembers,
        Members.Distinct]⟩
  have portable : generator.Portable :=
    ⟨formed, List.forall_mem_singleton.mpr distinct⟩
  refine ⟨generators generator portable restored, ?_, ?_⟩
  · obtain ⟨chain, made, asked⟩ :
        ∃ chain, ChainOfThought.create "solve" Catalogue.relation writer
            (2 : UInt64).toNat = .ok chain ∧
          chain.generator.languageModel = writer :=
      ⟨_, rfl, rfl⟩
    exact ⟨chain, made, chains chain (.create formed made) (asked ▸ restored)⟩
  · refine optimizers _ 1 none (.withShown (.standard 0 (some writer)) 3) ?_
    rintro _ ⟨⟩
    exact restored

end PromptTuning
