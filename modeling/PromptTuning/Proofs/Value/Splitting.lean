import PromptTuning.Proofs.Schema.Splitting
import PromptTuning.Proofs.Value.Validity

/-!
# Splitting a value by names

A value is kept and projected by choosing fields of its schema and then the
members that the smaller schema declares. The data of a value that can be built
have members for declared fields only. So nothing is lost on the way: the same
names split the fields and the members.
-/

namespace PromptTuning
namespace Value

variable {value : Value} {names : List String} {name : String}

/-- Keeping fields of a value fails at the first name that is not declared. -/
theorem keep_of_firstUndeclared
    (first : value.schema.FirstUndeclared names name) :
    value.keep names = .error (.schema (.unknownField name)) := by
  rw [keep, Schema.keep_of_firstUndeclared first]

/-- Projecting a value fails at the first name that is not declared. -/
theorem project_of_firstUndeclared
    (first : value.schema.FirstUndeclared names name) :
    value.project names = .error (.schema (.unknownField name)) := by
  rw [project, Schema.mask_of_firstUndeclared first]

/-- A value is kept to the fields that are kept of its schema. -/
theorem keep_of_schema_keep {kept : Schema}
    (done : value.schema.keep names = .ok kept) :
    value.keep names = .ok (value.restrict kept) := by
  rw [keep, done]

/-- A value is projected to the fields that masking leaves of its schema. -/
theorem project_of_schema_mask {masked : Schema}
    (done : value.schema.mask names = .ok masked) :
    value.project names = .ok (value.restrict masked) := by
  rw [project, done]

/-- The data of a conforming value have declared names only. -/
theorem Conforms.mem_names (conforms : value.Conforms) {member : String × Json}
    (present : member ∈ value.data) : member.1 ∈ value.schema.names :=
  Schema.declares_iff.mp (conforms.declares (List.mem_map_of_mem present))

/-- Schema and data stay in step: fields chosen by their names leave the members
of these names. -/
theorem Conforms.data_restrict (conforms : value.Conforms)
    (wanted : String -> Bool) :
    (value.restrict { value.schema with
        fields :=
          value.schema.fields.filter fun field => wanted field.name }).data =
      value.data.filter fun member => wanted member.1 :=
  List.filter_congr fun _ present =>
    Schema.declares_filter wanted (conforms.mem_names present)

/-- Keeping and masking split the data of a conforming value. -/
theorem Conforms.splitBy_restrict
    {kept masked : Schema}
    (conforms : value.Conforms)
    (keeps : value.schema.keep names = .ok kept)
    (masks : value.schema.mask names = .ok masked) :
    SplitBy Prod.fst names value.data (value.restrict kept).data
      (value.restrict masked).data := by
  rw [Schema.fields_of_keep keeps, Schema.fields_of_mask masks,
    conforms.data_restrict fun name => names.contains name,
    conforms.data_restrict fun name => !names.contains name]
  exact splitBy_filter Prod.fst names value.data

/-- Keeping and masking fail exactly if some name is not declared, over the
first such name. Otherwise they split the fields of a schema, and what they
yield composes to the same schema, with the kept fields first. A composition
without the names of its right part has the fields that only its left part has,
as they are there. A value that can be built is kept and projected likewise: it
fails where its schema does, and otherwise the names that split its fields
split its data. -/
theorem keep_and_mask_split :
    (∀ (schema : Schema) (names : List String),
      ((∃ name ∈ names, name ∉ schema.names) ->
        ∃ name, schema.FirstUndeclared names name ∧
          schema.keep names = .error (.unknownField name) ∧
          schema.mask names = .error (.unknownField name)) ∧
      ((∀ name ∈ names, name ∈ schema.names) ->
        ∃ kept masked, schema.keep names = .ok kept ∧
          schema.mask names = .ok masked ∧
          SplitBy Field.name names schema.fields kept.fields masked.fields ∧
          (schema.WellFormed ->
            ∃ whole, kept.compose masked = .ok whole ∧
              whole.fields = kept.fields ++ masked.fields ∧
              whole.same schema = true))) ∧
      (∀ left right both : Schema, left.compose right = .ok both ->
        ∃ rest, both.mask right.names = .ok rest ∧
          rest.fields =
            left.fields.filter fun field => !right.names.contains field.name) ∧
      ∀ (value : Value) (names : List String), value.Built ->
        ((∃ name ∈ names, name ∉ value.schema.names) ->
          ∃ name, value.schema.FirstUndeclared names name ∧
            value.keep names = .error (.schema (.unknownField name)) ∧
            value.project names = .error (.schema (.unknownField name))) ∧
        ((∀ name ∈ names, name ∈ value.schema.names) ->
          ∃ kept projected, value.keep names = .ok kept ∧
            value.project names = .ok projected ∧
            value.schema.keep names = .ok kept.schema ∧
            value.schema.mask names = .ok projected.schema ∧
            SplitBy Field.name names value.schema.fields kept.schema.fields
              projected.schema.fields ∧
            SplitBy Prod.fst names value.data kept.data projected.data) := by
  refine ⟨fun schema names => ⟨fun undeclared => ?_, fun declared => ?_⟩,
    fun left right both done => ⟨_, Schema.mask_of_compose done, rfl⟩,
    fun value names built => ⟨fun undeclared => ?_, fun declared => ?_⟩⟩
  · obtain ⟨name, first⟩ := Schema.exists_firstUndeclared_iff.mpr undeclared
    exact ⟨name, first, Schema.keep_of_firstUndeclared first,
      Schema.mask_of_firstUndeclared first⟩
  · obtain ⟨kept, masked, keeps, masks, keptTitle, maskedTitle, split⟩ :=
      Schema.exists_splitBy_of_declared declared
    refine ⟨kept, masked, keeps, masks, split, fun formed => ?_⟩
    exact ⟨_,
      Schema.compose_of_splitBy formed.distinct split keptTitle maskedTitle,
      rfl, Schema.same_of_perm formed split.perm⟩
  · obtain ⟨name, first⟩ := Schema.exists_firstUndeclared_iff.mpr undeclared
    exact ⟨name, first, keep_of_firstUndeclared first,
      project_of_firstUndeclared first⟩
  · obtain ⟨kept, masked, keeps, masks, _, _, split⟩ :=
      Schema.exists_splitBy_of_declared declared
    exact ⟨_, _, keep_of_schema_keep keeps, project_of_schema_mask masks,
      keeps, masks, split,
      built.conforms.splitBy_restrict keeps masks⟩

/-- Names out of order, with a repetition and with an unknown one; schemas that
share one field of two; and a value that leaves one of its fields out. -/
theorem keep_and_mask_split_of_reorderedExample :
    (∃ name,
      Schema.reorderedExample.FirstUndeclared ["role", "mood", "label"] name ∧
      Schema.reorderedExample.keep ["role", "mood", "label"] =
        .error (.unknownField name) ∧
      Schema.reorderedExample.mask ["role", "mood", "label"] =
        .error (.unknownField name)) ∧
      (∃ kept masked whole, Schema.reorderedExample.WellFormed ∧
        Schema.reorderedExample.keep ["role", "note", "role"] = .ok kept ∧
        Schema.reorderedExample.mask ["role", "note", "role"] = .ok masked ∧
        kept.compose masked = .ok whole ∧
        whole.names = ["note", "role", "entity"] ∧
        whole.same Schema.reorderedExample = true) ∧
      (∃ both rest, Schema.choiceExample.compose Schema.noteExample = .ok both ∧
        both.mask Schema.noteExample.names = .ok rest ∧
        rest.names = ["entity"]) ∧
      ∃ value kept projected : Value,
        construct Schema.reorderedExample
            (.object
              [("entity", .object [("label", .string "it")]), ("note", .null)])
                =
          .ok value ∧
        value.Built ∧
        (∃ name, value.schema.FirstUndeclared ["role", "mood", "label"] name ∧
          value.keep ["role", "mood", "label"] =
            .error (.schema (.unknownField name)) ∧
          value.project ["role", "mood", "label"] =
            .error (.schema (.unknownField name))) ∧
        value.keep ["role", "note", "role"] = .ok kept ∧
        value.project ["role", "note", "role"] = .ok projected ∧
        SplitBy Prod.fst ["role", "note", "role"] value.data kept.data
          projected.data := by
  obtain ⟨schemas, compositions, values⟩ := keep_and_mask_split
  have formed := Schema.wellFormed_reorderedExample
  have undeclared :
      ∃ name ∈ ["role", "mood", "label"],
        name ∉ Schema.reorderedExample.names :=
    ⟨"mood", by decide, by decide⟩
  have declared :
      ∀ name ∈ ["role", "note", "role"],
        name ∈ Schema.reorderedExample.names := by
    decide
  refine ⟨(schemas _ _).1 undeclared, ?_, ?_, ?_⟩
  · obtain ⟨kept, masked, keeps, masks, _, again⟩ := (schemas _ _).2 declared
    obtain ⟨whole, composed, fields, same⟩ := again formed
    obtain rfl := Except.ok.inj keeps
    obtain rfl := Except.ok.inj masks
    exact ⟨_, _, whole, formed, keeps, masks, composed,
      congrArg (List.map Field.name) fields, same⟩
  · obtain ⟨both, done⟩ :
        ∃ both, Schema.choiceExample.compose Schema.noteExample = .ok both :=
      ⟨_, rfl⟩
    obtain ⟨rest, masks, fields⟩ := compositions _ _ both done
    exact ⟨both, rest, done, masks, congrArg (List.map Field.name) fields⟩
  · have made : construct Schema.reorderedExample
        (.object
          [("entity", .object [("label", .string "it")]), ("note", .null)]) =
          .ok ⟨Schema.reorderedExample,
            [("note", .null), ("entity", .object [("label", .string "it")])]⟩ :=
      rfl
    have distinct : (Json.object
        [("entity", .object [("label", .string "it")]),
          ("note", .null)]).Distinct := by
      simp [Json.Distinct, Json.DistinctMembers, Members.Distinct]
    have built := Built.construct formed distinct made
    obtain ⟨kept, projected, keeps, projects, _, _, _, data⟩ :=
      (values _ _ built).2 declared
    exact ⟨_, kept, projected, made, built, (values _ _ built).1 undeclared,
      keeps, projects, data⟩

end Value
end PromptTuning
