import PromptTuning.Proofs.Schema.Monoid
import PromptTuning.Proofs.Schema.Rearrangement

/-!
# Splitting a schema by names

Keeping and masking fail together, over the first name that is not declared.
Otherwise each field goes to exactly one of them, whatever the order of the
names and however often one is given, and composing the two parts brings the
schema back. Masking the names of the right schema takes a composition back to
the fields that only the left one has: the merge changes nothing else.
-/

namespace PromptTuning

/-- Two lists split a list by names: the first has the items that go by one of
the names and the second has the others, both in order, and each item is in them
as often as before. -/
structure SplitBy {Item : Type} (label : Item -> String) (names : List String)
    (whole inside outside : List Item) : Prop where
  inside_sublist : inside.Sublist whole
  outside_sublist : outside.Sublist whole
  perm : (inside ++ outside).Perm whole
  mem_inside : ∀ item ∈ inside, label item ∈ names
  mem_outside : ∀ item ∈ outside, label item ∉ names

/-- A list is split by the names that are listed and those that are not. -/
theorem splitBy_filter {Item : Type} (label : Item -> String)
    (names : List String) (whole : List Item) :
    SplitBy label names whole
      (whole.filter fun item => names.contains (label item))
      (whole.filter fun item => !names.contains (label item)) where
  inside_sublist := List.filter_sublist
  outside_sublist := List.filter_sublist
  perm := List.filter_append_perm _ whole
  mem_inside := by simp
  mem_outside := by simp

namespace Schema

section Undeclared

variable {schema : Schema} {names : List String} {name : String}

/-- The first of several names that a schema does not declare. -/
def FirstUndeclared (schema : Schema) (names : List String) (name : String) :
    Prop :=
  name ∉ schema.names ∧ ∃ before after, names = before ++ name :: after ∧
    ∀ earlier ∈ before, earlier ∈ schema.names

/-- The undeclared name that is found is the first of its kind. -/
theorem undeclared?_eq_some_iff :
    schema.undeclared? names = some name ↔
    schema.FirstUndeclared names name := by
  rw [undeclared?, List.find?_eq_some_iff_append, FirstUndeclared]
  simp only [Bool.not_eq_true', Bool.not_not, ← Bool.not_eq_true, declares_iff]

/-- No undeclared name is found if all names are declared. -/
theorem undeclared?_eq_none_iff :
    schema.undeclared? names = none ↔ ∀ name ∈ names, name ∈ schema.names := by
  simp [undeclared?, declares_iff]

/-- Some name is not declared exactly if there is a first one. -/
theorem exists_firstUndeclared_iff :
    (∃ name, schema.FirstUndeclared names name) ↔
    ∃ name ∈ names, name ∉ schema.names := by
  simp only [← undeclared?_eq_some_iff, ← Option.isSome_iff_exists,
    Option.isSome_iff_ne_none, ne_eq, undeclared?_eq_none_iff, not_forall,
    exists_prop]

/-- Keeping fields fails at the first name that is not declared. -/
theorem keep_of_firstUndeclared (first : schema.FirstUndeclared names name) :
    schema.keep names = .error (.unknownField name) := by
  rw [keep, undeclared?_eq_some_iff.mpr first]

/-- Masking fields fails at the first name that is not declared. -/
theorem mask_of_firstUndeclared (first : schema.FirstUndeclared names name) :
    schema.mask names = .error (.unknownField name) := by
  rw [mask, undeclared?_eq_some_iff.mpr first]

/-- Fields with declared names are kept, in their order. -/
theorem keep_of_declared (declared : ∀ name ∈ names, name ∈ schema.names) :
    schema.keep names = .ok { schema with
      fields :=
        schema.fields.filter fun field => names.contains field.name } := by
  rw [keep, undeclared?_eq_none_iff.mpr declared]

/-- Fields with declared names are masked, and the others keep their order. -/
theorem mask_of_declared (declared : ∀ name ∈ names, name ∈ schema.names) :
    schema.mask names = .ok { schema with
      fields :=
        schema.fields.filter fun field => !names.contains field.name } := by
  rw [mask, undeclared?_eq_none_iff.mpr declared]

/-- Where every name is declared, keeping and masking split the fields. -/
theorem exists_splitBy_of_declared
    (declared : ∀ name ∈ names, name ∈ schema.names) :
    ∃ kept masked, schema.keep names = .ok kept ∧
      schema.mask names = .ok masked ∧
      kept.title = schema.title ∧ masked.title = schema.title ∧
      SplitBy Field.name names schema.fields kept.fields masked.fields :=
  ⟨_, _, keep_of_declared declared, mask_of_declared declared, rfl, rfl,
    splitBy_filter Field.name names schema.fields⟩

/-- Of the names that a schema declares, a choice of its fields declares those
it was made by. -/
theorem declares_filter (wanted : String -> Bool)
    (declared : name ∈ schema.names) :
    declares
      { schema with
        fields := schema.fields.filter fun field => wanted field.name } name =
      wanted name := by
  obtain ⟨field, stored, rfl⟩ := List.mem_map.mp declared
  rw [Bool.eq_iff_iff, declares_iff]
  simp only [Schema.names, List.mem_map, List.mem_filter]
  constructor
  · rintro ⟨other, ⟨_, chosen⟩, same⟩
    exact same ▸ chosen
  · intro chosen
    exact ⟨field, ⟨stored, chosen⟩, rfl⟩

end Undeclared

section Recomposition

/-- A field of a new name is appended. -/
theorem mergeField_of_fresh {right : Field} {fields : List Field}
    (fresh : right.name ∉ fields.map (·.name)) :
    mergeField right fields = .ok (fields ++ [right]) := by
  induction fields with
  | nil => rfl
  | cons left rest inductionHypothesis =>
      rw [List.map_cons, List.mem_cons, not_or] at fresh
      rw [mergeField, if_neg (Ne.symm fresh.1), inductionHypothesis fresh.2]
      rfl

/-- Fields of new names are appended in their order. -/
theorem mergeFields_of_nodup {fields others : List Field}
    (distinct : ((fields ++ others).map (·.name)).Nodup) :
    mergeFields fields others = .ok (fields ++ others) := by
  induction others generalizing fields with
  | nil => rw [mergeFields, List.append_nil]
  | cons right rest inductionHypothesis =>
      have fresh : right.name ∉ fields.map (·.name) := by
        rw [List.map_append, List.nodup_append] at distinct
        exact fun listed => distinct.2.2 _ listed _ List.mem_cons_self rfl
      rw [List.append_cons] at distinct ⊢
      rw [mergeFields, mergeField_of_fresh fresh]
      exact inductionHypothesis distinct

/-- The parts that a schema is split into compose to its fields again, the kept
ones first. -/
theorem compose_of_splitBy
    {schema kept masked : Schema}
    {names : List String}
    (distinct : schema.Distinct)
    (split : SplitBy Field.name names schema.fields kept.fields masked.fields)
    (keptTitle : kept.title = schema.title)
    (maskedTitle : masked.title = schema.title) :
    kept.compose masked = .ok ⟨schema.title, kept.fields ++ masked.fields⟩ := by
  have nodup : ((kept.fields ++ masked.fields).map (·.name)).Nodup :=
    (split.perm.map Field.name).nodup_iff.mpr distinct
  rw [compose, mergeFields_of_nodup nodup, keptTitle, maskedTitle]
  cases schema.title <;> rfl

/-- A well-formed schema is the same as its fields in another order. -/
theorem same_of_perm
    {schema : Schema}
    {fields : List Field}
    (formed : schema.WellFormed)
    (order : fields.Perm schema.fields) :
    (⟨schema.title, fields⟩ : Schema).same schema = true := by
  obtain ⟨title, declared⟩ := schema
  rw [same_eq]
  -- The reordered schema stands on the left, so it has to be well-formed first.
  have reordered := (FieldType.same_of_perm title title order.symm formed).1
  exact (FieldType.same_of_perm title title order reordered).2

end Recomposition

section Removal

variable {names : List String}

/-- Merging a field leaves those of the other names as they are. -/
theorem filter_mergeField
    {right : Field}
    {fields merged : List Field}
    (done : mergeField right fields = .ok merged)
    (listed : right.name ∈ names) :
    (merged.filter fun field => !names.contains field.name) =
      fields.filter fun field => !names.contains field.name := by
  induction fields generalizing merged with
  | nil =>
      obtain rfl := Except.ok.inj done
      simp [listed]
  | cons left rest inductionHypothesis =>
      obtain ⟨named, _, rfl⟩ | ⟨_, others, rest', rfl⟩ :=
        mergeField_cons_eq_ok done
      · -- The merge goes by the left name, which is listed, so it falls out as
        -- the field did.
        have kept : (left.merge right).name = left.name := rfl
        rw [List.filter_cons_of_neg (by simp [kept, named, listed]),
          List.filter_cons_of_neg (by simp [named, listed])]
      · rw [List.filter_cons, List.filter_cons, inductionHypothesis rest']

/-- Merging fields of some names leaves the fields of all other names alone. -/
theorem filter_mergeFields
    {fields others merged : List Field}
    (done : mergeFields fields others = .ok merged)
    (listed : ∀ right ∈ others, right.name ∈ names) :
    (merged.filter fun field => !names.contains field.name) =
      fields.filter fun field => !names.contains field.name := by
  induction others generalizing fields with
  | nil =>
      obtain rfl := Except.ok.inj done
      rfl
  | cons right rest inductionHypothesis =>
      obtain ⟨next, step, done⟩ := mergeFields_cons_eq_ok done
      obtain ⟨here, later⟩ := List.forall_mem_cons.mp listed
      rw [inductionHypothesis done later, filter_mergeField step here]

/-- Merging a field keeps all names. -/
theorem subset_names_of_mergeField
    {right : Field}
    {fields merged : List Field}
    (done : mergeField right fields = .ok merged) :
    fields.map (·.name) ⊆ merged.map (·.name) := by
  obtain names | ⟨_, names⟩ := names_of_mergeField done
  · rw [names]
    exact List.Subset.refl _
  · rw [names]
    exact List.subset_append_left _ _

/-- Merged fields have the names of both sides. -/
theorem subset_names_of_mergeFields
    {fields others merged : List Field}
    (done : mergeFields fields others = .ok merged) :
    fields.map (·.name) ⊆ merged.map (·.name) ∧
    others.map (·.name) ⊆ merged.map (·.name) := by
  induction others generalizing fields with
  | nil =>
      obtain rfl := Except.ok.inj done
      exact ⟨List.Subset.refl _, List.nil_subset _⟩
  | cons right rest inductionHypothesis =>
      obtain ⟨next, step, done⟩ := mergeFields_cons_eq_ok done
      obtain ⟨earlier, later⟩ := inductionHypothesis done
      refine ⟨List.Subset.trans (subset_names_of_mergeField step) earlier, ?_⟩
      rw [List.map_cons, List.cons_subset]
      exact ⟨earlier (mem_names_of_mergeField step), later⟩

variable {left right both : Schema}

/-- A composition has all names of its right part. -/
theorem subset_names_of_compose (done : left.compose right = .ok both) :
    right.names ⊆ both.names := by
  obtain ⟨fields, merged, rfl⟩ := compose_eq_ok done
  exact (subset_names_of_mergeFields merged).2

/-- Composing changes no field that only the left schema has. -/
theorem filter_fields_of_compose (done : left.compose right = .ok both) :
    (both.fields.filter fun field => !right.names.contains field.name) =
      left.fields.filter fun field => !right.names.contains field.name := by
  obtain ⟨fields, merged, rfl⟩ := compose_eq_ok done
  exact filter_mergeFields merged fun _ declared => List.mem_map_of_mem declared

/-- Without the names of its right part, a composition has the remaining fields
of its left part. -/
theorem mask_of_compose (done : left.compose right = .ok both) :
    both.mask right.names =
      .ok ⟨both.title,
        left.fields.filter fun field => !right.names.contains field.name⟩ := by
  rw [mask_of_declared fun _ listed => subset_names_of_compose done listed,
    filter_fields_of_compose done]

end Removal

end Schema
end PromptTuning
