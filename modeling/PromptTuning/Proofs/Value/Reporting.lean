import PromptTuning.Proofs.Schema.Faults
import PromptTuning.Proofs.Value.Conformance

/-!
# Reports of faulty data

Data are refused with one violation for each of their faulty positions. What is
wrong under one name of the object depends on what the object holds under that
name only.
-/

namespace PromptTuning

namespace Members

/-- The members of other names. -/
def apartFrom (members : Members) (name : String) : Members :=
  members.filter fun member => member.1 != name

/-- Members apart from one are found as before. -/
theorem lookup_apartFrom {name key : String} (different : key ≠ name)
    (members : Members) :
    (members.apartFrom name).lookup key = members.lookup key := by
  rw [apartFrom, lookup_filter members (fun other => other != name),
    if_pos (by simpa using different)]

/-- The keys of members apart from one are all keys but that one. -/
theorem keys_apartFrom (members : Members) (name : String) :
    (members.apartFrom name).keys =
      members.keys.filter fun key => key != name := by
  rw [apartFrom, keys, keys, List.filter_map]
  rfl

/-- Storing under a name leaves the members of other names alone. -/
theorem apartFrom_put (members : Members) (name : String) (value : Json) :
    (members.put name value).apartFrom name = members.apartFrom name := by
  induction members with
  | nil => simp [put, apartFrom]
  | cons member rest inductionHypothesis =>
      obtain ⟨key, old⟩ := member
      rw [put]
      split
      case isTrue same => simp [apartFrom, same]
      case isFalse different =>
        rw [apartFrom, List.filter_cons, ← apartFrom, inductionHypothesis]
        rw [apartFrom, apartFrom, List.filter_cons]

end Members

/-- Whether a violation lies under a name of the object. -/
def Violation.concerns (violation : Violation) (name : String) : Bool :=
  violation.path.head? == some (.member name)

namespace Field

/-- What is wrong with a field concerns that field alone. -/
theorem concerns_of_mem_violations
    {field : Field}
    {members : Members}
    {violation : Violation}
    (listed : violation ∈ field.violations [] members)
    (name : String) :
    violation.concerns name = (field.name == name) := by
  obtain ⟨place, reached⟩ :=
    FieldType.exists_path_of_mem_field_violations listed
  rw [Violation.concerns, reached]
  simp

/-- Every violation of a field lies under its name. -/
theorem filter_concerns_violations (field : Field) (members : Members)
    (name : String) :
    (field.violations [] members).filter (·.concerns name) =
      if field.name = name then field.violations [] members else [] := by
  split
  case isTrue same =>
    rw [List.filter_eq_self]
    intro violation listed
    rw [concerns_of_mem_violations listed]
    exact beq_iff_eq.mpr same
  case isFalse different =>
    rw [List.filter_eq_nil_iff]
    intro violation listed
    rw [concerns_of_mem_violations listed]
    exact different ∘ beq_iff_eq.mp

/-- What is wrong with a field depends on what the object holds under
its name only. -/
theorem violations_congr
    {field : Field}
    {changed members : Members}
    (same : changed.lookup field.name = members.lookup field.name)
    (path : Path) :
    field.violations path changed = field.violations path members := by
  rw [violations, violations, same]

end Field

namespace Schema

/-- What is wrong with members is wrong with the object that they form. -/
theorem violations_eq_object (schema : Schema) (members : Members) :
    schema.violations members =
      (FieldType.object schema).violations [] (.object members) := by
  rw [FieldType.violations_object, violations]

/-- The undeclared keys of other names are those of the members of
other names. -/
theorem filter_unexpected (fields : List Field) (members : Members)
    (name : String) :
    (FieldType.unexpected fields [] members).filter (!·.concerns name) =
      FieldType.unexpected fields [] (members.apartFrom name) := by
  rw [FieldType.unexpected, FieldType.unexpected, Members.keys_apartFrom,
    List.filter_map, List.filter_comm]
  congr 2
  refine List.filter_congr fun key _ => ?_
  simp [Violation.concerns, bne]

/-- The violations that lie under other names do not depend on what the object
holds under one. -/
theorem filter_violations_congr
    (schema : Schema)
    {changed members : Members}
    {name : String}
    (same : changed.apartFrom name = members.apartFrom name) :
    (schema.violations changed).filter (!·.concerns name) =
      (schema.violations members).filter (!·.concerns name) := by
  simp only [violations, FieldType.fieldViolations_eq_flatMap,
    List.filter_append, List.filter_flatMap]
  rw [filter_unexpected, filter_unexpected, same]
  refine congrArg (· ++ _) (List.flatMap_congr fun field declared => ?_)
  by_cases named : field.name = name
  · have under (held : Members) :
        (field.violations [] held).filter (!·.concerns name) = [] := by
      rw [List.filter_eq_nil_iff]
      intro violation listed
      simp [Field.concerns_of_mem_violations listed, named]
    rw [under, under]
  · rw [Field.violations_congr]
    rw [← Members.lookup_apartFrom named, same, Members.lookup_apartFrom named]

/-- The violations that lie under the name of a field are those of the field. -/
theorem filter_concerns_violations
    {schema : Schema}
    {field : Field}
    (names : schema.Distinct)
    (declared : field ∈ schema.fields)
    (members : Members) :
    (schema.violations members).filter (·.concerns field.name) =
      field.violations [] members := by
  have unexpected : (FieldType.unexpected schema.fields [] members).filter
      (·.concerns field.name) = [] := by
    rw [List.filter_eq_nil_iff]
    intro violation listed
    obtain ⟨key, _, undeclared, rfl⟩ := FieldType.mem_unexpected_iff.mp listed
    simpa [Violation.concerns] using (undeclared field declared).symm
  rw [violations, FieldType.fieldViolations_eq_flatMap, List.filter_append,
    unexpected, List.append_nil, List.filter_flatMap]
  simp only [Field.filter_concerns_violations]
  obtain ⟨before, after, parts⟩ := List.append_of_mem declared
  rw [Distinct, Schema.names, parts, List.map_append, List.map_cons,
    List.nodup_middle, List.nodup_cons, List.mem_append, List.mem_map,
    List.mem_map, not_or] at names
  have earlier : ∀ other ∈ before, other.name ≠ field.name :=
    fun other stored same => names.1.1 ⟨other, stored, same⟩
  have later : ∀ other ∈ after, other.name ≠ field.name :=
    fun other stored same => names.1.2 ⟨other, stored, same⟩
  rw [parts, List.flatMap_append, List.flatMap_cons, if_pos rfl,
    List.flatMap_eq_nil_iff.mpr fun other stored =>
      if_neg (earlier other stored),
    List.flatMap_eq_nil_iff.mpr fun other stored => if_neg (later other stored),
    List.nil_append, List.append_nil]

end Schema

namespace Value

/-- An object makes a value unless there are violations, which are then what
is reported. -/
theorem construct_object_cases (schema : Schema) (members : Members) :
    schema.violations members = [] ∧
        construct schema (.object members) =
          .ok ⟨schema, schema.normalize members⟩ ∨
      schema.violations members ≠ [] ∧
        construct schema (.object members) =
          .error (schema.violations members) := by
  rw [construct, ofMembers]
  cases schema.violations members with
  | nil => exact .inl ⟨rfl, rfl⟩
  | cons first rest => exact .inr ⟨List.cons_ne_nil first rest, rfl⟩

/-- What is reported of data; nothing if they make a value. -/
def refusals (schema : Schema) (data : Json) : List Violation :=
  match construct schema data with
  | .ok _ => []
  | .error violations => violations

/-- An object is refused for what is wrong with its members. -/
theorem refusals_object (schema : Schema) (members : Members) :
    refusals schema (.object members) = schema.violations members := by
  rw [refusals]
  obtain ⟨clean, made⟩ | ⟨_, refused⟩ := construct_object_cases schema members
  · rw [made, clean]
  · rw [refused]

/-- Constructing a value of an object succeeds exactly if nothing at any depth
of the object is faulty. Otherwise each faulty position is reported once, with
what is wrong and the path that leads there, and whatever is stored or removed
under one name, the report on the others is the same. -/
theorem construct_reports_each_fault
    {schema : Schema}
    {members : Members}
    (formed : schema.WellFormed)
    (distinct : (Json.object members).Distinct) :
    ((∃ value, construct schema (.object members) = .ok value) ↔
        ¬ ∃ path fault, FaultAt (.object schema) (.object members) path fault) ∧
      (∀ violations, construct schema (.object members) = .error violations ->
        (violations.map Violation.path).Nodup ∧
          ∀ path fault,
            ⟨path, fault⟩ ∈ violations ↔
            FaultAt (.object schema) (.object members) path fault) ∧
      ∀ name (changed : Members),
        changed.apartFrom name = members.apartFrom name ->
        (refusals schema (.object changed)).filter (!·.concerns name) =
          (refusals schema (.object members)).filter (!·.concerns name) := by
  have listed (path : Path) (fault : Fault) :
      ⟨path, fault⟩ ∈ schema.violations members ↔
        FaultAt (.object schema) (.object members) path fault := by
    rw [schema.violations_eq_object]
    exact FieldType.mem_violations_iff
  have once : ((schema.violations members).map Violation.path).Nodup := by
    rw [schema.violations_eq_object]
    exact FieldType.nodup_paths_violations (.object schema) formed distinct []
  refine ⟨?_, ?_, ?_⟩
  · obtain ⟨clean, made⟩ | ⟨faulty, refused⟩ :=
      construct_object_cases schema members
    · refine iff_of_true ⟨_, made⟩ ?_
      rintro ⟨path, fault, faulty⟩
      have member := (listed path fault).mpr faulty
      rw [clean] at member
      exact List.not_mem_nil member
    · refine iff_of_false ?_ (not_not_intro ?_)
      · rintro ⟨value, made⟩
        rw [refused] at made
        contradiction
      · obtain ⟨⟨path, fault⟩, member⟩ := List.exists_mem_of_ne_nil _ faulty
        exact ⟨path, fault, (listed path fault).mp member⟩
  · intro violations refused
    obtain ⟨_, made⟩ | ⟨_, reported⟩ := construct_object_cases schema members
    · rw [made] at refused
      contradiction
    · rw [reported] at refused
      obtain rfl := Except.error.inj refused
      exact ⟨once, listed⟩
  · intro name changed same
    rw [refusals_object, refusals_object]
    exact schema.filter_violations_congr same

/-- A message of a conversation. -/
def messageExample : Schema :=
  ⟨none, [.mandatory "role" (.oneOf [.string "user", .string "assistant"]),
    .mandatory "content" .string]⟩

/-- A conversation, and how many turns it took. -/
def conversationExample : Schema :=
  ⟨none, [.mandatory "messages" (.list (.object messageExample)),
    (Field.voluntary "turns" .integer).withDefault (.ofNat 0)]⟩

/-- A conversation with a message of an unknown role and without content, a
number of turns in words and a key that is not declared. -/
def garbledExample : Members :=
  [("messages",
    .array [.object [("role", .string "user"), ("content", .string "hi")],
      .object [("role", .string "robot")]]),
    ("turns", .string "two"), ("extra", .boolean true)]

theorem wellFormed_messageExample : messageExample.WellFormed := by
  refine Schema.wellFormed_iff.mpr ⟨?_, ?_⟩
  · simp [messageExample, Schema.Distinct, Schema.names, Field.mandatory]
  · simp only [messageExample, List.forall_mem_cons, List.not_mem_nil,
      false_implies, implies_true, and_true]
    exact ⟨.of_default_eq_none ⟨trivial, trivial, trivial⟩ rfl,
      .of_default_eq_none trivial rfl⟩

theorem wellFormed_conversationExample : conversationExample.WellFormed := by
  refine Schema.wellFormed_iff.mpr ⟨?_, ?_⟩
  · simp [conversationExample, Schema.Distinct, Schema.names, Field.mandatory,
      Field.voluntary, Field.withDefault]
  · simp only [conversationExample, List.forall_mem_cons, List.not_mem_nil,
      false_implies, implies_true, and_true]
    exact ⟨.of_default_eq_none wellFormed_messageExample rfl,
      .withDefault trivial trivial rfl⟩

theorem distinct_garbledExample : (Json.object garbledExample).Distinct := by
  simp [garbledExample, Json.Distinct, Json.DistinctMembers, Json.DistinctItems,
    Members.Distinct, Members.keys]

theorem construct_reports_each_fault_of_garbledExample :
    conversationExample.WellFormed ∧ (Json.object garbledExample).Distinct ∧
      ∃ violations,
        construct conversationExample (.object garbledExample) =
          .error violations ∧
        violations.map (fun violation => violation.path.render) =
          ["messages[1].role", "messages[1].content", "turns", "extra"] ∧
        (violations.map Violation.path).Nodup ∧
        ∀ path fault, ⟨path, fault⟩ ∈ violations ↔
          FaultAt (.object conversationExample) (.object garbledExample)
            path fault := by
  obtain ⟨_, reported, _⟩ :=
    construct_reports_each_fault wellFormed_conversationExample
      distinct_garbledExample
  refine ⟨wellFormed_conversationExample, distinct_garbledExample, _, rfl,
    ?_, reported _ rfl⟩
  decide

end Value
end PromptTuning
