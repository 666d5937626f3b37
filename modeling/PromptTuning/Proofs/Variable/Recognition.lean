import PromptTuning.Proofs.Schema.Recognition
import PromptTuning.Proofs.Schema.Soundness
import PromptTuning.Proofs.Value.Concatenation
import PromptTuning.Proofs.Value.Presence
import PromptTuning.Proofs.Variable.Document

/-!
# Recognized values are records

Whether a value is a prediction or an instruction set is decided on its schema,
and which record it is on its data. The two agree: the reference schemas ask for
plain types only, a plain type accepts whatever a narrower one does, and the
decoder of each field reads whatever the type of the field accepts. Conversely a
record with a finite reward makes a recognized value, in which the record is
found again.
-/

namespace PromptTuning

namespace FieldType

/-- A type of strings, numbers, truth values or anything, also in lists, maps
and optionals. -/
def isPlain : FieldType -> Bool
  | .string | .number | .boolean | .any => true
  | .list item => item.isPlain
  | .map value => value.isPlain
  | .optional present => present.isPlain
  | .integer | .object _ | .oneOf _ => false

/-- A plain type accepts whatever a narrower type accepts. -/
theorem accepts_of_isNarrowerThan
    (wide narrow : FieldType)
    (value : Json)
    (plain : wide.isPlain = true)
    (narrower : narrow.isNarrowerThan wide = true)
    (accepted : narrow.Accepts value) :
    wide.Accepts value := by
  induction wide generalizing narrow value with
  | any => trivial
  | string | number | boolean =>
      exact accepts_of_isNarrowerThan_primitive rfl narrower accepted (by simp)
  | list wide inner =>
      obtain ⟨item, rfl, narrower⟩ := isNarrowerThan_list_iff.mp narrower
      rw [Accepts] at accepted ⊢
      obtain ⟨items, rfl, fits⟩ := accepted
      exact ⟨items, rfl,
        fun part stored => inner item part plain narrower (fits part stored)⟩
  | map wide inner =>
      obtain ⟨entry, rfl, narrower⟩ := isNarrowerThan_map_iff.mp narrower
      rw [Accepts] at accepted ⊢
      obtain ⟨members, rfl, fits⟩ := accepted
      exact ⟨members, rfl, fun member stored =>
        inner entry member.2 plain narrower (fits member stored)⟩
  | optional wide inner =>
      obtain ⟨present, rfl, narrower⟩ | ⟨_, narrower⟩ :=
        isNarrowerThan_optional_iff.mp narrower
      · rw [Accepts] at accepted
        exact accepted.imp_right (inner present value plain narrower)
      · exact .inr (inner narrow value plain narrower accepted)
  | integer | object | oneOf => contradiction

end FieldType

/-- The members of a value fit every plain field that its schema contains. -/
theorem Value.Built.admits_of_contains
    {value : Value}
    (built : value.Built)
    {reference : Schema}
    (contains : value.schema.contains reference = true)
    {field : Field}
    (declared : field ∈ reference.fields)
    (plain : field.type.isPlain = true) :
    field.Admits value.data := by
  obtain ⟨found, stored, serves⟩ :=
    Schema.contains_iff.mp contains field declared
  refine ⟨fun part given => ?_, fun missing => ?_⟩
  · obtain ⟨other, again, accepted⟩ := built.conforms.exists_field given
    rw [stored] at again
    obtain rfl := Option.some.inj again
    exact FieldType.accepts_of_isNarrowerThan field.type found.type part plain
      serves.type accepted
  · cases required : field.required with
    | false => rfl
    | true =>
        obtain ⟨part, given⟩ :=
          built.complete.exists_lookup stored (.inl (serves.required required))
        rw [missing] at given
        contradiction

namespace Decoder

variable {α : Type} {decode : Decoder α} {type : FieldType}

/-- A decoder reads every value that a type accepts. -/
def Reads (decode : Decoder α) (type : FieldType) : Prop :=
  ∀ value, type.Accepts value -> ∃ content, decode value = .ok content

/-- A text is decoded exactly where it is accepted. -/
theorem reads_string : Reads string .string := by
  rintro _ ⟨text, rfl⟩
  exact ⟨text, rfl⟩

/-- A number is decoded exactly where it is accepted. -/
theorem reads_double : Reads double .number := by
  rintro _ ⟨number, rfl⟩
  exact ⟨number.toDouble, rfl⟩

/-- An object is decoded exactly where a map is accepted. -/
theorem reads_map {entry : FieldType} : Reads map (.map entry) := by
  intro value accepted
  rw [FieldType.Accepts] at accepted
  obtain ⟨members, rfl, _⟩ := accepted
  exact ⟨members, rfl⟩

/-- An optional value is decoded exactly where it is accepted. -/
theorem reads_optional (reads : Reads decode type) :
    Reads (optional decode) (.optional type) := by
  intro value accepted
  rw [FieldType.Accepts] at accepted
  by_cases null : value = .null
  · exact ⟨none, by rw [null]; rfl⟩
  · obtain ⟨content, decoded⟩ := reads value (accepted.resolve_left null)
    exact ⟨some content, optional_of_ne_null decoded null⟩

/-- A list is decoded exactly where it is accepted. -/
theorem reads_list (reads : Reads decode type) :
    Reads (list decode) (.list type) := by
  intro value accepted
  rw [FieldType.Accepts] at accepted
  obtain ⟨items, rfl, fits⟩ := accepted
  simp only [list]
  induction items with
  | nil => exact ⟨[], rfl⟩
  | cons item rest inductionHypothesis =>
      obtain ⟨first, others⟩ := List.forall_mem_cons.mp fits
      obtain ⟨content, decoded⟩ := reads item first
      obtain ⟨contents, decodedRest⟩ := inductionHypothesis others
      exact ⟨content :: contents,
        by rw [List.mapM_cons, decoded, decodedRest]; rfl⟩

/-- Nothing but an object is decoded as its members. -/
theorem map_eq_ok_iff {content : Json} {members : Members} :
    map content = .ok members ↔ content = .object members := by
  cases content <;> simp [map, wrongType]

end Decoder

namespace Field

variable {α : Type} {decode : Decoder α} {field : Field} {members : Members}

/-- The decoder reads a field that must be present. -/
theorem Admits.exists_required
    (admits : field.Admits members)
    (reads : Decoder.Reads decode field.type)
    (needed : (field.required && field.default.isNone) = true) :
    ∃ part content, members.lookup field.name = some part ∧
      decode part = .ok content ∧
      Decoder.required members field.name decode = .ok content := by
  cases found : members.lookup field.name with
  | none => simp [admits.absent found] at needed
  | some part =>
      obtain ⟨content, decoded⟩ := reads part (admits.present part found)
      exact ⟨part, content, rfl, decoded,
        Decoder.required_of_lookup found decoded⟩

/-- A map that must be present is read as it stands. -/
theorem Admits.exists_map
    (admits : field.Admits members)
    (name : String)
    (named : name = field.name)
    (shape : field.type = .map .any)
    (needed : (field.required && field.default.isNone) = true) :
    ∃ content, members.lookup name = some (.object content) ∧
      Decoder.required members name Decoder.map = .ok content := by
  subst named
  obtain ⟨part, content, found, decoded, read⟩ :=
    admits.exists_required (shape ▸ Decoder.reads_map) needed
  exact ⟨content, Decoder.map_eq_ok_iff.mp decoded ▸ found, read⟩

/-- The decoder reads a field that may be absent. -/
theorem Admits.exists_defaulted
    (admits : field.Admits members)
    (reads : Decoder.Reads decode field.type)
    (default : α) :
    ∃ content,
      Decoder.defaulted members field.name decode default = .ok content := by
  cases found : members.lookup field.name with
  | none => exact ⟨default, by rw [Decoder.defaulted, found]⟩
  | some part =>
      obtain ⟨content, decoded⟩ := reads part (admits.present part found)
      exact ⟨content, Decoder.defaulted_of_lookup found decoded⟩

end Field

/-- The rule of a record's field passes whatever a schema's field admits. -/
structure FieldRule.Follows (rule : FieldRule) (field : Field) : Prop where
  name : rule.name = field.name
  passes : ∀ part, field.type.Accepts part -> rule.check part = .ok ()
  needed :
    rule.absentInObject = false ->
    (field.required && field.default.isNone) = true

namespace FieldRule

variable {α : Type} {decode : Decoder α} {name : String} {field : Field}

/-- A required rule follows a required field whose type it reads. -/
theorem follows_required
    (named : name = field.name)
    (reads : Decoder.Reads decode field.type)
    (needed : (field.required && field.default.isNone) = true) :
    (required name decode).Follows field where
  name := named
  passes part accepted := by
    obtain ⟨content, decoded⟩ := reads part accepted
    exact check_required decoded
  needed _ := needed

/-- A rule with a default follows any field whose type it reads. -/
theorem follows_defaulted (named : name = field.name)
    (reads : Decoder.Reads decode field.type) :
    (defaulted name decode).Follows field where
  name := named
  passes part accepted := by
    obtain ⟨content, decoded⟩ := reads part accepted
    exact check_defaulted decoded
  needed absent := by simp at absent

end FieldRule

/-- Members are a record if its rules follow, one by one, fields that
admit them. -/
theorem Decoder.record_of_admits
    (title : String)
    {rules : List FieldRule}
    {fields : List Field}
    {members : Members}
    (followed : List.Forall₂ FieldRule.Follows rules fields)
    (distinct : members.Distinct)
    (admitted : ∀ field ∈ fields, field.Admits members) :
    record title rules (.object members) = .ok members := by
  have each :
      ∀ rule ∈ rules,
        ∃ field : Field, rule.Follows field ∧ field.Admits members := by
    induction followed with
    | nil => simp
    | cons follows _ inductionHypothesis =>
        obtain ⟨first, others⟩ := List.forall_mem_cons.mp admitted
        exact List.forall_mem_cons.mpr
          ⟨⟨_, follows, first⟩, inductionHypothesis others⟩
  apply record_object
  · intro member stored rule known
    obtain ⟨field, follows, admits⟩ :=
      each rule (List.mem_of_find?_eq_some known)
    have named : rule.name = member.1 := by simpa using List.find?_some known
    refine follows.passes member.2 (admits.present member.2 ?_)
    rw [← follows.name, named]
    exact (Members.lookup_eq_some_iff_mem distinct).mpr stored
  · intro rule listed mandatory
    obtain ⟨field, follows, admits⟩ := each rule listed
    rw [Members.has, follows.name, Option.isSome_iff_ne_none]
    intro missing
    have absent := admits.absent missing
    rw [follows.needed mandatory] at absent
    contradiction

/-- Members that a schema accepts and keeps as they are make a value
as they are. -/
theorem Value.ofMembers_of_kept
    {schema : Schema}
    {members : Members}
    (accepted : (FieldType.object schema).Accepts (.object members))
    (kept : (FieldType.object schema).normalize (.object members) =
      .object members) :
    ofMembers schema members = .ok ⟨schema, members⟩ := by
  have normal := Json.object.inj
    ((Schema.normalize_object schema members).symm.trans kept)
  rw [ofMembers_of_admits (Schema.accepts_object_iff.mp accepted), normal]

namespace Prediction

/-- The fields of a prediction are read by the rules of its record. -/
theorem follows_rules :
    List.Forall₂ FieldRule.Follows rules Catalogue.prediction.fields :=
  .cons (FieldRule.follows_defaulted rfl Decoder.reads_string) <|
    .cons (FieldRule.follows_required rfl Decoder.reads_map rfl) <|
      .cons (FieldRule.follows_required rfl Decoder.reads_map rfl) <|
        .cons (FieldRule.follows_defaulted rfl
          (Decoder.reads_optional Decoder.reads_double)) .nil

/-- What the fields of a prediction admit is decoded, with its inputs and
outputs as they are. -/
theorem exists_decode_of_admits
    {members : Members}
    (distinct : members.Distinct)
    (admitted : ∀ field ∈ Catalogue.prediction.fields, field.Admits members) :
    ∃ prediction, decode (.object members) = .ok prediction ∧
      members.lookup "inputs" = some (.object prediction.inputs) ∧
      members.lookup "outputs" = some (.object prediction.outputs) := by
  have read := Decoder.record_of_admits "struct Prediction" follows_rules
    distinct admitted
  obtain ⟨label, inputs, outputs, reward⟩ :
      (Catalogue.defaultedLabel Catalogue.predictionLabel).Admits members ∧
        (Catalogue.anyMap "inputs" "The inputs").Admits members ∧
        (Catalogue.anyMap "outputs" "The outputs").Admits members ∧
        (Catalogue.rewardField "The prediction's reward").Admits members := by
    simpa [Catalogue.prediction, Catalogue.titled] using admitted
  obtain ⟨title, readLabel⟩ :
      ∃ title,
        Decoder.defaulted members "label" Decoder.string
          Catalogue.predictionLabel =
          .ok title :=
    label.exists_defaulted Decoder.reads_string _
  obtain ⟨given, storedInputs, readInputs⟩ :=
    inputs.exists_map "inputs" rfl rfl rfl
  obtain ⟨made, storedOutputs, readOutputs⟩ :=
    outputs.exists_map "outputs" rfl rfl rfl
  obtain ⟨score, readReward⟩ :
      ∃ score, Decoder.nullable members "reward" Decoder.double = .ok score :=
    reward.exists_defaulted (Decoder.reads_optional Decoder.reads_double) none
  refine ⟨⟨title, given, made, score⟩, ?_, storedInputs, storedOutputs⟩
  unfold decode
  rw [read]
  simp only [Decoder.ok_bind, readLabel, readInputs, readOutputs, readReward]
  rfl

/-- A recognized value is a prediction with the value's inputs and outputs. -/
theorem exists_ofValue_of_recognized
    {value : Value}
    (built : value.Built)
    (recognized : Catalogue.Recognizes "prediction" value.schema) :
    ∃ prediction, ofValue value = .ok prediction ∧
      value.field? "inputs" = some (.object prediction.inputs) ∧
      value.field? "outputs" = some (.object prediction.outputs) := by
  have contains : value.schema.contains Catalogue.prediction = true :=
    Catalogue.contains_of_recognizes (by simp [Catalogue.recognizers])
      recognized
  have plain :
      ∀ field ∈ Catalogue.prediction.fields, field.type.isPlain = true := by
    decide
  obtain ⟨prediction, decoded, inputs, outputs⟩ :=
    exists_decode_of_admits built.conforms.distinct_keys fun field declared =>
      built.admits_of_contains contains declared (plain field declared)
  exact ⟨prediction, mapError_eq_ok_iff.mpr decoded, inputs, outputs⟩

/-- A prediction with a finite reward makes a recognized value and is found
in it again. -/
theorem exists_toValue
    {prediction : Prediction}
    (finite : ∀ given ∈ prediction.reward, given.isFinite = true) :
    ∃ value, prediction.toValue = .ok value ∧
      Catalogue.Recognizes "prediction" value.schema ∧
      ofValue value = .ok prediction := by
  have made := Value.ofMembers_of_kept prediction.accepts_toJson
    prediction.normalize_toJson
  have recognized : Catalogue.Recognizes "prediction" Catalogue.prediction := by
    decide
  refine ⟨⟨Catalogue.prediction, prediction.toMembers⟩, ?_, recognized, ?_⟩
  · exact mapError_eq_ok_iff.mpr made
  · exact mapError_eq_ok_iff.mpr (decode_toJson finite)

end Prediction

namespace Instructions

/-- The fields of an instruction set are read by the rules of its record. -/
theorem follows_rules :
    List.Forall₂ FieldRule.Follows rules Catalogue.instructions.fields :=
  .cons (FieldRule.follows_defaulted rfl Decoder.reads_string) <|
    .cons (FieldRule.follows_required rfl
      (Decoder.reads_list Decoder.reads_string) rfl) <|
      .cons (FieldRule.follows_defaulted rfl
        (Decoder.reads_optional Decoder.reads_double)) .nil

/-- What the fields of an instruction set admit is decoded, with its lines
as they are. -/
theorem exists_decode_of_admits
    {members : Members}
    (distinct : members.Distinct)
    (admitted : ∀ field ∈ Catalogue.instructions.fields, field.Admits members) :
    ∃ set, decode (.object members) = .ok set ∧
      members.lookup "instructions" = some (.ofStrings set.instructions) := by
  have read := Decoder.record_of_admits "struct Instructions" follows_rules
    distinct admitted
  obtain ⟨label, instructions, reward⟩ :
      (Catalogue.defaultedLabel Catalogue.instructionsLabel).Admits members ∧
        (Catalogue.described "instructions" (.list .string)
          "The list of instructions").Admits members ∧
        (Catalogue.rewardField "The instruction's reward").Admits members := by
    simpa [Catalogue.instructions, Catalogue.titled] using admitted
  obtain ⟨title, readLabel⟩ :
      ∃ title,
        Decoder.defaulted members "label" Decoder.string
          Catalogue.instructionsLabel =
          .ok title :=
    label.exists_defaulted Decoder.reads_string _
  obtain ⟨lines, stored, readLines⟩ :
      ∃ lines, members.lookup "instructions" = some (.ofStrings lines) ∧
        Decoder.required members "instructions" (Decoder.list Decoder.string) =
          .ok lines := by
    obtain ⟨part, lines, found, decoded, read⟩ :=
      instructions.exists_required (Decoder.reads_list Decoder.reads_string) rfl
    exact ⟨lines, Decoder.list_string_eq_ok_iff.mp decoded ▸ found, read⟩
  obtain ⟨score, readReward⟩ :
      ∃ score, Decoder.nullable members "reward" Decoder.double = .ok score :=
    reward.exists_defaulted (Decoder.reads_optional Decoder.reads_double) none
  refine ⟨⟨title, lines, score⟩, ?_, stored⟩
  unfold decode
  rw [read]
  simp only [Decoder.ok_bind, readLabel, readLines, readReward]
  rfl

/-- A recognized value is an instruction set with the value's lines. -/
theorem exists_ofValue_of_recognized
    {value : Value}
    (built : value.Built)
    (recognized : Catalogue.Recognizes "instructions" value.schema) :
    ∃ set, ofValue value = .ok set ∧
      value.field? "instructions" = some (.ofStrings set.instructions) := by
  have contains : value.schema.contains Catalogue.instructions = true :=
    Catalogue.contains_of_recognizes (by simp [Catalogue.recognizers])
      recognized
  have plain :
      ∀ field ∈ Catalogue.instructions.fields, field.type.isPlain = true := by
    decide
  obtain ⟨set, decoded, lines⟩ :=
    exists_decode_of_admits built.conforms.distinct_keys fun field declared =>
      built.admits_of_contains contains declared (plain field declared)
  exact ⟨set, mapError_eq_ok_iff.mpr decoded, lines⟩

/-- An instruction set with a finite reward makes a recognized value and is
found in it again. -/
theorem exists_toValue
    {set : Instructions}
    (finite : ∀ given ∈ set.reward, given.isFinite = true) :
    ∃ value, set.toValue = .ok value ∧
      Catalogue.Recognizes "instructions" value.schema ∧
      ofValue value = .ok set := by
  have made := Value.ofMembers_of_kept set.accepts_toJson set.normalize_toJson
  have recognized :
      Catalogue.Recognizes "instructions" Catalogue.instructions := by decide
  refine ⟨⟨Catalogue.instructions, set.toMembers⟩, ?_, recognized, ?_⟩
  · exact mapError_eq_ok_iff.mpr made
  · exact mapError_eq_ok_iff.mpr (decode_toJson finite)

end Instructions

namespace Catalogue

/-- Every value recognized as a prediction or an instruction set is one, with
the inputs and outputs or the lines that the value has, and every record
whose reward is absent or finite makes a recognized value from which the same
record is read. -/
theorem recognition_agrees_with_decoding :
    (∀ value : Value, value.Built -> Recognizes "prediction" value.schema ->
      ∃ prediction, Prediction.ofValue value = .ok prediction ∧
        value.field? "inputs" = some (.object prediction.inputs) ∧
        value.field? "outputs" = some (.object prediction.outputs)) ∧
      (∀ value : Value, value.Built -> Recognizes "instructions" value.schema ->
        ∃ set, Instructions.ofValue value = .ok set ∧
          value.field? "instructions" = some (.ofStrings set.instructions)) ∧
      (∀ prediction : Prediction,
        (∀ given ∈ prediction.reward, given.isFinite = true) ->
        ∃ value, prediction.toValue = .ok value ∧
          Recognizes "prediction" value.schema ∧
          Prediction.ofValue value = .ok prediction) ∧
      (∀ set : Instructions, (∀ given ∈ set.reward, given.isFinite = true) ->
        ∃ value, set.toValue = .ok value ∧
          Recognizes "instructions" value.schema ∧
          Instructions.ofValue value = .ok set) :=
  ⟨fun _ => Prediction.exists_ofValue_of_recognized,
    fun _ => Instructions.exists_ofValue_of_recognized,
    fun _ => Prediction.exists_toValue, fun _ => Instructions.exists_toValue⟩

/-- A prediction with a whole reward, answers from a choice, a label that may be
absent and a note. -/
def gradedPrediction : Schema where
  title := none
  fields :=
    [.voluntary "note" (.optional .string), .mandatory "reward" .integer,
      .mandatory "inputs" (.map .integer),
      .mandatory "outputs" (.map (.oneOfStrings ["no", "yes"])),
      .voluntary "label" (.oneOfStrings ["Graded"])]

/-- A graded prediction without a label. -/
def gradedData : Json :=
  .object
    [("inputs", .object [("count", .ofNat 3)]),
      ("outputs", .object [("odd", .string "yes")]), ("reward", .ofNat 1),
      ("note", .null)]

/-- Instructions from a choice of lines, with a label of their own and the
reward a number. -/
def chosenInstructions : Schema where
  title := none
  fields :=
    [(Field.voluntary "label" .string).withDefault (.string "Chosen"),
      .voluntary "reward" .integer,
      .mandatory "instructions" (.list (.oneOfStrings ["be brief", "be kind"]))]

/-- One chosen line. -/
def chosenData : Json :=
  .object [("instructions", .ofStrings ["be kind"])]

/-- A value from choices is the record that its schema makes it look like, and a
record with a reward survives the way through a value. -/
theorem recognition_agrees_with_decoding_of_choices :
    (∃ value prediction,
      Value.construct gradedPrediction gradedData = .ok value ∧
      Prediction.ofValue value = .ok prediction ∧
      value.field? "inputs" = some (.object prediction.inputs) ∧
      value.field? "outputs" = some (.object prediction.outputs)) ∧
      (∃ value set, Value.construct chosenInstructions chosenData = .ok value ∧
        Instructions.ofValue value = .ok set ∧
        value.field? "instructions" = some (.ofStrings set.instructions)) ∧
      (∃ value, (Prediction.unscored [] []).toValue = .ok value ∧
        Prediction.ofValue value = .ok (Prediction.unscored [] [])) ∧
      ∃ value,
        ((Instructions.ofLines ["be kind"]).withReward
          (.zero .double)).toValue = .ok value ∧
        Instructions.ofValue value =
          .ok ((Instructions.ofLines ["be kind"]).withReward
            (.zero .double)) := by
  obtain ⟨predictions, instructions, executions, sets⟩ :=
    recognition_agrees_with_decoding
  refine ⟨?_, ?_, ?_, ?_⟩
  · have formed : gradedPrediction.WellFormed := by
      simp [Schema.WellFormed, gradedPrediction, FieldType.WellFormed,
        FieldType.AllWellFormed, Field.mandatory, Field.voluntary,
        FieldType.oneOfStrings, Json.DistinctItems, Json.Distinct]
    have one : (Json.ofNat 1).Distinct := trivial
    have three : (Json.ofNat 3).Distinct := trivial
    have distinct : gradedData.Distinct := by
      simp [gradedData, Json.Distinct, Json.DistinctMembers, Members.Distinct,
        one, three]
    obtain ⟨members, made⟩ :
        ∃ members, Value.construct gradedPrediction gradedData =
          .ok ⟨gradedPrediction, members⟩ :=
      ⟨_, rfl⟩
    have recognized : Recognizes "prediction" gradedPrediction := by decide
    obtain ⟨prediction, decoded, inputs, outputs⟩ :=
      predictions ⟨gradedPrediction, members⟩
        (.construct formed distinct made) recognized
    exact ⟨_, prediction, made, decoded, inputs, outputs⟩
  · have formed : chosenInstructions.WellFormed := by
      simp [Schema.WellFormed, chosenInstructions, FieldType.WellFormed,
        FieldType.AllWellFormed, Field.mandatory, Field.voluntary,
        Field.withDefault, FieldType.oneOfStrings, FieldType.Accepts,
        Json.DistinctItems, Json.Distinct]
    have distinct : chosenData.Distinct := by
      simp [chosenData, Json.ofStrings, Json.Distinct, Json.DistinctMembers,
        Json.DistinctItems, Members.Distinct]
    obtain ⟨members, made⟩ :
        ∃ members, Value.construct chosenInstructions chosenData =
          .ok ⟨chosenInstructions, members⟩ :=
      ⟨_, rfl⟩
    have recognized : Recognizes "instructions" chosenInstructions := by decide
    obtain ⟨set, decoded, lines⟩ :=
      instructions ⟨chosenInstructions, members⟩
        (.construct formed distinct made) recognized
    exact ⟨_, set, made, decoded, lines⟩
  · obtain ⟨value, made, _, read⟩ :=
      executions (Prediction.unscored [] []) (by simp [Prediction.unscored])
    exact ⟨value, made, read⟩
  · obtain ⟨value, made, _, read⟩ :=
      sets ((Instructions.ofLines ["be kind"]).withReward (.zero .double))
        (by rintro _ ⟨⟩; rfl)
    exact ⟨value, made, read⟩

end Catalogue
end PromptTuning
