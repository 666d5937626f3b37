import PromptTuning.Proofs.Optimizer.Pool
import PromptTuning.Proofs.Variable.Rewards

/-!
# The documents of variables

A variable is written with all of its fields and read back as it was: every
record of it, whether its rewards are there or not, its phase, its version and
its date. A reward has to be finite for that, because any other has no number in
a document, and the text of the date has to denote the date.
-/

namespace PromptTuning

namespace FieldRule

variable {α : Type} {name : String} {decode : Decoder α} {value : Json}
  {content : α}

@[simp]
theorem name_required : (required name decode).name = name := rfl

@[simp]
theorem name_defaulted : (defaulted name decode).name = name := rfl

@[simp]
theorem absentInObject_required :
    (required name decode).absentInObject = false := rfl

@[simp]
theorem absentInObject_defaulted :
    (defaulted name decode).absentInObject = true := rfl

/-- A required field passes its check if its value can be decoded. -/
theorem check_required (decoded : decode value = .ok content) :
    (required name decode).check value = .ok () := by
  simp only [required, decoded]
  rfl

/-- A field with a default passes its check if its value can be decoded. -/
theorem check_defaulted (decoded : decode value = .ok content) :
    (defaulted name decode).check value = .ok () := by
  simp only [defaulted, decoded]
  rfl

end FieldRule

namespace Decoder

variable {α β : Type} {decode : Decoder α} {members : Members} {name : String}
  {value : Json}

theorem ok_bind {ε : Type} (content : α) (next : α -> Except ε β) :
    (Except.ok content >>= next) = next content := rfl

theorem string_text (text : String) : string (.string text) = .ok text := rfl

theorem map_object (members : Members) : map (.object members) = .ok members :=
  rfl

/-- An object is a record if every known member is in order and none
is missing. -/
theorem record_object
    (title : String)
    {rules : List FieldRule}
    (checked : ∀ member ∈ members,
      ∀ rule, rules.find? (·.name == member.1) = some rule ->
        rule.check member.2 = .ok ())
    (present : ∀ rule ∈ rules,
      rule.absentInObject = false -> members.has rule.name = true) :
    record title rules (.object members) = .ok members := by
  have inOrder :
      ∀ some : Members, some ⊆ members -> checkMembers rules some = .ok () := by
    intro some
    induction some with
    | nil => exact fun _ => rfl
    | cons member rest inductionHypothesis =>
        intro within
        obtain ⟨first, others⟩ := List.cons_subset.mp within
        obtain ⟨name, value⟩ := member
        cases known : rules.find? (·.name == name) with
        | none => simp only [checkMembers, known, inductionHypothesis others]
        | some rule =>
            simp only [checkMembers, known, checked _ first rule known,
              inductionHypothesis others]
  have complete : rules.find?
      (fun rule => !rule.absentInObject && !members.has rule.name) = none := by
    rw [List.find?_eq_none]
    intro rule listed missing
    simp only [Bool.and_eq_true, Bool.not_eq_true'] at missing
    rw [present rule listed missing.1] at missing
    simp at missing
  simp only [record, inOrder members (List.Subset.refl _), complete]
  rfl

/-- A required member that is there is decoded. -/
theorem required_of_lookup
    {content : α}
    (found : members.lookup name = some value)
    (decoded : decode value = .ok content) :
    required members name decode = .ok content := by
  simp only [required, found, decoded]

/-- A member with a default is decoded where it is there. -/
theorem defaulted_of_lookup
    {content default : α}
    (found : members.lookup name = some value)
    (decoded : decode value = .ok content) :
    defaulted members name decode default = .ok content := by
  simp only [defaulted, found, decoded]

/-- A nullable member is decoded where it is there. -/
theorem nullable_of_lookup
    {content : Option α}
    (found : members.lookup name = some value)
    (decoded : optional decode value = .ok content) :
    nullable members name decode = .ok content :=
  defaulted_of_lookup found decoded

/-- A list of documents is read item by item. -/
theorem list_array
    {encode : α -> Json}
    {items : List α}
    (each : ∀ item ∈ items, decode (encode item) = .ok item) :
    list decode (.array (items.map encode)) = .ok items := by
  simp only [list]
  induction items with
  | nil => rfl
  | cons item rest inductionHypothesis =>
      obtain ⟨first, others⟩ := List.forall_mem_cons.mp each
      rw [List.map_cons, List.mapM_cons, first, inductionHypothesis others]
      rfl

/-- An optional value other than null is decoded as a present one. -/
theorem optional_of_ne_null
    {content : α}
    (decoded : decode value = .ok content)
    (present : value ≠ .null) :
    optional decode value = .ok (some content) := by
  cases value with
  | null => contradiction
  | _ => simp [optional, decoded, Except.map]

/-- A reward that is not finite would be written as null and read as an
absent one. -/
theorem optional_double_ofReward
    {reward : Option Double}
    (finite : ∀ given ∈ reward, given.isFinite = true) :
    optional double (.ofReward reward) = .ok reward := by
  cases reward with
  | none => rfl
  | some given =>
      cases given with
      | finite value => rfl
      | nan => simpa [Binary.isFinite] using finite _ rfl
      | infinite negative => simpa [Binary.isFinite] using finite _ rfl

/-- A word is read back as it was written. -/
theorem word_ofWord (value : UInt64) :
    word (.number (.ofWord value)) = .ok value := by
  have bounds :
      0 ≤ (value.toNat : Int) ∧ (value.toNat : Int) < (UInt64.size : Nat) :=
    ⟨Int.natCast_nonneg _, Int.ofNat_lt.mpr value.toNat_lt_size⟩
  simp only [word, natural, Number.ofWord]
  rw [if_pos bounds]
  simp only [Except.map, Int.toNat_natCast, UInt64.ofNat_toNat]

end Decoder

/-- A phase is read back from its name. -/
theorem Phase.decode_name (phase : Phase) :
    decode (.string phase.name) = .ok phase := by
  cases phase <;> rfl

/-- A date whose text denotes it is read back from the text. -/
theorem Timestamp.decode_render
    {time : Timestamp}
    (denoted : ofText? time.render = some time) :
    decode (.string time.render) = .ok time := by
  simp only [decode, denoted]

namespace Prediction

/-- A prediction is read back as it was written if its reward is finite. -/
theorem decode_toJson
    {prediction : Prediction}
    (finite : ∀ given ∈ prediction.reward, given.isFinite = true) :
    decode prediction.toJson = .ok prediction := by
  have reward := Decoder.optional_double_ofReward finite
  have read :
      Decoder.record "struct Prediction" rules (.object prediction.toMembers) =
        .ok prediction.toMembers := by
    apply Decoder.record_object
    · simp [toMembers, rules,
        FieldRule.check_defaulted (Decoder.string_text prediction.label),
        FieldRule.check_required (Decoder.map_object prediction.inputs),
        FieldRule.check_required (Decoder.map_object prediction.outputs),
        FieldRule.check_defaulted reward]
    · simp [toMembers, rules, Members.has, List.lookup_cons]
  unfold decode toJson
  rw [read]
  simp [toMembers, Decoder.defaulted, Decoder.required, Decoder.nullable,
    List.lookup_cons, reward, Decoder.string_text, Decoder.map_object,
    Decoder.ok_bind, pure, Except.pure]

end Prediction

namespace Instructions

/-- An instruction set is read back as it was written if its
reward is finite. -/
theorem decode_toJson
    {instructions : Instructions}
    (finite : ∀ given ∈ instructions.reward, given.isFinite = true) :
    decode instructions.toJson = .ok instructions := by
  have reward := Decoder.optional_double_ofReward finite
  have lines :
      Decoder.list Decoder.string (.ofStrings instructions.instructions) =
        .ok instructions.instructions := Decoder.list_string_eq_ok_iff.mpr rfl
  have read :
      Decoder.record "struct Instructions" rules
        (.object instructions.toMembers) =
        .ok instructions.toMembers := by
    apply Decoder.record_object
    · simp [toMembers, rules,
        FieldRule.check_defaulted (Decoder.string_text instructions.label),
        FieldRule.check_required lines, FieldRule.check_defaulted reward]
    · simp [toMembers, rules, Members.has, List.lookup_cons]
  unfold decode toJson
  rw [read]
  simp [toMembers, Decoder.defaulted, Decoder.required, Decoder.nullable,
    List.lookup_cons, reward, lines, Decoder.string_text, Decoder.ok_bind, pure,
    Except.pure]

/-- Active instructions are read back, or their absence is. -/
theorem optional_decode_toJson
    {instructions : Option Instructions}
    (finite :
      ∀ set ∈ instructions, ∀ given ∈ set.reward, given.isFinite = true) :
    Decoder.optional decode (instructions.elim .null toJson) =
      .ok instructions := by
  cases instructions with
  | none => rfl
  | some set =>
      exact Decoder.optional_of_ne_null (decode_toJson (finite set rfl))
        (by simp [toJson])

end Instructions

namespace Variable

/-- The members of the JSON form. -/
def toMembers (entry : Variable) : Members :=
  [("key", .string entry.key),
    ("predictions", .array (entry.predictions.map Prediction.toJson)),
    ("instructions", entry.instructions.elim .null Instructions.toJson),
    ("instructions_candidates",
      .array (entry.candidates.map Instructions.toJson)),
    ("phase", .string entry.phase.name),
    ("version", .number (.ofWord entry.version)),
    ("updated_at", .string entry.updatedAt.render)]

theorem toJson_eq (entry : Variable) : entry.toJson = .object entry.toMembers :=
  rfl

variable {entry : Variable}

/-- The predictions of a variable are read back one by one. -/
theorem decode_predictions
    (finite : ∀ reward ∈ entry.rewards, reward.isFinite = true) :
    Decoder.list Prediction.decode
      (.array (entry.predictions.map Prediction.toJson)) =
      .ok entry.predictions :=
  Decoder.list_array fun _ listed => Prediction.decode_toJson fun given held =>
    finite given (mem_rewards_of_prediction listed held)

/-- The candidates of a variable are read back one by one. -/
theorem decode_candidates
    (finite : ∀ reward ∈ entry.rewards, reward.isFinite = true) :
    Decoder.list Instructions.decode
      (.array (entry.candidates.map Instructions.toJson)) =
      .ok entry.candidates :=
  Decoder.list_array fun _ listed =>
    Instructions.decode_toJson fun given held =>
      finite given (mem_rewards_of_candidate listed held)

/-- The active instructions of a variable are read back. -/
theorem decode_instructions
    (finite : ∀ reward ∈ entry.rewards, reward.isFinite = true) :
    Decoder.optional Instructions.decode
      (entry.instructions.elim .null Instructions.toJson) =
      .ok entry.instructions :=
  Instructions.optional_decode_toJson fun _ active given held =>
    finite given (mem_rewards_of_instructions active held)

/-- The members of a variable pass as a record of all its fields. -/
theorem record_toMembers
    (finite : ∀ reward ∈ entry.rewards, reward.isFinite = true)
    (denoted :
      Timestamp.ofText? entry.updatedAt.render = some entry.updatedAt) :
    Decoder.record "struct TrainableVariable" rules (.object entry.toMembers) =
      .ok entry.toMembers := by
  apply Decoder.record_object
  · simp [toMembers, rules,
      FieldRule.check_required (Decoder.string_text entry.key),
      FieldRule.check_defaulted (decode_predictions finite),
      FieldRule.check_defaulted (decode_instructions finite),
      FieldRule.check_defaulted (decode_candidates finite),
      FieldRule.check_defaulted (Phase.decode_name entry.phase),
      FieldRule.check_defaulted (Decoder.word_ofWord entry.version),
      FieldRule.check_required (Timestamp.decode_render denoted)]
  · simp [toMembers, rules, Members.has, List.lookup_cons]

/-- A variable is read back as it was written. -/
theorem decode_toJson
    (finite : ∀ reward ∈ entry.rewards, reward.isFinite = true)
    (denoted :
      Timestamp.ofText? entry.updatedAt.render = some entry.updatedAt) :
    decode entry.toJson = .ok entry := by
  have key :
      Decoder.required entry.toMembers "key" Decoder.string = .ok entry.key :=
    Decoder.required_of_lookup rfl (Decoder.string_text entry.key)
  have predictions : Decoder.defaulted entry.toMembers "predictions"
      (Decoder.list Prediction.decode) [] = .ok entry.predictions :=
    Decoder.defaulted_of_lookup rfl (decode_predictions finite)
  have instructions :
      Decoder.nullable entry.toMembers "instructions" Instructions.decode =
        .ok entry.instructions :=
    Decoder.nullable_of_lookup rfl (decode_instructions finite)
  have candidates : Decoder.defaulted entry.toMembers "instructions_candidates"
      (Decoder.list Instructions.decode) [] = .ok entry.candidates :=
    Decoder.defaulted_of_lookup rfl (decode_candidates finite)
  have phase : Decoder.defaulted entry.toMembers "phase" Phase.decode .unbuilt =
      .ok entry.phase :=
    Decoder.defaulted_of_lookup rfl (Phase.decode_name entry.phase)
  have version : Decoder.defaulted entry.toMembers "version" Decoder.word 0 =
      .ok entry.version :=
    Decoder.defaulted_of_lookup rfl (Decoder.word_ofWord entry.version)
  have updatedAt :
      Decoder.required entry.toMembers "updated_at" Timestamp.decode =
        .ok entry.updatedAt :=
    Decoder.required_of_lookup rfl (Timestamp.decode_render denoted)
  unfold decode
  rw [toJson_eq, record_toMembers finite denoted]
  simp only [Decoder.ok_bind, key, predictions, instructions, candidates, phase,
    version, updatedAt]
  rfl

end Variable

end PromptTuning
