import PromptTuning.Proofs.Schema.Meet
import PromptTuning.Schema.Catalogue

/-!
# Recognition

A recognizer accepts the schemas that contain its reference schema. Containment
is transitive unless an enumeration of doubles takes the place of integers, and
no reference schema asks for an integer at any depth. So a schema keeps what it
is recognized as when it is narrowed, extended or composed with another.
-/

namespace PromptTuning

namespace FieldType

mutual

/-- Whether a type asks for an integer at some depth. -/
def asksInteger : FieldType -> Bool
  | .integer => true
  | .list item => item.asksInteger
  | .map value => value.asksInteger
  | .optional present => present.asksInteger
  | .object ⟨_, fields⟩ => anyAsksInteger fields
  | _ => false

/-- Whether the type of some field asks for an integer. -/
def anyAsksInteger : List Field -> Bool
  | [] => false
  | ⟨_, type, _, _, _⟩ :: rest => type.asksInteger || anyAsksInteger rest

end

theorem anyAsksInteger_eq_false_iff {fields : List Field} :
    anyAsksInteger fields = false ↔
    ∀ field ∈ fields, field.type.asksInteger = false := by
  induction fields with
  | nil => simp [anyAsksInteger]
  | cons field rest inductionHypothesis =>
      obtain ⟨name, type, required, default, description⟩ := field
      rw [anyAsksInteger, Bool.or_eq_false_iff, inductionHypothesis,
        List.forall_mem_cons]

/-- Where no integer is asked for, any choices may stand. -/
theorem integerChoices_of_asksInteger_eq_false
    {expected : Json -> Prop}
    (wide narrow : FieldType)
    (free : wide.asksInteger = false) :
    narrow.IntegerChoices expected wide := by
  induction wide generalizing narrow with
  | integer => contradiction
  | list wide inner =>
      rw [IntegerChoices]
      exact fun item _ => inner item free
  | map wide inner =>
      rw [IntegerChoices]
      exact fun value _ => inner value free
  | optional wide inner =>
      cases narrow with
      | optional present => exact inner present free
      | _ => exact inner _ free
  | object title wanted types =>
      rw [asksInteger, anyAsksInteger_eq_false_iff] at free
      rw [IntegerChoices]
      intro schema _
      rw [allIntegerChoices_iff]
      exact fun field declared found _ =>
        types field declared found.type (free field declared)
  | _ => trivial

end FieldType

namespace Schema

/-- Containment is transitive towards a schema that asks for no integer. -/
theorem contains_trans
    {schema between needle : Schema}
    (free : (FieldType.object needle).asksInteger = false)
    (outer : schema.contains between = true)
    (inner : between.contains needle = true) :
    schema.contains needle = true := by
  rw [contains_eq_isNarrowerThan] at outer inner ⊢
  exact FieldType.isNarrowerThan_trans (.object needle) (.object schema)
    (.object between) outer
    inner
    (FieldType.integerChoices_of_asksInteger_eq_false (.object needle)
      (.object schema) free)

end Schema

namespace Catalogue

/-- The recognizer of a name accepts a schema. -/
def Recognizes (name : String) (schema : Schema) : Prop :=
  (name, true) ∈ recognitions schema

instance (name : String) (schema : Schema) :
    Decidable (Recognizes name schema) :=
  inferInstanceAs (Decidable ((name, true) ∈ recognitions schema))

theorem recognizes_iff {name : String} {schema : Schema} :
    Recognizes name schema ↔
      ∃ reference,
        (name, reference) ∈ recognizers ∧ schema.contains reference = true := by
  simp [Recognizes, recognitions]

theorem nodup_recognizers : (recognizers.map (·.1)).Nodup := by
  decide

/-- The recognizer of a name looks for the one schema that is
listed under it. -/
theorem contains_of_recognizes
    {name : String}
    {reference schema : Schema}
    (listed : (name, reference) ∈ recognizers)
    (recognized : Recognizes name schema) :
    schema.contains reference = true := by
  obtain ⟨other, found, contains⟩ := recognizes_iff.mp recognized
  have same := List.inj_on_of_nodup_map nodup_recognizers found listed rfl
  exact (Prod.mk.inj same).2 ▸ contains

/-- No recognizer looks for an integer. -/
theorem asksInteger_reference :
    ∀ entry ∈ recognizers, (FieldType.object entry.2).asksInteger = false := by
  decide

/-- A schema that contains another is recognized as whatever the other is
recognized as. -/
theorem Recognizes.of_contains
    {name : String}
    {schema extended : Schema}
    (recognized : Recognizes name schema)
    (contains : extended.contains schema = true) :
    Recognizes name extended := by
  obtain ⟨reference, listed, accepted⟩ := recognizes_iff.mp recognized
  exact recognizes_iff.mpr ⟨reference, listed,
    Schema.contains_trans (asksInteger_reference (name, reference) listed)
      contains accepted⟩

/-- What is recognized of a schema is recognized of every schema that contains
it, and what is recognized of either part of a composition is recognized of the
composition. -/
theorem recognition_inherited (name : String) :
    (∀ schema extended : Schema, Recognizes name schema ->
      extended.contains schema = true ->
      Recognizes name extended) ∧
      ∀ left right both : Schema, left.Unambiguous -> right.Unambiguous ->
        left.compose right = .ok both ->
        Recognizes name left ∨ Recognizes name right ->
          Recognizes name both := by
  refine ⟨fun schema extended => Recognizes.of_contains, ?_⟩
  intro left right both leftUnambiguous rightUnambiguous done recognized
  obtain ⟨containsLeft, containsRight⟩ :=
    Schema.contains_parts_of_compose leftUnambiguous rightUnambiguous done
  cases recognized with
  | inl recognized => exact recognized.of_contains containsLeft
  | inr recognized => exact recognized.of_contains containsRight

/-- A message that only a user or an assistant can send. -/
def spokenMessage : Schema where
  title := none
  fields :=
    [.mandatory "content" .string,
      .mandatory "role" (.oneOfStrings ["user", "assistant"])]

/-- A message of a user, signed and with the length of its text. -/
def signedMessage : Schema where
  title := none
  fields :=
    [.mandatory "role" (.oneOfStrings ["user"]), .mandatory "content" .string,
      .voluntary "name" .string, .mandatory "length" .integer]

theorem recognition_inherited_of_spokenMessage :
    Recognizes "chat_message" spokenMessage ∧
      Recognizes "chat_message" signedMessage ∧
      ∃ both, spokenMessage.compose embedding = .ok both ∧
        Recognizes "chat_message" both ∧
        Recognizes "embedding" both := by
  have recognized : Recognizes "chat_message" spokenMessage := by decide
  obtain ⟨narrowed, message⟩ := recognition_inherited "chat_message"
  have spoken : spokenMessage.Unambiguous := by
    simp [Schema.Unambiguous, spokenMessage, Field.mandatory,
      FieldType.oneOfStrings, FieldType.Unambiguous, FieldType.AllUnambiguous,
      Json.DistinctItems, Json.Distinct]
  have embedded : embedding.Unambiguous := by
    simp [Schema.Unambiguous, embedding, titled, embeddingField, described,
      Field.mandatory, Field.withDescription, FieldType.Unambiguous,
      FieldType.AllUnambiguous]
  have done : spokenMessage.compose embedding =
      .ok ⟨embedding.title, spokenMessage.fields ++ embedding.fields⟩ := rfl
  refine ⟨recognized,
    narrowed spokenMessage signedMessage recognized (by decide),
    _, done, ?_, ?_⟩
  · exact message spokenMessage embedding _ spoken embedded done
      (.inl recognized)
  · exact (recognition_inherited "embedding").2 spokenMessage embedding _
      spoken embedded done
      (.inr (by decide))

end Catalogue
end PromptTuning
