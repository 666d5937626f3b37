import Mathlib.Data.List.DropRight
import PromptTuning.LanguageModel.Chat
import PromptTuning.Proofs.Json.Characters
import PromptTuning.Proofs.Json.Equality

/-!
# Answers in prose

The document in a model's text begins with the first opening brace and ends with
the last closing one. Prose around a printed object that adds neither an earlier
opening brace nor a later closing one leaves exactly the object, whatever braces
it holds itself, and a text in which no closing brace follows an opening one
holds no document.
-/

namespace PromptTuning

theorem forall_bne_of_not_mem {character : Char} {prose : List Char}
    (absent : character ∉ prose) :
    ∀ other ∈ prose, (other != character) = true :=
  fun _ member => bne_iff_ne.mpr fun same => absent (same ▸ member)

/-- The part of a text from its first opening brace to its last closing one is
its document. -/
theorem extractObject?_of_outermost
    {text : String}
    {before middle after : List Char}
    (parts : text.toList = before ++ ('{' :: middle ++ '}' :: after))
    (first : '{' ∉ before)
    (last : '}' ∉ after) :
    extractObject? text = some (String.ofList ('{' :: middle ++ ['}'])) := by
  have lastReversed : '}' ∉ after.reverse := fun member =>
    last (List.mem_reverse.mp member)
  have started :
      text.toList.dropWhile (· != '{') = '{' :: middle ++ '}' :: after := by
    rw [parts, List.dropWhile_append_of_pos (forall_bne_of_not_mem first)]
    rfl
  have enclosed :
      (('{' :: middle ++ '}' :: after).reverse.dropWhile (· != '}')).reverse =
        '{' :: middle ++ ['}'] := by
    rw [List.reverse_append, List.reverse_cons, List.append_assoc,
      List.dropWhile_append_of_pos (forall_bne_of_not_mem lastReversed)]
    simp
  unfold extractObject?
  simp only [started, enclosed]
  rfl

/-- A text in which no closing brace follows an opening one holds
no document. -/
theorem extractObject?_eq_none
    {text : String}
    (unpaired : ∀ before middle after,
      text.toList ≠ before ++ ('{' :: middle ++ '}' :: after)) :
    extractObject? text = none := by
  -- What is left of the text from the first opening brace on has no closing
  -- brace.
  have unclosed : '}' ∉ text.toList.dropWhile (· != '{') := by
    by_cases opened : '{' ∈ text.toList
    · obtain ⟨before, rest, parts, first⟩ := List.eq_append_cons_of_mem opened
      rw [parts, List.dropWhile_append_of_pos (forall_bne_of_not_mem first)]
      intro closed
      obtain ⟨middle, after, rfl⟩ :
          ∃ middle after, rest = middle ++ '}' :: after :=
        List.append_of_mem (by simpa using closed)
      exact unpaired before middle after parts
    · rw [List.dropWhile_eq_nil_iff.mpr (forall_bne_of_not_mem opened)]
      exact List.not_mem_nil
  have nothing :
      (text.toList.dropWhile (· != '{')).rdropWhile (· != '}') = [] :=
    List.rdropWhile_eq_nil_iff.mpr (forall_bne_of_not_mem unclosed)
  rw [List.rdropWhile] at nothing
  simp only [extractObject?, nothing, List.isEmpty_nil, if_true]

namespace Json

/-- The text of an object in either form is enclosed in braces. -/
theorem toList_of_printed
    {members : Members}
    {printed : String}
    (form :
      printed = (object members).compact ∨ printed = (object members).pretty) :
    ∃ middle, printed.toList = '{' :: middle ++ ['}'] := by
  obtain rfl | rfl := form
  · rw [compact]
    exact ⟨_, by simp; rfl⟩
  · rw [pretty, toList_indented, characters, blockCharacters]
    split
    · exact ⟨[], rfl⟩
    · exact ⟨_, rfl⟩

end Json

/-- A printed object that is read back as it is counts as the answer, whatever
prose stands around it, as long as no opening brace comes before it and no
closing one after it: it makes the value that construction makes of it, or is
malformed for the reason that construction gives. A text in which no closing
brace follows an opening one is malformed. -/
theorem Schema.readAnswer_in_prose (schema : Schema) :
    (∀ (members : Members) (printed before after : String),
      (printed = (Json.object members).compact ∨
        printed = (Json.object members).pretty) ->
      Json.read? printed = some (.object members) ->
      '{' ∉ before.toList ->
      '}' ∉ after.toList ->
      schema.readAnswer (before ++ printed ++ after) =
        match Value.construct schema (.object members) with
        | .ok value => .ok value
        | .error violations =>
            .error (.malformed (ValueError.validation violations).message)) ∧
    ∀ text : String,
      (∀ before middle after,
        text.toList ≠ before ++ ('{' :: middle ++ '}' :: after)) ->
      schema.readAnswer text =
        .error (.malformed "output did not contain a JSON object") := by
  constructor
  · intro members printed before after form readBack first last
    obtain ⟨middle, enclosed⟩ := Json.toList_of_printed form
    have found :
        extractObject? (before ++ printed ++ after) = some printed := by
      have parts : (before ++ printed ++ after).toList =
          before.toList ++ ('{' :: middle ++ '}' :: after.toList) := by
        simp [enclosed]
      rw [extractObject?_of_outermost parts first last, ← enclosed,
        String.ofList_toList]
    simp only [readAnswer, found, readBack]
    cases Value.construct schema (.object members) <;> rfl
  · intro text unpaired
    simp only [readAnswer, extractObject?_eq_none unpaired]

/-- The fields of an answer: a text that is required, and details
of any kind. -/
def Schema.remarkExample : Schema where
  title := none
  fields :=
    [⟨"answer", .string, true, none, none⟩,
      ⟨"details", .map .any, false, none, none⟩]

/-- An object with braces in a text and with objects in it, in prose with braces
of its own. -/
theorem Schema.readAnswer_in_prose_of_remark :
    let members : Members :=
      [("answer", .string "a \x7d b \"\x7b\" c"),
        ("details", .object [("n", .object [])])]
    let before := "Sure 🙂 \x7d here:\n"
    let after := "\nThat is all 🙂 \x7b"
    Json.read? (Json.object members).pretty = some (.object members) ∧
      '{' ∉ before.toList ∧ '}' ∉ after.toList ∧
      Schema.remarkExample.readAnswer
        (before ++ (Json.object members).pretty ++ after) =
        .ok ⟨Schema.remarkExample, members⟩ := by
  intro members before after
  have readBack :
      Json.read? (Json.object members).pretty = some (.object members) := by
    rw [Json.read?_pretty]
    decide +kernel
  have first : '{' ∉ before.toList := by decide +kernel
  have last : '}' ∉ after.toList := by decide +kernel
  have read := Schema.remarkExample.readAnswer_in_prose.1 members _ before
    after (.inr rfl) readBack
    first last
  exact ⟨readBack, first, last, read.trans rfl⟩

end PromptTuning
