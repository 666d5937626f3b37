import PromptTuning.Json.Printer
import PromptTuning.Json.Reader

/-!
# The characters of indented text

The indented text of a JSON value, as the list of its characters. A reader sees
nothing else of a text, so what it makes of an indented value can be computed
from this list.
-/

namespace PromptTuning
namespace Json

/-- A bracketed list of parts, one a line, indented one level deeper than
the brackets. -/
def blockCharacters (opening closing : Char) (level : Nat)
    (parts : List (List Char)) :
    List Char :=
  if parts.isEmpty then [opening, closing]
  else
    let inner := '\n' :: List.replicate (2 * (level + 1)) ' '
    let outer := '\n' :: List.replicate (2 * level) ' '
    opening :: inner ++ (',' :: inner).intercalate parts ++ outer ++ [closing]

mutual

/-- The characters of a value with two blanks a level, at a given level. -/
def characters (level : Nat) : Json -> List Char
  | .null => "null".toList
  | .boolean true => "true".toList
  | .boolean false => "false".toList
  | .number value => value.render.toList
  | .string value => (quoted value).toList
  | .array items =>
      blockCharacters '[' ']' level (characterItems (level + 1) items)
  | .object members =>
      blockCharacters '\x7b' '\x7d' level (characterMembers (level + 1) members)

/-- The characters of array items at a given level. -/
def characterItems (level : Nat) : List Json -> List (List Char)
  | [] => []
  | item :: rest => item.characters level :: characterItems level rest

/-- The characters of object members at a given level. -/
def characterMembers (level : Nat) : Members -> List (List Char)
  | [] => []
  | (key, value) :: rest =>
      ((quoted key).toList ++ ':' :: ' ' :: value.characters level) ::
      characterMembers level rest

end

/-- The characters of an indented block are those of its parts with breaks
in between. -/
theorem toList_indentedBlock (opening closing : Char) (level : Nat)
    (parts : List String) :
    (indentedBlock (.singleton opening) (.singleton closing)
      level parts).toList =
      blockCharacters opening closing level (parts.map String.toList) := by
  unfold indentedBlock blockCharacters
  cases parts <;> simp

mutual

/-- The characters of an indented value are listed by its structure. -/
theorem toList_indented (level : Nat) (value : Json) :
    (value.indented level).toList = value.characters level := by
  cases value with
  | boolean value => cases value <;> rw [indented, characters]
  | array items =>
      rw [indented, characters, ← map_toList_indentedItems]
      exact toList_indentedBlock '[' ']' level _
  | object members =>
      rw [indented, characters, ← map_toList_indentedMembers]
      exact toList_indentedBlock '\x7b' '\x7d' level _
  | _ => rw [indented, characters]

/-- The characters of indented items are listed one by one. -/
theorem map_toList_indentedItems (level : Nat) (items : List Json) :
    (indentedItems level items).map String.toList =
      characterItems level items := by
  cases items with
  | nil => rw [indentedItems, characterItems, List.map_nil]
  | cons item rest =>
      rw [indentedItems, characterItems, List.map_cons,
        toList_indented level item, map_toList_indentedItems level rest]

/-- The characters of indented members are listed one by one. -/
theorem map_toList_indentedMembers (level : Nat) (members : Members) :
    (indentedMembers level members).map String.toList =
      characterMembers level members := by
  cases members with
  | nil => rw [indentedMembers, characterMembers, List.map_nil]
  | cons member rest =>
      obtain ⟨key, value⟩ := member
      rw [indentedMembers, characterMembers, List.map_cons,
        String.toList_append, String.toList_append, toList_indented level value,
        map_toList_indentedMembers level rest]
      simp

end

/-- The value that a list of characters denotes; none if they are not
well-formed. -/
def ofCharacters? (characters : List Char) : Option Json := do
  let tokens ← Token.lex? characters
  let final ← tokens.foldlM ReaderState.step? ⟨[], .value⟩
  match final.expectation with
  | .finished result => return result
  | _ => none

theorem read?_eq (text : String) : read? text = ofCharacters? text.toList := rfl

/-- The pretty form of a value is read from its characters. -/
theorem read?_pretty (value : Json) :
    read? value.pretty = ofCharacters? (value.characters 0) := by
  rw [read?_eq, pretty, toList_indented]

end Json
end PromptTuning
