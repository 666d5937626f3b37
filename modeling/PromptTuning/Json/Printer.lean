import PromptTuning.Binary.Shortest
import PromptTuning.Json.Basic

/-!
# JSON text

Two forms of one value: compact, without any blank, and indented by two blanks a
level. Strings escape the quote, the backslash and the control characters below
the blank; every other character stands for itself.
-/

namespace PromptTuning

/-- The two-character escapes of control characters and the four-digit form of
the others. -/
def escapeCharacter (character : Char) : String :=
  match character with
  | '"' => "\\\""
  | '\\' => "\\\\"
  | '\x08' => "\\b"
  | '\t' => "\\t"
  | '\n' => "\\n"
  | '\x0c' => "\\f"
  | '\r' => "\\r"
  | _ =>
      if character.toNat < 32 then
        let digits := Nat.toDigits 16 character.toNat
        "\\u" ++
          String.ofList (List.replicate (4 - digits.length) '0' ++ digits)
      else String.singleton character

/-- A string in quotes. -/
def quoted (text : String) : String :=
  "\"" ++ String.join (text.toList.map escapeCharacter) ++ "\""

namespace DecimalLayout

/-- Doubles in documents are positional for leading exponents from -5 to 15 and
never look whole. -/
def document : DecimalLayout where
  positional exponent := decide (-5 ≤ exponent) && decide (exponent ≤ 15)
  markWhole := true
  signExponent := true

end DecimalLayout

namespace Number

/-- The text of a number. -/
def render : Number -> String
  | .integer value _ => toString value
  | .double value => DecimalLayout.document.renderFinite value

end Number

namespace Json

mutual

/-- The text of a value without blanks. -/
def compact : Json -> String
  | .null => "null"
  | .boolean true => "true"
  | .boolean false => "false"
  | .number value => value.render
  | .string value => quoted value
  | .array items => "[" ++ ",".intercalate (compactItems items) ++ "]"
  | .object members =>
      "\x7b" ++ ",".intercalate (compactMembers members) ++ "\x7d"

/-- The texts of array items. -/
def compactItems : List Json -> List String
  | [] => []
  | item :: rest => item.compact :: compactItems rest

/-- The texts of object members. -/
def compactMembers : Members -> List String
  | [] => []
  | (key, value) :: rest =>
      (quoted key ++ ":" ++ value.compact) :: compactMembers rest

end

/-- A bracketed list of parts, one a line, indented one level deeper than
the brackets. -/
def indentedBlock (opening closing : String) (level : Nat)
    (parts : List String) : String :=
  if parts.isEmpty then opening ++ closing
  else
    let inner := "\n" ++ String.ofList (List.replicate (2 * (level + 1)) ' ')
    let outer := "\n" ++ String.ofList (List.replicate (2 * level) ' ')
    opening ++ inner ++ ("," ++ inner).intercalate parts ++ outer ++ closing

mutual

/-- The text of a value with two blanks a level, at a given level. -/
def indented (level : Nat) : Json -> String
  | .null => "null"
  | .boolean true => "true"
  | .boolean false => "false"
  | .number value => value.render
  | .string value => quoted value
  | .array items =>
      indentedBlock "[" "]" level (indentedItems (level + 1) items)
  | .object members =>
      indentedBlock "\x7b" "\x7d" level (indentedMembers (level + 1) members)

/-- The texts of array items at a given level. -/
def indentedItems (level : Nat) : List Json -> List String
  | [] => []
  | item :: rest => item.indented level :: indentedItems level rest

/-- The texts of object members at a given level. -/
def indentedMembers (level : Nat) : Members -> List String
  | [] => []
  | (key, value) :: rest =>
      (quoted key ++ ": " ++ value.indented level) :: indentedMembers level rest

end

/-- The text of a value with two blanks a level. -/
def pretty (value : Json) : String :=
  value.indented 0

end Json

end PromptTuning
