import PromptTuning.Json.Numeral

/-!
# Reading JSON text

Reading takes two passes, each a fold. The first turns characters into tokens
and knows the escapes of strings; the second turns tokens into a value and keeps
the open arrays and objects on a stack. A repeated key keeps its first position
and takes its last value. Nesting is limited to 127 levels.
-/

namespace PromptTuning

/-- A token of JSON text. -/
inductive Token
  | openArray
  | closeArray
  | openObject
  | closeObject
  | comma
  | colon
  | text (value : String)
  | scalar (value : Json)

namespace Token

/-- What the characters read so far are part of; characters are kept
last first. -/
inductive Mode
  | between
  | word (read : List Char)
  | numeral (read : List Char)
  | text (read : List Char)
  | escape (read : List Char)
  | code (read : List Char) (missing : Nat) (value : Nat)
  | surrogate (read : List Char) (high : Nat)
  | surrogateEscape (read : List Char) (high : Nat)
  | surrogateCode (read : List Char) (high : Nat) (missing : Nat) (value : Nat)

/-- The value of a hexadecimal digit. -/
def hexDigit? (character : Char) : Option Nat :=
  if '0' ≤ character ∧ character ≤ '9' then some (character.toNat - '0'.toNat)
  else if 'a' ≤ character ∧ character ≤ 'f' then
      some (character.toNat - 'a'.toNat + 10)
  else if 'A' ≤ character ∧ character ≤ 'F' then
      some (character.toNat - 'A'.toNat + 10)
  else none

/-- The literal a word stands for. -/
def ofWord? (word : List Char) : Option Token :=
  if word = "null".toList then some (.scalar .null)
  else if word = "true".toList then some (.scalar (.boolean true))
  else if word = "false".toList then some (.scalar (.boolean false))
  else none

/-- The number a numeral stands for. -/
def ofNumeral? (text : List Char) : Option Token := do
  let numeral ← Numeral.ofText? text
  let value ← numeral.toNumber?
  return .scalar (.number value)

/-- Whether a character can be part of a numeral. -/
def isNumeralCharacter (character : Char) : Bool :=
  character.isDigit || "+-.eE".toList.contains character

/-- The mode and the token that a character leads to when it
continues nothing. -/
def start? (character : Char) : Option (Mode × List Token) :=
  match character with
  | ' ' | '\n' | '\t' | '\r' => some (.between, [])
  | '[' => some (.between, [.openArray])
  | ']' => some (.between, [.closeArray])
  | '{' => some (.between, [.openObject])
  | '}' => some (.between, [.closeObject])
  | ',' => some (.between, [.comma])
  | ':' => some (.between, [.colon])
  | '"' => some (.text [], [])
  | _ =>
      if character.isDigit || character == '-' then
        some (.numeral [character], [])
      else if character.isAlpha then some (.word [character], [])
      else none

/-- The mode after the last digit of an escaped code unit. -/
def finishCode? (read : List Char) (unit : Nat) : Option Mode :=
  if 0xD800 ≤ unit ∧ unit < 0xDC00 then some (.surrogate read unit)
  else if 0xDC00 ≤ unit ∧ unit < 0xE000 then none
  else some (.text (Char.ofNat unit :: read))

/-- The mode after the last digit of the second half of a surrogate pair. -/
def finishPair? (read : List Char) (high low : Nat) : Option Mode :=
  if 0xDC00 ≤ low ∧ low < 0xE000 then
    some (.text
      (Char.ofNat (0x10000 + (high - 0xD800) * 0x400 + (low - 0xDC00)) :: read))
  else none

/-- The mode after the character that follows a backslash. -/
def finishEscape? (read : List Char) (character : Char) : Option Mode :=
  match character with
  | '"' => some (.text ('"' :: read))
  | '\\' => some (.text ('\\' :: read))
  | '/' => some (.text ('/' :: read))
  | 'b' => some (.text ('\x08' :: read))
  | 'f' => some (.text ('\x0c' :: read))
  | 'n' => some (.text ('\n' :: read))
  | 'r' => some (.text ('\r' :: read))
  | 't' => some (.text ('\t' :: read))
  | 'u' => some (.code read 4 0)
  | _ => none

/-- One character further: the new mode and the tokens completed. -/
def step? (mode : Mode) (character : Char) : Option (Mode × List Token) :=
  match mode with
  | .between => start? character
  | .word read =>
      if character.isAlpha then some (.word (character :: read), [])
      else do
        let token ← ofWord? read.reverse
        let (next, tokens) ← start? character
        return (next, token :: tokens)
  | .numeral read =>
      if isNumeralCharacter character then
        some (.numeral (character :: read), [])
      else do
        let token ← ofNumeral? read.reverse
        let (next, tokens) ← start? character
        return (next, token :: tokens)
  | .text read =>
      if character = '"' then
        some (.between, [.text (String.ofList read.reverse)])
      else if character = '\\' then some (.escape read, [])
      else if character.toNat < 32 then none
      else some (.text (character :: read), [])
  | .escape read => (finishEscape? read character).map (·, [])
  | .code read missing value => do
      let digit ← hexDigit? character
      let unit := value * 16 + digit
      match missing with
      | 0 | 1 => (finishCode? read unit).map (·, [])
      | missing + 1 => return (.code read missing unit, [])
  | .surrogate read high =>
      if character = '\\' then some (.surrogateEscape read high, []) else none
  | .surrogateEscape read high =>
      if character = 'u' then some (.surrogateCode read high 4 0, []) else none
  | .surrogateCode read high missing value => do
      let digit ← hexDigit? character
      let unit := value * 16 + digit
      match missing with
      | 0 | 1 => (finishPair? read high unit).map (·, [])
      | missing + 1 => return (.surrogateCode read high missing unit, [])

/-- The mode a text has reached and the tokens completed so far, last first. -/
structure Progress where
  mode : Mode
  tokens : List Token

/-- One character further. -/
def Progress.step? (progress : Progress) (character : Char) : Option Progress :=
  (Token.step? progress.mode character).map fun (mode, tokens) =>
    ⟨mode, tokens.reverse ++ progress.tokens⟩

/-- All tokens, once the text has ended. -/
def Progress.finish? (progress : Progress) : Option (List Token) :=
  match progress.mode with
  | .between => some progress.tokens.reverse
  | .word read =>
      (ofWord? read.reverse).map fun token => (token :: progress.tokens).reverse
  | .numeral read =>
      (ofNumeral? read.reverse).map fun token =>
        (token :: progress.tokens).reverse
  | _ => none

/-- The tokens of a text. -/
def lex? (text : List Char) : Option (List Token) := do
  let progress ← text.foldlM Progress.step? ⟨.between, []⟩
  progress.finish?

end Token

namespace Json

/-- An array or object whose closing bracket is still to come; items are kept
last first. -/
inductive Frame
  | array (items : List Json)
  | object (members : Members) (key : String)

/-- What the next token has to be. -/
inductive Expectation
  | value
  | valueOrClose
  | key (members : Members)
  | keyOrClose
  | colon (members : Members) (key : String)
  | separator
  | finished (result : Json)

/-- The frames still open and what may follow. -/
structure ReaderState where
  frames : List Frame
  expectation : Expectation

namespace ReaderState

/-- The deepest nesting of arrays and objects that is read. -/
def depthLimit : Nat := 127

/-- The state after a complete value. -/
def deliver (frames : List Frame) (value : Json) : ReaderState :=
  match frames with
  | [] => ⟨[], .finished value⟩
  | .array items :: outer => ⟨.array (value :: items) :: outer, .separator⟩
  | .object members key :: outer =>
      ⟨.object (members.put key value) key :: outer, .separator⟩

/-- The state after a token that begins a value. -/
def begin? (frames : List Frame) : Token -> Option ReaderState
  | .text value => some (deliver frames (.string value))
  | .scalar value => some (deliver frames value)
  | .openArray =>
      if frames.length < depthLimit then
        some ⟨.array [] :: frames, .valueOrClose⟩ else none
  | .openObject =>
      if frames.length < depthLimit then
        some ⟨.object [] "" :: frames, .keyOrClose⟩ else none
  | _ => none

/-- One token further. -/
def step? (state : ReaderState) (token : Token) : Option ReaderState :=
  match state.expectation, token, state.frames with
  | .value, token, frames => begin? frames token
  | .valueOrClose, .closeArray, .array _ :: outer =>
      some (deliver outer (.array []))
  | .valueOrClose, token, frames => begin? frames token
  | .keyOrClose, .closeObject, .object _ _ :: outer =>
      some (deliver outer (.object []))
  | .keyOrClose, .text key, .object members _ :: outer =>
      some ⟨.object members key :: outer, .colon members key⟩
  | .key _, .text key, .object members _ :: outer =>
      some ⟨.object members key :: outer, .colon members key⟩
  | .colon _ _, .colon, frames => some ⟨frames, .value⟩
  | .separator, .comma, .array items :: outer =>
      some ⟨.array items :: outer, .value⟩
  | .separator, .comma, .object members key :: outer =>
      some ⟨.object members key :: outer, .key members⟩
  | .separator, .closeArray, .array items :: outer =>
      some (deliver outer (.array items.reverse))
  | .separator, .closeObject, .object members _ :: outer =>
      some (deliver outer (.object members))
  | _, _, _ => none

end ReaderState

/-- The value a JSON text denotes; none if the text is not well-formed. -/
def read? (text : String) : Option Json := do
  let tokens ← Token.lex? text.toList
  let final ← tokens.foldlM ReaderState.step? ⟨[], .value⟩
  match final.expectation with
  | .finished result => return result
  | _ => none

end Json

end PromptTuning
