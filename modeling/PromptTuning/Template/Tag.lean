import PromptTuning.Json.Reader
import PromptTuning.Template.Basic

/-!
# Tags

A tag is what stands between double braces. It is read left to right, each
alternative being tried only if those before it do not fit. Blanks may stand
between the parts of a tag, but not within a path. A literal that has the form
of one but no value spoils the whole template.
-/

namespace PromptTuning
namespace Template

/-- Why a part of a source is not read. -/
inductive Misfit
  /-- Another part may stand here. -/
  | unfit
  /-- No part may stand here. -/
  | spoiled

instance : Alternative (Except Misfit) where
  failure := .error .unfit
  orElse
    | .error .unfit, other => other ()
    | outcome, _ => outcome

/-- A way to read a part of a source: what was read and what is left,
if it fits. -/
abbrev Reading := StateT (List Char) (Except Misfit)

namespace Reading

/-- Read one given character. -/
def expect (character : Char) : Reading Unit
  | first :: rest => if first = character then .ok ((), rest) else .error .unfit
  | [] => .error .unfit

/-- Read the given characters. -/
def expectAll : List Char -> Reading Unit
  | [] => pure ()
  | character :: rest => do
      expect character
      expectAll rest

/-- Read characters for as long as they satisfy a condition. -/
def takeWhile (condition : Char -> Bool) : Reading (List Char) := fun source =>
  .ok (source.takeWhile condition, source.dropWhile condition)

/-- Read characters that satisfy a condition, one at least. -/
def takeSome (condition : Char -> Bool) : Reading String := do
  match ← takeWhile condition with
  | [] => failure
  | characters => return String.ofList characters

/-- Whether a character may stand between the parts of a tag. -/
def isSpace (character : Char) : Bool :=
  character == ' ' || character == '\t' || character == '\n' ||
  character == '\r'

/-- Pass over blanks. -/
def spaces : Reading Unit := do
  let _ ← takeWhile isSpace

/-- Read a part if it fits; says whether it did. -/
def present (part : Reading Unit) : Reading Bool :=
  (do part; return true) <|> pure false

/-- Read a part if it fits. -/
def optional {α : Type} (part : Reading α) : Reading (Option α) :=
  (do return some (← part)) <|> pure none

/-- Read a part for as long as it fits, at most a given number of times. -/
def many {α : Type} (part : Reading α) : Nat -> Reading (List α)
  | 0 => pure []
  | count + 1 => (do
      let first ← part
      return first :: (← many part count)) <|> pure []

/-- Read a part for as long as it fits. -/
def all {α : Type} (part : Reading α) : Reading (List α) := fun source =>
  many part source.length source

/-- Fit only if a part does not. -/
def absent (part : Reading Unit) : Reading Unit := fun source =>
  match part source with
  | .ok _ => .error .unfit
  | .error _ => .ok ((), source)

/-- Whether a character may stand in a name. -/
def isNameCharacter (character : Char) : Bool :=
  character.isAlphanum || character == '_' || character == '-' ||
    character == '$' ||
    0x80 ≤ character.toNat

/-- Fit only where no name goes on. -/
def nameEnd : Reading Unit :=
  absent do
    let _ ← takeSome isNameCharacter

/-- Read a name. -/
def name : Reading String :=
  takeSome isNameCharacter

/-- Read what separates the names of a path. -/
def separator : Reading Unit :=
  expect '.' <|> expect '/'

/-- Read one name of a path, which may stand in brackets. -/
def segment : Reading String :=
  name <|> do
    expect '['
    let characters ← takeWhile (· != ']')
    expect ']'
    return String.ofList characters

/-- Read a path. The name of the current scope says nothing. -/
def path : Reading Path := do
  let _ ←
    present
      ((do expectAll ['t', 'h', 'i', 's']; separator) <|> expectAll ['.', '/'])
  let fromRoot ← present do expectAll ['@', 'r', 'o', 'o', 't']; separator
  let isLocal ← present (expect '@')
  let ups ← all do expectAll ['.', '.']; separator
  let first ← segment
  let others ← all do separator; segment
  return { fromRoot, isLocal, ups := ups.length,
           names := (first :: others).filter (· != "this") }

/-- Read a part and also answer the text that it covers. -/
def withText {α : Type} (part : Reading α) : Reading (α × List Char) :=
  fun source =>
    (part source).map fun (value, rest) =>
      ((value, source.take (source.length - rest.length)), rest)

/-- Read a word that no name goes on from. -/
def word (characters : List Char) : Reading Unit := do
  expectAll characters
  nameEnd

/-- Read digits, one at least. -/
def digits : Reading Unit := do
  let _ ← takeSome Char.isDigit

/-- Read what has the form of a number. -/
def numberForm : Reading Unit := do
  let _ ← present (expect '-')
  digits
  let _ ← present (expect '.')
  let _ ← takeWhile Char.isDigit
  let _ ← present do
    expect 'E'
    let _ ← present (expect '-')
    digits
  nameEnd

/-- Whether a character is a hexadecimal digit. -/
def isHexDigit (character : Char) : Bool :=
  (Token.hexDigit? character).isSome

/-- What follows the quote that closes a string. -/
def afterString? (quote : Char) : List Char -> Option (List Char)
  | [] => none
  | '\\' :: 'u' :: first :: second :: third :: fourth :: rest =>
      if [first, second, third, fourth].all isHexDigit then
        afterString? quote rest else none
  | '\\' :: character :: rest =>
      if character = quote ∨
        character ∈ ['\\', '/', 'b', 'f', 'n', 'r', 't'] then
        afterString? quote rest
      else none
  | character :: rest =>
      if character = quote then some rest
      else if character = '\\' then none
      else afterString? quote rest

/-- Read what has the form of a string in quotes of one kind. -/
def stringForm (quote : Char) : Reading Unit := do
  expect quote
  fun source =>
    match afterString? quote source with
    | none => .error .unfit
    | some rest => .ok ((), rest)

/-- Read parts between brackets, separated by commas. -/
def listForm (opening closing : Char) (item : Reading Unit) : Reading Unit := do
  expect opening
  spaces
  let _ ← present item
  let _ ← all do spaces; expect ','; spaces; item
  spaces
  expect closing

/-- Read what has the form of a literal; lists and objects are nested up to a
given depth. -/
def literalForm : Nat -> Reading Unit
  | 0 => failure
  | depth + 1 =>
      stringForm '\x22' <|> stringForm '\x27' <|>
        listForm '[' ']' (literalForm depth) <|>
        listForm '{' '}' (do
          stringForm '\x22' <|> stringForm '\x27'
          spaces
          expect ':'
          spaces
          literalForm depth) <|>
        numberForm <|> word ['n', 'u', 'l', 'l'] <|>
        word ['t', 'r', 'u', 'e'] <|>
        word ['f', 'a', 'l', 's', 'e']

/-- The body of a string in single quotes as it stands within double quotes. -/
def requoted : List Char -> List Char
  | [] => []
  | '\\' :: '\x27' :: rest => '\x27' :: requoted rest
  | '\x22' :: rest => '\\' :: '\x22' :: requoted rest
  | character :: rest => character :: requoted rest

/-- The document that a literal stands for. -/
def literalDocument : List Char -> List Char
  | '\x27' :: rest => '\x22' :: requoted rest.dropLast ++ ['\x22']
  | characters => characters

/-- Read a literal. -/
def literal : Reading Json := do
  let (_, text) ← withText fun source => literalForm (source.length + 1) source
  match Json.read? (String.ofList (literalDocument text)) with
  | some value => return value
  | none => throw Misfit.spoiled

/-- Fit only where no word with a meaning of its own stands. -/
def noKeyword : Reading Unit :=
  absent do
    expectAll ['a', 's'] <|> expectAll ['e', 'l', 's', 'e']
    spaces
    nameEnd

/-- Read the parameters and options of a call; of options of one name the
last counts. -/
def arguments (term : Reading Term) :
    Reading (List Term × List (String × Term)) := do
  let option : Reading (String × Term) := do
    let key ← name
    spaces
    expect '='
    spaces
    return (key, ← term)
  let items : List (Sum (String × Term) Term) ← all do
    spaces
    (Sum.inl <$> option) <|> (Sum.inr <$> term)
  let options := items.filterMap (·.getLeft?)
  return (items.filterMap (·.getRight?), options.foldl replace [])
where
  /-- Add an option in place of one of its name. -/
  replace (options : List (String × Term)) (option : String × Term) :
      List (String × Term) :=
    options.filter (·.1 != option.1) ++ [option]

/-- Read a call with one argument at least. -/
def call (term : Reading Term) : Reading Call := do
  let helper ← name
  let (parameters, options) ← arguments term
  if parameters.isEmpty && options.isEmpty then failure
  return ⟨helper, parameters, options⟩

/-- Read a call in parentheses, which may do without arguments. -/
def nestedCall (term : Reading Term) : Reading Call := do
  expect '('
  spaces
  let inner ←
    call term <|> do return ⟨String.ofList (← withText path).2, [], []⟩
  spaces
  expect ')'
  return inner

/-- Read a term; calls within terms are nested up to a given depth. -/
def term : Nat -> Reading Term
  | 0 => failure
  | depth + 1 => do
      noKeyword
      (Term.literal <$> literal) <|> (Term.path <$> path) <|>
        (Term.call <$> nestedCall (term depth))

/-- Read a term of any depth. -/
def anyTerm : Reading Term := fun source =>
  term (source.length + 1) source

/-- Read a helper with any arguments and the names that a block gives to
its values. -/
def blockHead : Reading (Call × List String) := do
  let helper ← name
  let (parameters, options) ← arguments anyTerm
  let names ← optional do
    spaces
    expectAll ['a', 's']
    spaces
    expect '|'
    spaces
    let first ← name
    spaces
    let second ← optional name
    spaces
    expect '|'
    return first :: second.toList
  return (⟨helper, parameters, options⟩, names.getD [])

/-- Read the name of a fragment, which may stand in single quotes and
keeps them. -/
def fragmentName : Reading String :=
  takeSome
    (fun character =>
      isNameCharacter character || character == '/' || character == '.') <|> do
    let (_, text) ← withText do
      expect '\x27'
      let body ← all do
        (do expectAll ['\\', '\x27']) <|> do
          let _ ← absent (expect '\x27')
          fun source =>
            match source with
            | [] => .error .unfit
            | _ :: rest => .ok ((), rest)
      if body.isEmpty then failure
      expect '\x27'
    return String.ofList text

/-- Read a fragment with any arguments. -/
def inclusion : Reading Inclusion := do
  let name ←
    (FragmentName.written <$> fragmentName) <|>
    (FragmentName.computed <$> nestedCall anyTerm) <|> do
      return .written (String.ofList (← withText path).2)
  let (parameters, options) ← arguments anyTerm
  return { name, parameters, options, indent := "" }

end Reading

/-- What a tag asks for. -/
inductive TagContent
  | print (node : Node)
  | opening (call : Call) (parameters : List String)
  | chaining (call : Call) (parameters : List String)
  | otherwise
  | closing (name : String)
  | comment
  /-- The start of a block in which no tags are recognized. -/
  | verbatim (call : Call)
  | decorator (call : Call)
  | decoratorOpening (call : Call)
  | inclusion (head : Inclusion)
  | inclusionOpening (head : Inclusion)

/-- A tag and whether it takes away the blanks around it. -/
structure Tag where
  content : TagContent
  trimsBefore : Bool
  trimsAfter : Bool

namespace Reading

/-- Read what is to be printed by its name: a value at a path, or a
computed one. -/
def printedName (isHelper : String -> Bool) : Reading Node :=
  (Node.dispatch <$> nestedCall anyTerm) <|> do
    let (path, characters) ← withText path
    let text := String.ofList characters
    return if isHelper text then .call ⟨text, [], []⟩ else .print path

/-- Read what is to be printed: a call, or a value by its name. -/
def printed (isHelper : String -> Bool) : Reading Node :=
  (Node.call <$> call anyTerm) <|> printedName isHelper

/-- Read a tag between opening and closing braces, with marks next to them. -/
def enclosed (opening closing : List Char) (content : Reading TagContent) :
    Reading Tag := do
  expectAll opening
  spaces
  let trimsBefore ← present (expect '~')
  spaces
  let content ← content
  spaces
  let trimsAfter ← present (expect '~')
  spaces
  expectAll closing
  return { content, trimsBefore, trimsAfter }

/-- Read the content of a tag that starts with a mark of its kind. -/
def marked (mark : List Char) (content : Reading TagContent) :
    Reading TagContent := do
  expectAll mark
  spaces
  content

/-- Read the content of a tag that begins the alternative of a block. -/
def alternative (content : Reading TagContent) : Reading TagContent :=
  do
    expectAll ['e', 'l', 's', 'e'] <|> expect '^'
    spaces
    content

/-- The contents that a tag between double braces may have, in the
order of trial. -/
def contents (isHelper : String -> Bool) : List (Reading TagContent) :=
  [alternative (pure .otherwise),
    alternative (do let (call, names) ← blockHead; return .chaining call names),
    TagContent.print <$> printed isHelper,
    marked ['&'] (TagContent.print <$> printedName isHelper),
    marked ['{'] (do
      let node ← printed isHelper
      spaces
      expect '}'
      return .print node),
    marked ['#'] (do let (call, names) ← blockHead; return .opening call names),
    marked ['#'] (marked ['*'] (do return .decoratorOpening (← blockHead).1)),
    marked ['#'] (marked ['>'] (TagContent.inclusionOpening <$> inclusion)),
    marked ['/'] (TagContent.closing <$> fragmentName),
    marked ['>'] (TagContent.inclusion <$> inclusion),
    marked ['*'] (do return .decorator (← blockHead).1)]

/-- Read a comment; one that starts with two dashes ends with two
dashes, if it can. -/
def comment : Reading Tag := do
  expectAll ['{', '{', '!']
  let _ ← (do spaces; expectAll ['-', '-']; upTo ['-', '-', '}', '}']) <|>
    upTo ['}', '}']
  return ⟨.comment, false, false⟩
where
  /-- Read up to and including given characters. -/
  upTo (ending : List Char) : Reading Unit
    | [] => .error .unfit
    | character :: rest =>
        match expectAll ending (character :: rest) with
        | .ok (_, after) => .ok ((), after)
        | .error _ => upTo ending rest

/-- Read a tag between double braces; one with a third brace may have its
marks inside. -/
def tag (isHelper : String -> Bool) : Reading Tag :=
  enclosed ['{', '{', '{'] ['}', '}', '}']
    (TagContent.print <$> printed isHelper) <|>
    (contents isHelper).foldr
      (fun content others => enclosed ['{', '{'] ['}', '}'] content <|> others)
      comment

/-- Read the tag that opens a block in which no tags are recognized. -/
def verbatimOpening : Reading Tag :=
  enclosed ['{', '{', '{', '{']
    ['}', '}', '}', '}'] do return .verbatim (← blockHead).1

/-- Read the tag that closes such a block. -/
def verbatimClosing : Reading Tag :=
  enclosed ['{', '{', '{', '{'] ['}', '}', '}', '}']
    (marked ['/'] (TagContent.closing <$> name))

end Reading

end Template
end PromptTuning
