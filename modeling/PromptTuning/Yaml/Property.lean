import PromptTuning.Json.Reader
import PromptTuning.Yaml.Glyph

/-!
# Names, tags and directives

A node may have an anchor, which names it, and a tag, which says what it is. A
tag is written out between angle brackets or shortened by a handle, which stands
for the start that a directive gives it. A tag consists of bytes, each a
character here, and ends before the first zero byte. Directives come before a
document; one gives the version of the language.
-/

namespace PromptTuning
namespace Yaml

/-- A tag as written: a handle, empty if there is none, and the bytes
that follow it. -/
structure TagName where
  handle : String
  suffix : String
  deriving DecidableEq

/-- What a directive says. -/
inductive Directive
  | version (major minor : Nat)
  /-- A handle and the start of the tags that it shortens. -/
  | shorthand (handle start : String)
  deriving DecidableEq

/-- Whether a character may stand in a name. -/
def isNameCharacter (character : Char) : Bool :=
  character.isAlphanum || character == '_' || character == '-'

/-- Whether a character may stand in a tag. -/
def isTagCharacter (character : Char) : Bool :=
  isNameCharacter character || ";/?:@&=+$.!~*\x27()".contains character

namespace Property

/-- Divide glyphs after those that stand in a name. -/
def splitName (glyphs : List Glyph) : List Char × List Glyph :=
  let (name, rest) := glyphs.span fun glyph => isNameCharacter glyph.character
  (Glyph.characters name, rest)

/-- Whether the name of a node ends before these glyphs. -/
def endsName (glyphs : List Glyph) : Bool :=
  Glyph.spaceAt glyphs 0 ||
    (Glyph.peek? glyphs 0).any fun character =>
      "?:,]\x7d%@\x60".contains character

/-- Read the name of an anchor or an alias, after its indicator. -/
def readName (glyphs : List Glyph) : Option (String × List Glyph) :=
  let (name, rest) := splitName glyphs
  if name.isEmpty || !endsName rest then none
    else some (String.ofList name, rest)

/-- How many octets follow the first one of a character, if it can
be the first. -/
def octetsAfter? (octet : Nat) : Option Nat :=
  if octet < 0x80 then some 0
  else if octet / 32 == 6 then some 1
  else if octet / 16 == 14 then some 2
  else if octet / 8 == 30 then some 3
  else none

/-- How many octets of a character are missing after one more. -/
def octetsLeft? (missing octet : Nat) : Option Nat :=
  match missing with
  | 0 => octetsAfter? octet
  | missing + 1 => if octet / 64 == 2 then some missing else none

/--
Read the characters of a tag, of which some are given by octets. Within angle
brackets commas and square brackets may stand too. The number of octets that are
missing for the character being read is given.
-/
def readTagText (isVerbatim : Bool) (missing : Nat) :
    List Glyph -> Option (List Char × List Glyph)
  | [] => if missing == 0 then some ([], []) else none
  | glyph :: rest =>
      if glyph.character == '%' then
        match rest with
        | high :: low :: rest => do
            let high ← Token.hexDigit? high.character
            let low ← Token.hexDigit? low.character
            let missing ← octetsLeft? missing (16 * high + low)
            let (text, rest) ← readTagText isVerbatim missing rest
            return (Char.ofNat (16 * high + low) :: text, rest)
        | _ => none
      else if missing != 0 then none
      else if isTagCharacter glyph.character ||
          (isVerbatim && ",[]".contains glyph.character) then do
        let (text, rest) ← readTagText isVerbatim 0 rest
        return (glyph.character :: text, rest)
      else some ([], glyph :: rest)

/-- Read the handle of a tag; in a directive it has to be a handle
for certain. -/
def readHandle (inDirective : Bool) :
    List Glyph -> Option (List Char × List Glyph)
  | [] => none
  | mark :: rest =>
      if mark.character != '!' then none
      else
        let (name, rest) := splitName rest
        if Glyph.peek? rest 0 == some '!' then
          some ('!' :: name ++ ['!'], rest.drop 1)
        else if inDirective && !name.isEmpty then none
        else some ('!' :: name, rest)

/-- The part of a tag before its first zero byte. -/
def tagPart (text : List Char) : String :=
  String.ofList (text.takeWhile (· != '\x00'))

/-- Read a tag that is written out, after the opening bracket. -/
def readVerbatimTag (glyphs : List Glyph) : Option (TagName × List Glyph) := do
  let (text, rest) ← readTagText true 0 glyphs
  if text.isEmpty || Glyph.peek? rest 0 != some '>' then none
  else return (⟨"", tagPart text⟩, rest.drop 1)

/-- Read a tag that may be shortened by a handle. -/
def readShortTag (glyphs : List Glyph) : Option (TagName × List Glyph) := do
  let (handle, rest) ← readHandle false glyphs
  let (text, rest) ← readTagText false 0 rest
  if 2 ≤ handle.length && handle.getLast? == some '!' then
    if text.isEmpty then none
      else return (⟨String.ofList handle, tagPart text⟩, rest)
  else
    let suffix := tagPart (handle.drop 1 ++ text)
    return (if suffix.isEmpty then ⟨"", "!"⟩ else ⟨"!", suffix⟩, rest)

/-- Read a tag. -/
def readTag (inFlow : Bool) (glyphs : List Glyph) :
    Option (TagName × List Glyph) := do
  let isVerbatim := Glyph.peek? glyphs 1 == some '<'
  let (tag, rest) ← if isVerbatim then readVerbatimTag (glyphs.drop 2)
    else readShortTag glyphs
  if Glyph.spaceAt rest 0 || (inFlow && Glyph.peek? rest 0 == some ',') then
    return (tag, rest)
  else none

/-- Read a number of up to nine digits. -/
def readDigits (glyphs : List Glyph) : Option (Nat × List Glyph) :=
  let (digits, rest) := glyphs.span fun glyph => glyph.character.isDigit
  if digits.isEmpty || 9 < digits.length then none
  else
    let value := (Glyph.characters digits).foldl
      (fun value digit => 10 * value + (digit.toNat - '0'.toNat)) 0
    some (value, rest)

/-- Read a version. -/
def readVersion (glyphs : List Glyph) : Option (Directive × List Glyph) := do
  let (major, rest) ← readDigits (glyphs.dropWhile Glyph.isBlank)
  if Glyph.peek? rest 0 != some '.' then none
  else
    let (minor, rest) ← readDigits (rest.drop 1)
    return (.version major minor, rest)

/-- Read a handle and what it stands for. -/
def readShorthand (glyphs : List Glyph) : Option (Directive × List Glyph) := do
  let (handle, rest) ← readHandle true (glyphs.dropWhile Glyph.isBlank)
  if !(rest.head?.any Glyph.isBlank) then none
  else
    let (start, rest) ← readTagText true 0 (rest.dropWhile Glyph.isBlank)
    if start.isEmpty || !Glyph.spaceAt rest 0 then none
    else return (.shorthand (String.ofList handle) (tagPart start), rest)

/-- Read a directive, after its indicator. -/
def readDirective (glyphs : List Glyph) : Option (Directive × List Glyph) := do
  let (name, rest) := splitName glyphs
  if !Glyph.spaceAt rest 0 then none
  else
    let (directive, rest) ←
      if name == "YAML".toList then readVersion rest
      else if name == "TAG".toList then readShorthand rest
      else none
    return (directive, ← Glyph.nextLine? rest)

end Property
end Yaml
end PromptTuning
