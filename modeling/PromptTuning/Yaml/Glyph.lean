/-!
# Characters in place

A source is read as characters that know their line and column. Line breaks are
normalized: a carriage return, a line feed, both in a row and a next-line
character are one line feed; the line and paragraph separators also break lines
but stand for themselves. A source with a character that is not printable cannot
be read.
-/

namespace PromptTuning
namespace Yaml

/-- A character and its place in the source. -/
structure Glyph where
  character : Char
  line : Nat
  column : Nat
  /-- The number of bytes before it. -/
  index : Nat

/-- Whether a character breaks a line. -/
def isBreak (character : Char) : Bool :=
  character == '\n' || character == '\r' || character == '\u0085' ||
    character == '\u2028' ||
    character == '\u2029'

/-- Whether a character is a blank within a line. -/
def isBlank (character : Char) : Bool :=
  character == ' ' || character == '\t'

/-- Whether a character may stand in a source. -/
def isPrintable (character : Char) : Bool :=
  let code := character.toNat
  code == 0x9 || code == 0xA || code == 0xD ||
    (0x20 ≤ code && code ≤ 0x7E) || code == 0x85 ||
    (0xA0 ≤ code && code ≤ 0xD7FF) || (0xE000 ≤ code && code ≤ 0xFFFD) ||
    0x10000 ≤ code

/-- The character that marks the order of bytes, which may stand
before a line. -/
def byteOrderMark : Char := '\ufeff'

namespace Glyph

/-- Whether a glyph is a blank. -/
def isBlank (glyph : Glyph) : Bool :=
  Yaml.isBlank glyph.character

/-- Whether a glyph breaks the line. -/
def isBreak (glyph : Glyph) : Bool :=
  Yaml.isBreak glyph.character

/-- Whether a glyph is a blank or breaks the line. -/
def isSpace (glyph : Glyph) : Bool :=
  glyph.isBlank || glyph.isBreak

/-- Put characters in place. -/
def place (line column index : Nat) : List Char -> List Glyph
  | [] => []
  | '\r' :: '\n' :: rest =>
      ⟨'\n', line, column, index⟩ :: place (line + 1) 0 (index + 2) rest
  | character :: rest =>
      let after := index + character.utf8Size
      if Yaml.isBreak character then
        let shown := if character == '\u2028' || character == '\u2029' then
            character else '\n'
        ⟨shown, line, column, index⟩ :: place (line + 1) 0 after rest
      else ⟨character, line, column, index⟩ ::
        place line (column + 1) after rest

/-- The glyphs of a source; none if it holds a character that is
not printable. -/
def ofSource? (source : String) : Option (List Glyph) :=
  if source.toList.all isPrintable then some (place 0 0 0 source.toList)
  else none

/-- The characters of glyphs. -/
def characters (glyphs : List Glyph) : List Char :=
  glyphs.map (·.character)

/-- The character at a distance. -/
def peek? (glyphs : List Glyph) (distance : Nat) : Option Char :=
  (glyphs[distance]?).map (·.character)

/-- Whether a blank, a line break or the end is at a distance. -/
def spaceAt (glyphs : List Glyph) (distance : Nat) : Bool :=
  (glyphs[distance]?).all isSpace

/-- Whether a mark that starts or ends a document is ahead, where it counts. -/
def documentMark (mark : Char) (glyphs : List Glyph) : Bool :=
  (glyphs.head?.any fun glyph => glyph.column == 0) &&
    characters (glyphs.take 3) == [mark, mark, mark] && spaceAt glyphs 3

/-- Whether a document starts or ends here. -/
def documentBoundary (glyphs : List Glyph) : Bool :=
  documentMark '-' glyphs || documentMark '.' glyphs

/-- Pass over blanks and a comment to the next line; anything else is
in the way. -/
def nextLine? (glyphs : List Glyph) : Option (List Glyph) :=
  let rest := glyphs.dropWhile isBlank
  let rest :=
    if peek? rest 0 == some '#' then rest.dropWhile (!·.isBreak) else rest
  match rest with
  | [] => some []
  | glyph :: rest => if glyph.isBreak then some rest else none

end Glyph
end Yaml
end PromptTuning
