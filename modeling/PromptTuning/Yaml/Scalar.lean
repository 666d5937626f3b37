import PromptTuning.Json.Reader
import PromptTuning.Yaml.Glyph

/-!
# Scalars as written

The text of a scalar is found from its written form. Line breaks within plain
and quoted scalars are folded: a single one is a blank and of several the first
is dropped. A block scalar keeps its breaks or folds them, without the
indentation of its lines; its header says what becomes of the breaks at its end.
-/

namespace PromptTuning
namespace Yaml

/-- How a scalar is written. -/
inductive ScalarStyle
  | plain
  | quoted
  | literal
  | folded
  deriving DecidableEq

namespace Scalar

/-- What blanks and line breaks between two parts of a scalar stand for. -/
def foldGap (gap : List Char) : List Char :=
  match gap.filter isBreak with
  | [] => gap
  | ['\n'] => [' ']
  | '\n' :: more => more
  | breaks => breaks

/-- A scalar read so far, latest first, with the gap after it, latest first. -/
structure Growing where
  text : List Char
  gap : List Char

namespace Growing

/-- Add a character after the gap. -/
def push (growing : Growing) (character : Char) : Growing :=
  ⟨character :: (foldGap growing.gap.reverse).reverse ++ growing.text, []⟩

/-- Make the gap part of the scalar. -/
def join (growing : Growing) : Growing :=
  ⟨(foldGap growing.gap.reverse).reverse ++ growing.text, []⟩

/-- Make the gap longer. -/
def widen (growing : Growing) (character : Char) : Growing :=
  { growing with gap := character :: growing.gap }

/-- The scalar without the gap. -/
def toText (growing : Growing) : String :=
  String.ofList growing.text.reverse

end Growing

/-- Whether a character has a meaning within brackets. -/
def isFlowMark (character : Char) : Bool :=
  character == ',' || character == '[' || character == ']' ||
  character == '{' || character == '}'

/--
Read a plain scalar. Answers the text, whether the gap after it breaks the line,
and what is left after the gap.
-/
def readPlain (inFlow : Bool) (indent : Nat) (growing : Growing) :
    List Glyph -> Option (String × Bool × List Glyph)
  | [] => some (growing.toText, growing.gap.any isBreak, [])
  | glyph :: rest =>
      let stop := some (growing.toText, growing.gap.any isBreak, glyph :: rest)
      if glyph.isSpace then
        if glyph.character == '\t' && growing.gap.any isBreak &&
          glyph.column < indent then none
        else readPlain inFlow indent (growing.widen glyph.character) rest
      else if !growing.gap.isEmpty &&
          (glyph.character == '#' || (!inFlow && glyph.column < indent)) then
          stop
      else if Glyph.documentBoundary (glyph :: rest) then stop
      else if inFlow && glyph.character == ':' &&
          (Glyph.peek? rest 0).any
            (fun next => isFlowMark next || next == '?') then none
      else if (glyph.character == ':' && Glyph.spaceAt rest 0) ||
          (inFlow && isFlowMark glyph.character) then stop
      else readPlain inFlow indent (growing.push glyph.character) rest

/-- Read the rest of a scalar in single quotes, after the opening quote. -/
def readSingleQuoted (growing : Growing) :
    List Glyph -> Option (String × List Glyph)
  | [] => none
  | [glyph] =>
      if glyph.character == '\x27' then some (growing.join.toText, []) else none
  | glyph :: next :: rest =>
      if Glyph.documentBoundary (glyph :: next :: rest) then none
      else if glyph.character == '\x27' then
        if next.character == '\x27' then
          readSingleQuoted (growing.push '\x27') rest
        else some (growing.join.toText, next :: rest)
      else if glyph.isSpace then
          readSingleQuoted (growing.widen glyph.character) (next :: rest)
      else readSingleQuoted (growing.push glyph.character) (next :: rest)

/-- What an escape of one character stands for. -/
def escapes : List (Char × Char) :=
  [('0', '\x00'), ('a', '\x07'), ('b', '\x08'), ('t', '\t'), ('\t', '\t'),
    ('n', '\n'), ('v', '\x0b'), ('f', '\x0c'), ('r', '\r'), ('e', '\x1b'),
    (' ', ' '), ('\x22', '\x22'), ('/', '/'), ('\\', '\\'), ('N', '\u0085'),
    ('_', '\u00a0'), ('L', '\u2028'), ('P', '\u2029')]

/-- The number of digits of an escape that gives a code point. -/
def codeLengths : List (Char × Nat) :=
  [('x', 2), ('u', 4), ('U', 8)]

/-- The character of a code point, if it is one. -/
def character? (code : Nat) : Option Char :=
  if h : code.isValidChar then some (Char.ofNatAux code h) else none

/-- What part of a double-quoted scalar is being read. -/
inductive QuotedMode
  | plain
  | escape
  /-- The digits of a code point still to come, and its value so far. -/
  | code (missing value : Nat)
  /-- After an escaped line break, blanks are dropped and breaks are kept. -/
  | continued

/-- Read the rest of a scalar in double quotes, after the opening quote. -/
def readDoubleQuoted (mode : QuotedMode) (growing : Growing) :
    List Glyph -> Option (String × List Glyph)
  | [] => none
  | glyph :: rest =>
      match mode with
      | .escape =>
          if glyph.isBreak then readDoubleQuoted .continued growing.join rest
          else
            match escapes.lookup glyph.character,
            codeLengths.lookup glyph.character with
            | some character, _ =>
                readDoubleQuoted .plain (growing.push character) rest
            | none, some length =>
                readDoubleQuoted (.code length 0) growing.join rest
            | none, none => none
      | .code missing value =>
          match Token.hexDigit? glyph.character with
          | none => none
          | some digit =>
              if missing ≤ 1 then
                match character? (16 * value + digit) with
                | none => none
                | some character =>
                    readDoubleQuoted .plain (growing.push character) rest
              else readDoubleQuoted (.code (missing - 1) (16 * value + digit))
                growing rest
      | .continued =>
          if glyph.isBreak then
            readDoubleQuoted .continued ⟨glyph.character :: growing.text, []⟩
              rest
          else if glyph.isBlank then readDoubleQuoted .continued growing rest
          else if Glyph.documentBoundary (glyph :: rest) then none
          else if glyph.character == '\x22' then some (growing.toText, rest)
          else if glyph.character == '\\' then
              readDoubleQuoted .escape growing rest
          else readDoubleQuoted .plain (growing.push glyph.character) rest
      | .plain =>
          if Glyph.documentBoundary (glyph :: rest) then none
          else if glyph.character == '\x22' then
              some (growing.join.toText, rest)
          else if glyph.character == '\\' then
              readDoubleQuoted .escape growing.join rest
          else if glyph.isSpace then
              readDoubleQuoted .plain (growing.widen glyph.character) rest
          else readDoubleQuoted .plain (growing.push glyph.character) rest

/-- What becomes of the line breaks at the end of a block scalar. -/
inductive Chomping
  | strip
  | clip
  | keep

/-- The header of a block scalar. -/
structure BlockHeader where
  chomping : Chomping
  /-- How much deeper than its surroundings the scalar is indented, if said. -/
  increment : Option Nat

/-- What a character of a header says of the breaks at the end. -/
def chomping? (character : Char) : Option Chomping :=
  if character == '-' then some .strip
  else if character == '+' then some .keep
  else none

/-- The depth that a character of a header says; zero is none. -/
def increment? (character : Char) : Option Nat :=
  if '1' ≤ character && character ≤ '9' then some (character.toNat - '0'.toNat)
  else none

/-- The header that the characters after the indicator make, and
what is left. -/
def readHeader (glyphs : List Glyph) : Option (BlockHeader × List Glyph) :=
  let first := (Glyph.peek? glyphs 0).getD ' '
  let second := (Glyph.peek? glyphs 1).getD ' '
  let header : Option (BlockHeader × Nat) :=
    match chomping? first, increment? first with
    | some chomping, _ =>
        if second.isDigit then
          (increment? second).map fun depth => (⟨chomping, some depth⟩, 2)
        else some (⟨chomping, none⟩, 1)
    | none, some depth =>
        match chomping? second with
        | some chomping => some (⟨chomping, some depth⟩, 2)
        | none => some (⟨.clip, some depth⟩, 1)
    | none, none =>
        if first == '0' then none else some (BlockHeader.mk .clip none, 0)
  header.bind fun (header, length) =>
    (Glyph.nextLine? (glyphs.drop length)).map fun rest => (header, rest)

/--
Pass over blank lines before the first line of a block scalar. Answers the
breaks, latest first, the largest indentation and what is left.
-/
def skipBlankLines (indent : Option Nat) (breaks : List Char) (deepest : Nat) :
    List Glyph -> Option (List Char × Nat × List Glyph)
  | [] => some (breaks, deepest, [])
  | glyph :: rest =>
      let isIndentation := indent.all fun indent => glyph.column < indent
      if isIndentation && glyph.character == ' ' then
        skipBlankLines indent breaks deepest rest
      else if isIndentation && glyph.character == '\t' then none
      else if glyph.isBreak then
        skipBlankLines indent (glyph.character :: breaks)
          (max deepest glyph.column) rest
      else some (breaks, max deepest glyph.column, glyph :: rest)

/-- The lines of a block scalar read so far; characters are kept
latest first. -/
structure Lines where
  text : List Char
  /-- The break at the end of the last line. -/
  ending : List Char
  /-- The breaks after that. -/
  breaks : List Char
  /-- Whether the last line starts with a blank. -/
  startedBlank : Bool

namespace Lines

/-- Begin a line with a character. -/
def begin (folds : Bool) (lines : Lines) (glyph : Glyph) : Lines :=
  let joined :=
    if folds && lines.ending == ['\n'] && !lines.startedBlank &&
      !glyph.isBlank then
      if lines.breaks.isEmpty then [' '] else []
    else lines.ending
  { text := glyph.character :: lines.breaks ++ joined ++ lines.text
    ending := []
    breaks := []
    startedBlank := glyph.isBlank }

/-- The text of the lines, with the breaks at the end that are kept. -/
def toText (chomping : Chomping) (lines : Lines) : String :=
  let kept := match chomping with
    | .strip => lines.text
    | .clip => lines.ending ++ lines.text
    | .keep => lines.breaks ++ lines.ending ++ lines.text
  String.ofList kept.reverse

end Lines

/-- Read the lines of a block scalar; answers them and what is left. -/
def readLines (folds : Bool) (indent : Nat) (inLine : Bool) (lines : Lines) :
    List Glyph -> Option (Lines × List Glyph)
  | [] => some (lines, [])
  | glyph :: rest =>
      if inLine then
        if glyph.isBreak then
          readLines folds indent false
            { lines with ending := [glyph.character] } rest
        else
          readLines folds indent true
            { lines with text := glyph.character :: lines.text } rest
      else if glyph.column < indent && glyph.character == ' ' then
        readLines folds indent false lines rest
      else if glyph.column < indent && glyph.character == '\t' then none
      else if glyph.isBreak then
        readLines folds indent false
          { lines with breaks := glyph.character :: lines.breaks } rest
      else if glyph.column == indent then
        readLines folds indent true (lines.begin folds glyph) rest
      else some (lines, glyph :: rest)

/--
Read a block scalar after its indicator, given the indentation of its
surroundings, which is one more than their column.
-/
def readBlock (folds : Bool) (surroundings : Nat) (glyphs : List Glyph) :
    Option (String × List Glyph) := do
  let (header, rest) ← readHeader glyphs
  let said := header.increment.map fun depth => (surroundings - 1) + depth
  let (breaks, deepest, rest) ← skipBlankLines said [] 0 rest
  let indent := said.getD (max deepest (max surroundings 1))
  let (lines, rest) ← readLines folds indent false ⟨[], [], breaks, false⟩ rest
  return (lines.toText header.chomping, rest)

end Scalar
end Yaml
end PromptTuning
