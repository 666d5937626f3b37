import PromptTuning.Template.Tag
import PromptTuning.Text.Blank

/-!
# Pieces and blanks

A source is a sequence of texts and tags. A backslash before a tag takes its
meaning away. A tag marked on a side takes away all blanks there. A tag other
than one that prints, if it stands alone on its line, takes away the line: the
blanks before it and those after it with the line break. The inclusion of a
fragment keeps the blanks before it, which go before the further lines of the
fragment too.
-/

namespace PromptTuning
namespace Template

/-- What is known of the line up to some place in a source. -/
structure Line where
  /-- Whether there are only blanks. -/
  isBlank : Bool
  /-- The blanks directly before the place. -/
  blanks : List Char

/-- A text, or a tag with the blanks before it and whether it stands alone
on its line. -/
inductive Piece
  | text (characters : List Char)
  | tag (tag : Tag) (blanks : List Char) (isAlone : Bool)

namespace Piece

/-- Whether a character is a blank within a line. -/
def isInlineBlank (character : Char) : Bool :=
  character == ' ' || character == '\t'

/-- Whether a character ends a line. -/
def isLineEnd (character : Char) : Bool :=
  character == '\n' || character == '\r'

end Piece

namespace Line

/-- The start of a line. -/
def start : Line := ⟨true, []⟩

/-- The line one character further. -/
def step (line : Line) (character : Char) : Line :=
  if Piece.isInlineBlank character then
    { line with blanks := line.blanks ++ [character] }
  else ⟨Piece.isLineEnd character, []⟩

/-- The line at the place where a source has come down to a rest. -/
def pass (line : Line) (source rest : List Char) : Line :=
  (source.take (source.length - rest.length)).foldl step line

end Line

namespace Piece

/-- Whether the rest of the line is blank and the line ends. -/
def endsLine (rest : List Char) : Bool :=
  (rest.dropWhile isInlineBlank).head?.any isLineEnd

/-- A tag at a place in its line, with the source that follows it. -/
def placed (found : Tag) (line : Line) (rest : List Char) : Piece :=
  .tag found line.blanks (line.isBlank && endsLine rest)

/-- Whether a tag may start here. -/
def opensTag : List Char -> Bool
  | '{' :: '{' :: _ => true
  | _ => false

/-- Whether the tag that ends a block without tags may start here. -/
def endsVerbatim : List Char -> Bool
  | '{' :: '{' :: '{' :: '{' :: _ => true
  | _ => false

/--
The text before the place where it stops, and what is left, after a run of
backslashes. One backslash before braces makes them text; more than one before
them lose the first.
-/
def splitText (stops : List Char -> Bool) (run : Nat) :
    List Char -> List Char × List Char
  | [] => (List.replicate run '\\', [])
  | '\\' :: rest => splitText stops (run + 1) rest
  | '{' :: '{' :: rest =>
      if run = 1 then
        let more := if rest.take 2 = ['{', '{'] then 2 else 0
        let (plain, left) := splitText stops 0 (rest.drop more)
        ('{' :: '{' :: rest.take more ++ plain, left)
      else if stops ('{' :: '{' :: rest) then
        (List.replicate (run - 1) '\\', '{' :: '{' :: rest)
      else
        let (plain, left) := splitText stops 0 rest
        (List.replicate (run - 1) '\\' ++ '{' :: '{' :: plain, left)
  | character :: rest =>
      let (plain, left) := splitText stops 0 rest
      (List.replicate run '\\' ++ character :: plain, left)
termination_by source => source.length

/--
The pieces of a block in which no tags are recognized, and what is left: its
opening, its text without the blanks at the start, and its closing.
-/
def verbatim? (line : Line) (source : List Char) :
    Option (List Piece × List Char) := do
  let (opening, afterOpening) ← (Reading.verbatimOpening source).toOption
  let (plain, afterText) :=
    splitText endsVerbatim 0 (afterOpening.dropWhile Reading.isSpace)
  let (closing, rest) ← (Reading.verbatimClosing afterText).toOption
  return ([placed opening line afterOpening, .text plain,
    placed closing (line.pass source afterText) rest], rest)

/-- The pieces that a source starts with, and what is left. -/
def next? (isHelper : String -> Bool) (line : Line) (source : List Char) :
    Option (List Piece × List Char) :=
  match splitText opensTag 0 source with
  | ([], _) =>
      match Reading.tag isHelper source with
      | .ok (found, rest) => some ([placed found line rest], rest)
      | .error .unfit => verbatim? line source
      | .error .spoiled => none
  | (plain, rest) => some ([.text plain], rest)

/-- The pieces of a source; none if a tag does not fit. -/
def ofSource? (isHelper : String -> Bool) (line : Line) (source : List Char) :
    Option (List Piece) :=
  if source.isEmpty then some []
  else
    match next? isHelper line source with
    | none => none
    | some (pieces, rest) =>
        if rest.length < source.length then
          (ofSource? isHelper (line.pass source rest) rest).map (pieces ++ ·)
        else none
termination_by source.length

end Piece

/-- The pieces placed so far, latest first, and what the last tag asks of
the next text. -/
structure Spacing where
  placed : List Piece
  /-- Whether the blanks at the start of the next text are left out. -/
  omitsBlanks : Bool
  /-- Whether the rest of the line is left out. -/
  omitsLine : Bool

namespace Spacing

/-- A text without its blank first line. -/
def withoutLine (text : List Char) : List Char :=
  match text.dropWhile Piece.isInlineBlank with
  | '\r' :: '\n' :: rest => rest
  | '\n' :: rest => rest
  | rest => rest

/-- A text without the blanks at its end that belong to the line of
the next tag. -/
def withoutIndent (text : List Char) : List Char :=
  (text.reverse.dropWhile Piece.isInlineBlank).reverse

/-- Change the text placed last, if the last piece is a text. -/
def changeLast (change : List Char -> List Char) : List Piece -> List Piece
  | .text text :: rest => .text (change text) :: rest
  | placed => placed

/-- Whether a tag may take away its line. -/
def ownsLine : TagContent -> Bool
  | .print _ => false
  | _ => true

/-- Whether a tag that takes away its line takes away the blanks
before it too. -/
def ownsIndent : TagContent -> Bool
  | .print _ | .inclusion _ => false
  | _ => true

/-- Place one more piece. -/
def place (state : Spacing) : Piece -> Spacing
  | .text text =>
      if state.omitsBlanks && text.all Reading.isSpace then state
      else
        let kept :=
          if state.omitsBlanks then Text.trimStart text
          else if state.omitsLine then withoutLine text
          else text
        { state with placed := .text kept :: state.placed, omitsLine := false }
  | .tag tag blanks isAlone =>
      let trimmed := if tag.trimsBefore then
          changeLast Text.trimEnd state.placed else state.placed
      let kept :=
        if isAlone && ownsIndent tag.content then
          changeLast withoutIndent trimmed else trimmed
      { placed := .tag tag blanks isAlone :: kept
        omitsBlanks :=
          match tag.content with
          | .comment => state.omitsBlanks
          | _ => tag.trimsAfter
        omitsLine := if ownsLine tag.content then isAlone else state.omitsLine }

/-- Pieces with the blanks around tags left out as they ask. -/
def arrange (pieces : List Piece) : List Piece :=
  (pieces.foldl place ⟨[], false, false⟩).placed.reverse

end Spacing

end Template
end PromptTuning
