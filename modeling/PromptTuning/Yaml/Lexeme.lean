import PromptTuning.Yaml.Property
import PromptTuning.Yaml.Scalar

/-!
# Lexemes

A source is divided into lexemes: indicators, scalars, the properties of nodes,
and the places where block collections begin and end, which the indentation
says. A node is found to be a key only at the colon after it, so the place of
each node that can be one is kept until then; such a node is on one line and at
most 1024 bytes before its colon.
-/

namespace PromptTuning
namespace Yaml

/-- What a source is made of. -/
inductive Lexeme
  | directive (directive : Directive)
  | documentStart
  | documentEnd
  | blockSequenceStart
  | blockMappingStart
  | blockEnd
  | flowSequenceStart
  | flowSequenceEnd
  | flowMappingStart
  | flowMappingEnd
  | blockEntry
  | flowEntry
  | key
  | value
  | alias (name : String)
  | anchor (name : String)
  | tag (name : TagName)
  | scalar (style : ScalarStyle) (text : String)
  deriving DecidableEq

/-- The place of a node that can be a key. -/
structure KeyPlace where
  /-- Whether the node can be nothing else. -/
  required : Bool
  /-- The number of lexemes before it. -/
  number : Nat
  line : Nat
  column : Nat
  index : Nat

/-- What is known of the source up to some place. -/
structure Scan where
  /-- The lexemes found, latest first. -/
  found : List Lexeme
  /-- The columns of the open block collections, innermost first. -/
  columns : List Nat
  /-- Where the next colon can find its key. -/
  keyPlace : Option KeyPlace
  /-- The same around each open bracket, innermost first. -/
  outerPlaces : List (Option KeyPlace)
  /-- Whether a node here can be a key. -/
  keyAllowed : Bool

namespace Scan

/-- What is known at the start of a source. -/
def start : Scan := ⟨[], [], none, [], true⟩

/-- Whether a bracket is open. -/
def inFlow (scan : Scan) : Bool :=
  !scan.outerPlaces.isEmpty

/-- One more than the column of the innermost block collection, and zero
outside of all. -/
def indent (scan : Scan) : Nat :=
  scan.columns.head?.elim 0 (· + 1)

/-- Add a lexeme at the end. -/
def add (scan : Scan) (lexeme : Lexeme) : Scan :=
  { scan with found := lexeme :: scan.found }

/-- Add a lexeme after as many others as the number says. -/
def insert (scan : Scan) (number : Nat) (lexeme : Lexeme) : Scan :=
  let (later, earlier) := scan.found.splitAt (scan.found.length - number)
  { scan with found := later ++ lexeme :: earlier }

/-- Say whether a node can be a key from here on. -/
def allowKey (scan : Scan) (allowed : Bool) : Scan :=
  { scan with keyAllowed := allowed }

/-- Close the block collections that are deeper than a column, or all
without one. -/
def unroll (scan : Scan) (column : Option Nat) : Scan :=
  if scan.inFlow then scan
  else
    let isDeeper (other : Nat) : Bool := column.all (· < other)
    let (closed, columns) := scan.columns.span isDeeper
    { scan with
      found := closed.map (fun _ => Lexeme.blockEnd) ++ scan.found
      columns := columns }

/-- Open a block collection at a column, unless one is open there. -/
def roll (scan : Scan) (column number : Nat) (lexeme : Lexeme) : Scan :=
  if scan.inFlow || column < scan.indent then scan
  else { scan.insert number lexeme with columns := column :: scan.columns }

/-- Open a block collection at a column after all lexemes. -/
def rollHere (scan : Scan) (column : Nat) (lexeme : Lexeme) : Scan :=
  scan.roll column scan.found.length lexeme

/-- Give up the place of a key; a key that is required is missed. -/
def dropKey (scan : Scan) : Option Scan :=
  if scan.keyPlace.any (·.required) then none
  else some { scan with keyPlace := none }

/-- Keep the place of a node if it can be a key. -/
def keepKey (scan : Scan) (glyph : Glyph) : Option Scan :=
  if scan.keyAllowed then
    let required := !scan.inFlow && scan.columns.head? == some glyph.column
    let place :=
      ⟨required, scan.found.length, glyph.line, glyph.column, glyph.index⟩
    scan.dropKey.map fun scan => { scan with keyPlace := some place }
  else some scan

/-- Whether the place of a key is too far before a glyph. -/
def isStale (glyph : Glyph) (place : KeyPlace) : Bool :=
  place.line < glyph.line || place.index + 1024 < glyph.index

/-- Give up all places of keys that are too far before a glyph. -/
def refresh (scan : Scan) (glyph : Glyph) : Option Scan :=
  let stale (place : Option KeyPlace) : Bool := place.any (isStale glyph)
  let places := scan.keyPlace :: scan.outerPlaces
  if places.any fun place => stale place && place.any (·.required) then none
  else
    let renew (place : Option KeyPlace) : Option KeyPlace :=
      if stale place then none else place
    some { scan with
      keyPlace := renew scan.keyPlace
      outerPlaces := scan.outerPlaces.map renew }

/-- End all block collections. -/
def close (scan : Scan) : Option Scan :=
  (scan.unroll none).dropKey

/-- Add a lexeme that stands between documents. -/
def addBoundary (scan : Scan) (lexeme : Lexeme) : Option Scan :=
  scan.close.map fun scan => (scan.allowKey false).add lexeme

/-- Open a bracket. -/
def openFlow (scan : Scan) (glyph : Glyph) (lexeme : Lexeme) : Option Scan :=
  (scan.keepKey glyph).map fun scan =>
    { scan with
      found := lexeme :: scan.found
      keyPlace := none
      outerPlaces := scan.keyPlace :: scan.outerPlaces
      keyAllowed := true }

/-- Close a bracket. -/
def closeFlow (scan : Scan) (lexeme : Lexeme) : Option Scan :=
  scan.dropKey.map fun scan =>
    let scan :=
      match scan.outerPlaces with
      | [] => scan
      | place :: places =>
          { scan with keyPlace := place, outerPlaces := places }
    (scan.allowKey false).add lexeme

/-- Go on to the next item within brackets. -/
def addFlowEntry (scan : Scan) : Option Scan :=
  scan.dropKey.map fun scan => (scan.allowKey true).add .flowEntry

/-- Begin an item of a block sequence. -/
def addBlockEntry (scan : Scan) (glyph : Glyph) : Option Scan :=
  if scan.inFlow || scan.keyAllowed then
    (scan.rollHere glyph.column .blockSequenceStart).dropKey.map fun scan =>
      (scan.allowKey true).add .blockEntry
  else none

/-- Begin a key that is marked as one. -/
def addKey (scan : Scan) (glyph : Glyph) : Option Scan :=
  if scan.inFlow || scan.keyAllowed then
    (scan.rollHere glyph.column .blockMappingStart).dropKey.map fun scan =>
      (scan.allowKey !scan.inFlow).add .key
  else none

/-- Begin a value: the node before it, if it can be, is found to be its key. -/
def addValue (scan : Scan) (glyph : Glyph) : Option Scan :=
  match scan.keyPlace with
  | some place =>
      let scan := (scan.insert place.number .key).roll place.column place.number
        .blockMappingStart
      some { scan with
        found := .value :: scan.found, keyPlace := none, keyAllowed := false }
  | none =>
      if scan.inFlow || scan.keyAllowed then
        let scan := scan.rollHere glyph.column .blockMappingStart
        some ((scan.allowKey !scan.inFlow).add .value)
      else none

/-- Add a part of a node that may begin a key. -/
def addPart (scan : Scan) (glyph : Glyph) (lexeme : Lexeme) : Option Scan :=
  (scan.keepKey glyph).map fun scan => (scan.allowKey false).add lexeme

/-- Add a plain scalar; after a line break the next node can be a key. -/
def addPlain (scan : Scan) (glyph : Glyph) (text : String) (endsLine : Bool) :
    Option Scan :=
  (scan.addPart glyph (.scalar .plain text)).map fun scan =>
    scan.allowKey (endsLine || scan.keyAllowed)

/-- Add a block scalar. -/
def addBlockScalar (scan : Scan) (style : ScalarStyle) (text : String) :
    Option Scan :=
  scan.dropKey.map fun scan => (scan.allowKey true).add (.scalar style text)

/-- Whether a plain scalar can begin with a character. -/
def beginsPlain (inFlow : Bool) (character : Char) (rest : List Glyph) : Bool :=
  if character == '-' then true
  else if character == '?' || character == ':' then
      !inFlow && !Glyph.spaceAt rest 0
  else !(isBlank character ||
    ",[]\x7b\x7d#&*!|>\x27\x22%@\x60".contains character)

/-- Find the lexeme that begins with a glyph; answers what is left after it. -/
def next (scan : Scan) (glyph : Glyph) (rest : List Glyph) :
    Option (Scan × List Glyph) :=
  let glyphs := glyph :: rest
  let inFlow := scan.inFlow
  let indicates := inFlow || Glyph.spaceAt rest 0
  let alone (answer : Option Scan) : Option (Scan × List Glyph) :=
    answer.map (·, rest)
  if glyph.column == 0 && glyph.character == '%' then do
    let (directive, rest) ← Property.readDirective rest
    return (← scan.addBoundary (.directive directive), rest)
  else if Glyph.documentMark '-' glyphs then do
    return (← scan.addBoundary .documentStart, rest.drop 2)
  else if Glyph.documentMark '.' glyphs then do
    return (← scan.addBoundary .documentEnd, rest.drop 2)
  else
    match glyph.character with
    | '[' => alone (scan.openFlow glyph .flowSequenceStart)
    | '\x7b' => alone (scan.openFlow glyph .flowMappingStart)
    | ']' => alone (scan.closeFlow .flowSequenceEnd)
    | '\x7d' => alone (scan.closeFlow .flowMappingEnd)
    | ',' => alone scan.addFlowEntry
    | '*' => do
        let (name, rest) ← Property.readName rest
        return (← scan.addPart glyph (.alias name), rest)
    | '&' => do
        let (name, rest) ← Property.readName rest
        return (← scan.addPart glyph (.anchor name), rest)
    | '!' => do
        let (tag, rest) ← Property.readTag inFlow glyphs
        return (← scan.addPart glyph (.tag tag), rest)
    | '\x27' => do
        let (text, rest) ← Scalar.readSingleQuoted ⟨[], []⟩ rest
        return (← scan.addPart glyph (.scalar .quoted text), rest)
    | '\x22' => do
        let (text, rest) ← Scalar.readDoubleQuoted .plain ⟨[], []⟩ rest
        return (← scan.addPart glyph (.scalar .quoted text), rest)
    | character =>
        if character == '-' && Glyph.spaceAt rest 0 then
          alone (scan.addBlockEntry glyph)
        else if character == '?' && indicates then alone (scan.addKey glyph)
        else if character == ':' && indicates then alone (scan.addValue glyph)
        else if character == '|' && !inFlow then do
          let (text, rest) ← Scalar.readBlock false scan.indent rest
          return (← scan.addBlockScalar .literal text, rest)
        else if character == '>' && !inFlow then do
          let (text, rest) ← Scalar.readBlock true scan.indent rest
          return (← scan.addBlockScalar .folded text, rest)
        else if beginsPlain inFlow character rest then do
          let (text, endsLine, rest) ←
            Scalar.readPlain inFlow scan.indent ⟨[], []⟩ glyphs
          return (← scan.addPlain glyph text endsLine, rest)
        else none

/--
Pass over blanks, comments and line breaks. Where a key can begin, a tab is not
a blank; after a line break outside of brackets a key can begin. A line may
start with a mark of the byte order, which takes a column.
-/
def skipSpace (inFlow keyAllowed inComment : Bool) :
    List Glyph -> Bool × List Glyph
  | [] => (keyAllowed, [])
  | glyph :: rest =>
      if glyph.isBreak then skipSpace inFlow (keyAllowed || !inFlow) false rest
      else if inComment then skipSpace inFlow keyAllowed true rest
      else if glyph.character == ' ' then skipSpace inFlow keyAllowed false rest
      else if glyph.character == '\t' && (inFlow || !keyAllowed) then
        skipSpace inFlow keyAllowed false rest
      else if glyph.character == '#' then skipSpace inFlow keyAllowed true rest
      else if glyph.character == byteOrderMark && glyph.column == 0 then
        skipSpace inFlow keyAllowed false rest
      else (keyAllowed, glyph :: rest)

/-- Find all lexemes from some place on. -/
def run (scan : Scan) (glyphs : List Glyph) : Option Scan :=
  let (allowed, ahead) := skipSpace scan.inFlow scan.keyAllowed false glyphs
  match ahead with
  | [] => scan.close
  | glyph :: rest =>
      let found := ((scan.allowKey allowed).refresh glyph).bind fun scan =>
        (scan.unroll (some glyph.column)).next glyph rest
      match found with
      | none => none
      | some (scan, left) =>
          if left.length < glyphs.length then scan.run left else none
termination_by glyphs.length

end Scan

namespace Lexeme

/-- The lexemes of a source, if it can be divided into lexemes. -/
def ofSource? (source : String) : Option (List Lexeme) :=
  ((Glyph.ofSource? source).bind Scan.start.run).map (·.found.reverse)

end Lexeme
end Yaml
end PromptTuning
