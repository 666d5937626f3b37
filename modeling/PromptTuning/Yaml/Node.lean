import PromptTuning.Yaml.Lexeme

/-!
# Nodes

The lexemes of a source make a document: a tree of scalars, sequences, mappings
and aliases, which stand for nodes with anchors and may stand within these. What
is left out is an empty scalar, and so is the document of an empty source. A
source holds one document at most.

The name of an anchor stands for a number: when it is given to a node, for how
many names there are before. So the numbers of names can coincide if a name is
given to several nodes. An alias stands for the last node that has the number.
-/

namespace PromptTuning
namespace Yaml

/-- A part of a document. -/
inductive Node
  | scalar (tag : Option String) (style : ScalarStyle) (text : String)
  | sequence (tag : Option String) (items : List Node)
  | mapping (tag : Option String) (entries : List (Node × Node))
  /-- The last node that has the number. -/
  | alias (number : Nat)

/-- The anchors of a document. -/
structure Anchors where
  /-- What the names stand for. -/
  numbers : List (String × Nat)
  /-- The numbers of the nodes with anchors, in the reverse order of
  their starts. -/
  given : List Nat
  /-- The nodes with anchors that are complete, each with how many
  start before it. -/
  nodes : List (Nat × Node)

namespace Anchors

/-- No anchors. -/
def none : Anchors := ⟨[], [], []⟩

/-- Give a name to the node that starts here. -/
def give (anchors : Anchors) (name : String) : Anchors :=
  let number := anchors.numbers.length
  { anchors with
    numbers := (name, number) :: anchors.numbers.filter (·.1 != name)
    given := number :: anchors.given }

/-- Complete the node before which a given number of nodes with
anchors start. -/
def complete (anchors : Anchors) (before : Nat) (node : Node) : Anchors :=
  { anchors with nodes := (before, node) :: anchors.nodes }

/-- The last node that has a number. -/
def node? (anchors : Anchors) (number : Nat) : Option Node :=
  let earlier := anchors.given.dropWhile (· != number)
  anchors.nodes.lookup (earlier.length - 1)

end Anchors

/-- What has been read of a document. -/
structure Reading where
  /-- The lexemes to come. -/
  rest : List Lexeme
  anchors : Anchors
  /-- The starts that handles of tags stand for. -/
  shorthands : List (String × String)

namespace Reading

/-- The next lexeme. -/
def peek? (reading : Reading) : Option Lexeme :=
  reading.rest.head?

/-- Whether the next lexeme is among some. -/
def isAt (reading : Reading) (lexemes : List Lexeme) : Bool :=
  reading.peek?.any lexemes.contains

/-- Pass over the next lexeme. -/
def skip (reading : Reading) : Reading :=
  { reading with rest := reading.rest.drop 1 }

/-- Pass over a lexeme that has to be next. -/
def expect (reading : Reading) (lexeme : Lexeme) : Option Reading :=
  if reading.isAt [lexeme] then some reading.skip else none

/-- The tag that a name stands for. -/
def tag? (reading : Reading) (name : TagName) : Option String :=
  if name.handle.isEmpty then some name.suffix
  else (reading.shorthands.lookup name.handle).map (· ++ name.suffix)

/-- Start a node with its anchor, if it has one. -/
def startNode (reading : Reading) (anchor : Option String) : Reading :=
  match anchor with
  | none => reading
  | some name => { reading with anchors := reading.anchors.give name }

/-- Complete a node, given the reading before its start. -/
def completeNode (reading before : Reading) (anchor : Option String)
    (node : Node) : Reading :=
  match anchor with
  | none => reading
  | some _ =>
      { reading with
        anchors := reading.anchors.complete before.anchors.given.length node }

end Reading

/-- The properties of a node. -/
structure Properties where
  anchor : Option String
  tag : Option String

namespace Node

/-- A node that is left out. -/
def empty : Node := .scalar none .plain ""

/-- Read the properties of a node: an anchor and a tag in any order. -/
def readProperties (reading : Reading) : Option (Properties × Reading) :=
  match reading.rest with
  | .anchor name :: .tag tag :: rest | .tag tag :: .anchor name :: rest =>
      (reading.tag? tag).map fun tag =>
        (⟨some name, some tag⟩, { reading with rest := rest })
  | .anchor name :: rest =>
      some (⟨some name, none⟩, { reading with rest := rest })
  | .tag tag :: rest =>
      (reading.tag? tag).map fun tag =>
        (⟨none, some tag⟩, { reading with rest := rest })
  | _ => some (⟨none, none⟩, reading)

/-- Where a node may stand. -/
inductive Place
  /-- Within brackets. -/
  | flow
  /-- Where blocks may begin. -/
  | block
  /-- In a block mapping, where a sequence need not be indented. -/
  | entry
  deriving DecidableEq

/-- A block collection, or brackets, and the lexeme that ends it. -/
inductive Collection
  | blockSequence
  | bareSequence
  | blockMapping
  | flowSequence
  | flowMapping

/-- The collection that begins with the next lexeme, and whether the lexeme
is its own. -/
def Collection.at? (place : Place) : Option Lexeme -> Option (Collection × Bool)
  | some .blockEntry =>
      if place == .entry then some (.bareSequence, false) else none
  | some .flowSequenceStart => some (.flowSequence, true)
  | some .flowMappingStart => some (.flowMapping, true)
  | some .blockSequenceStart =>
      if place == .flow then none else some (.blockSequence, true)
  | some .blockMappingStart =>
      if place == .flow then none else some (.blockMapping, true)
  | _ => none

/-- Pass over the comma before an item within brackets, if the item is
not the first. -/
def skipComma (isFirst : Bool) (reading : Reading) : Option Reading :=
  if isFirst then some reading else reading.expect .flowEntry

mutual

/-- Read a node. -/
def read (fuel : Nat) (place : Place) (reading : Reading) :
    Option (Node × Reading) :=
  match fuel with
  | 0 => none
  | fuel + 1 =>
      match reading.peek? with
      | some (.alias name) =>
          (reading.anchors.numbers.lookup name).map fun number =>
            (.alias number, reading.skip)
      | _ => do
          let (properties, before) ← readProperties reading
          let started := before.startNode properties.anchor
          match before.peek?, Collection.at? place before.peek? with
          | _, some (collection, begins) =>
              let opened := if begins then started.skip else started
              let (node, reading) ←
                readCollection fuel collection properties.tag opened
              return (node, reading.completeNode before properties.anchor node)
          | some (.scalar style text), none =>
              let node := .scalar properties.tag style text
              return (node,
                started.skip.completeNode before properties.anchor node)
          | _, none =>
              if properties.anchor.isNone && properties.tag.isNone then none
              else
                let node := .scalar properties.tag .plain ""
                return (node,
                  started.completeNode before properties.anchor node)

/-- Read a node that is left out before some lexemes. -/
def readUnless (fuel : Nat) (place : Place) (ends : List Lexeme)
    (reading : Reading) :
    Option (Node × Reading) :=
  match fuel with
  | 0 => none
  | fuel + 1 =>
      if reading.isAt ends then some (empty, reading)
      else read fuel place reading

/-- Read a collection after its first lexeme. -/
def readCollection (fuel : Nat) (collection : Collection) (tag : Option String)
    (reading : Reading) : Option (Node × Reading) :=
  match fuel with
  | 0 => none
  | fuel + 1 =>
      match collection with
      | .blockSequence => do
          let (items, reading) ← readItems fuel [.blockEntry, .blockEnd] reading
          return (.sequence tag items, ← reading.expect .blockEnd)
      | .bareSequence => do
          let (items, reading) ←
            readItems fuel [.blockEntry, .key, .value, .blockEnd] reading
          return (.sequence tag items, reading)
      | .blockMapping => do
          let (entries, reading) ← readEntries fuel reading
          return (.mapping tag entries, ← reading.expect .blockEnd)
      | .flowSequence => do
          let (items, reading) ← readFlowItems fuel true reading
          return (.sequence tag items, ← reading.expect .flowSequenceEnd)
      | .flowMapping => do
          let (entries, reading) ← readFlowEntries fuel true reading
          return (.mapping tag entries, ← reading.expect .flowMappingEnd)

/-- Read the items of a block sequence; an item is left out before
some lexemes. -/
def readItems (fuel : Nat) (ends : List Lexeme) (reading : Reading) :
    Option (List Node × Reading) :=
  match fuel with
  | 0 => none
  | fuel + 1 =>
      if reading.isAt [.blockEntry] then do
        let (item, reading) ← readUnless fuel .block ends reading.skip
        let (items, reading) ← readItems fuel ends reading
        return (item :: items, reading)
      else some ([], reading)

/-- Read the entries of a block mapping. -/
def readEntries (fuel : Nat) (reading : Reading) :
    Option (List (Node × Node) × Reading) :=
  match fuel with
  | 0 => none
  | fuel + 1 =>
      if reading.isAt [.key] then do
        let ends := [.key, .value, .blockEnd]
        let (key, reading) ← readUnless fuel .entry ends reading.skip
        let (value, reading) ←
          if reading.isAt [.value] then readUnless fuel .entry ends reading.skip
          else some (empty, reading)
        let (entries, reading) ← readEntries fuel reading
        return ((key, value) :: entries, reading)
      else some ([], reading)

/-- Read the value of an entry within brackets, if a colon begins one. -/
def readFlowValue (fuel : Nat) (ends : List Lexeme) (reading : Reading) :
    Option (Node × Reading) :=
  match fuel with
  | 0 => none
  | fuel + 1 =>
      if reading.isAt [.value] then readUnless fuel .flow ends reading.skip
      else some (empty, reading)

/-- Read the items of a sequence in brackets; an entry stands for a mapping
of its own. -/
def readFlowItems (fuel : Nat) (isFirst : Bool) (reading : Reading) :
    Option (List Node × Reading) :=
  match fuel with
  | 0 => none
  | fuel + 1 =>
      if reading.isAt [.flowSequenceEnd] then some ([], reading)
      else do
        let reading ← skipComma isFirst reading
        if reading.isAt [.flowSequenceEnd] then some ([], reading)
        else
          let (item, reading) ←
            if reading.isAt [.key] then readPair fuel reading.skip
            else read fuel .flow reading
          let (items, reading) ← readFlowItems fuel false reading
          return (item :: items, reading)

/--
Read an entry of a sequence in brackets, after the mark of its key. If its key
is left out, so is its value, and the lexeme in place of the key is passed over.
-/
def readPair (fuel : Nat) (reading : Reading) : Option (Node × Reading) :=
  match fuel with
  | 0 => none
  | fuel + 1 => do
      let ends := [.flowEntry, .flowSequenceEnd]
      let (key, reading) ←
        if reading.isAt (.value :: ends) then some (empty, reading.skip)
        else read fuel .flow reading
      let (value, reading) ← readFlowValue fuel ends reading
      return (.mapping none [(key, value)], reading)

/-- Read the entries of a mapping in brackets. -/
def readFlowEntries (fuel : Nat) (isFirst : Bool) (reading : Reading) :
    Option (List (Node × Node) × Reading) :=
  match fuel with
  | 0 => none
  | fuel + 1 =>
      if reading.isAt [.flowMappingEnd] then some ([], reading)
      else do
        let reading ← skipComma isFirst reading
        if reading.isAt [.flowMappingEnd] then some ([], reading)
        else
          let ends := [.flowEntry, .flowMappingEnd]
          let (entry, reading) ←
            if reading.isAt [.key] then do
              let (key, reading) ←
                readUnless fuel .flow (.value :: ends) reading.skip
              let (value, reading) ← readFlowValue fuel ends reading
              pure ((key, value), reading)
            else do
              let (key, reading) ← read fuel .flow reading
              pure ((key, empty), reading)
          let (entries, reading) ← readFlowEntries fuel false reading
          return (entry :: entries, reading)

end

/-- The handles that need no directive. -/
def usualShorthands : List (String × String) :=
  [("!", "!"), ("!!", "tag:yaml.org,2002:")]

/-- Whether the version that a directive asks for is not at hand. -/
def isUnknownVersion : Directive -> Bool
  | .version major minor => major != 1 || (minor != 1 && minor != 2)
  | .shorthand _ _ => false

/-- The shorthands that directives give; none if two of them collide. -/
def shorthands? (directives : List Directive) :
    Option (List (String × String)) :=
  let given := directives.filterMap fun directive =>
    match directive with
    | .shorthand handle start => some (handle, start)
    | .version _ _ => none
  let versions := directives.filter fun directive =>
    match directive with
    | .version _ _ => true
    | .shorthand _ _ => false
  if versions.any isUnknownVersion || 1 < versions.length then none
  else if (given.map (·.1)).Nodup then some (given ++ usualShorthands)
  else none

/-- Divide lexemes after the directives that come first. -/
def splitDirectives : List Lexeme -> List Directive × List Lexeme
  | .directive directive :: rest =>
      let (directives, rest) := splitDirectives rest
      (directive :: directives, rest)
  | lexemes => ([], lexemes)

/-- Read the content of a document after its start. -/
def readContent (lexemes : List Lexeme) (shorthands : List (String × String)) :
    Option (Node × Reading) :=
  let reading : Reading := ⟨lexemes, .none, shorthands⟩
  match lexemes with
  | [] | .documentStart :: _ | .documentEnd :: _ | .directive _ :: _ =>
      some (empty, reading)
  | _ => read (4 * lexemes.length + 16) .block reading

/-- Read a document; directives have to be followed by the mark of its start. -/
def readDocument (lexemes : List Lexeme) : Option (Node × Reading) :=
  let (directives, rest) := splitDirectives lexemes
  (shorthands? directives).bind fun shorthands =>
    match directives, rest with
    | _, .documentStart :: rest => readContent rest shorthands
    | [], [] => readContent [] shorthands
    | [], rest => read (4 * rest.length + 16) .block ⟨rest, .none, shorthands⟩
    | _ :: _, _ => none

mutual

/-- How many marks make a node: one for a scalar or an alias, two around a
collection. -/
def size : Node -> Nat
  | .scalar _ _ _ | .alias _ => 1
  | .sequence _ items => 2 + sizeOfItems items
  | .mapping _ entries => 2 + sizeOfEntries entries

/-- How many marks make the items of a sequence. -/
def sizeOfItems : List Node -> Nat
  | [] => 0
  | item :: rest => item.size + sizeOfItems rest

/-- How many marks make the entries of a mapping. -/
def sizeOfEntries : List (Node × Node) -> Nat
  | [] => 0
  | (key, value) :: rest => key.size + value.size + sizeOfEntries rest

end

end Node

/-- A node with what the aliases in it stand for. -/
structure Document where
  root : Node
  anchors : Anchors

namespace Document

/-- The only document among lexemes. -/
def ofLexemes? (lexemes : List Lexeme) : Option Document :=
  (Node.readDocument lexemes).bind fun (root, reading) =>
    if reading.rest.all (· == .documentEnd) then some ⟨root, reading.anchors⟩
    else none

/-- The document of a source. -/
def ofSource? (source : String) : Option Document :=
  (Lexeme.ofSource? source).bind ofLexemes?

end Document
end Yaml
end PromptTuning
