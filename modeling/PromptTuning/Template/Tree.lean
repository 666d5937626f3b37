import PromptTuning.Template.Piece

/-!
# Reading templates

The pieces of a source are put together into nodes. Blocks that are open stand
on a stack, the innermost first; a closing tag has to name the block it closes.
A block opened by a chained tag is the alternative of the block before it and is
closed together with it.
-/

namespace PromptTuning
namespace Template

/-- The helpers that templates may call. -/
def helperNames : List String :=
  ["if", "unless", "each", "with", "lookup", "raw", "log", "eq", "ne", "gt",
    "gte", "lt", "lte", "and", "or", "not", "len"]

/-- What a block was opened for. -/
inductive BlockKind
  | helper (call : Call) (parameters : List String)
  /-- The alternative of the block below. -/
  | chained (call : Call) (parameters : List String)
  | verbatim (call : Call)
  | decorator (call : Call)
  | inclusion (head : Inclusion)

/-- A block that is not closed yet. -/
structure OpenBlock where
  kind : BlockKind
  /-- The nodes before the alternative, once that has begun. -/
  body : Option (List Node)
  /-- The nodes of the part that is being read, latest first. -/
  latest : List Node

namespace BlockKind

/-- Whether a block is closed together with the block below. -/
def isChained : BlockKind -> Bool
  | .chained .. => true
  | _ => false

/-- Whether a block may have an alternative. -/
def mayAlternate : BlockKind -> Bool
  | .helper .. | .chained .. => true
  | _ => false

/-- The name that closes a block, if one does. -/
def name? : BlockKind -> Option String
  | .helper call _ | .chained call _ | .verbatim call | .decorator call =>
      some call.helper
  | .inclusion head => head.name.text?

end BlockKind

namespace OpenBlock

/-- A block just opened. -/
def start (kind : BlockKind) : OpenBlock :=
  ⟨kind, none, []⟩

/-- The node of a block that is closed now. -/
def toNode (opened : OpenBlock) : Node :=
  let last := opened.latest.reverse
  match opened.kind, opened.body with
  | .helper call parameters, none | .chained call parameters, none =>
      .block call parameters last none
  | .helper call parameters, some body | .chained call parameters, some body =>
      .block call parameters body (some last)
  | .verbatim call, _ => .block call [] last none
  | .decorator call, _ => .decorator call (some last)
  | .inclusion head, _ => .inclusion head (some last)

end OpenBlock

/-- The blocks that are open, innermost first, and the nodes outside all of
them, latest first. -/
structure Building where
  opened : List OpenBlock
  outside : List Node

namespace Building

/-- Add a node to the innermost block. -/
def add (node : Node) : Building -> Building
  | ⟨[], outside⟩ => ⟨[], node :: outside⟩
  | ⟨innermost :: rest, outside⟩ =>
      ⟨{ innermost with latest := node :: innermost.latest } :: rest, outside⟩

/-- Open a block within the innermost one. -/
def enter (kind : BlockKind) (building : Building) : Building :=
  { building with opened := .start kind :: building.opened }

/-- Begin the alternative of the innermost block. -/
def alternate : Building -> Option Building
  | ⟨[], _⟩ => none
  | ⟨innermost :: rest, outside⟩ =>
      if innermost.kind.mayAlternate && innermost.body.isNone then
        some ⟨⟨innermost.kind, some innermost.latest.reverse, []⟩ :: rest,
          outside⟩
      else none

/-- Close the innermost block of its own, along with those chained to it. -/
def close (name : String) : List OpenBlock -> List Node -> Option Building
  | [], _ => none
  | innermost :: rest, outside =>
      if innermost.kind.isChained then
        match rest with
        | [] => none
        | next :: below =>
            close name
              ({ next with latest := innermost.toNode :: next.latest } :: below)
              outside
      else if innermost.kind.name? = some name then
          some (add innermost.toNode ⟨rest, outside⟩)
      else none
termination_by opened => opened.length

/-- Take one more piece. -/
def take (building : Building) : Piece -> Option Building
  | .text text => some (building.add (.text (String.ofList text)))
  | .tag tag blanks _ =>
      match tag.content with
      | .print node => some (building.add node)
      | .comment => some building
      | .verbatim call => some (building.enter (.verbatim call))
      | .opening call parameters =>
          some (building.enter (.helper call parameters))
      | .chaining call parameters =>
          building.alternate.map fun alternated =>
            alternated.enter (.chained call parameters)
      | .otherwise => building.alternate
      | .closing name => close name building.opened building.outside
      | .decorator call => some (building.add (.decorator call none))
      | .decoratorOpening call => some (building.enter (.decorator call))
      | .inclusion head =>
          let indent := if tag.trimsBefore then "" else String.ofList blanks
          some (building.add (.inclusion { head with indent } none))
      | .inclusionOpening head => some (building.enter (.inclusion head))

end Building

/-- Read a template; none if it is malformed. -/
def read? (source : String) : Option Template := do
  let pieces ← Piece.ofSource? helperNames.contains Line.start source.toList
  let building ← (Spacing.arrange pieces).foldlM Building.take ⟨[], []⟩
  if building.opened.isEmpty then return ⟨building.outside.reverse⟩ else none

end Template

end PromptTuning
