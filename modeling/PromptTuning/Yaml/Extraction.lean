import PromptTuning.Json.Decode
import PromptTuning.Yaml.Resolution

/-!
# Values from documents

Typed values are taken out of nodes. What is asked for decides how a scalar is
taken: the text of any scalar is at hand, even of one that is written like a
number. An empty plain scalar is as good as a mapping or a sequence without
content. A mapping must not give a field twice, and entries that are not asked
for are passed over.

An alias is followed where a value is taken from it, and only there, so that a
node may stand within itself. How many are followed is limited by the size of
the document.
-/

namespace PromptTuning
namespace Yaml

/-- What takes values out of a document, given its anchors and how many aliases
it may follow. -/
abbrev Extraction := ReaderT Anchors (StateT Nat Option)

/-- A way to take a value out of a node. -/
abbrev Extractor (α : Type) := Node -> Extraction α

namespace Extractor

/-- The node that a node stands for: itself unless it is an alias. -/
def follow : Extractor Node
  | .alias number => do
      match ← get with
      | 0 => failure
      | count + 1 =>
          set count
          ((← read).node? number : Option Node)
  | node => pure node

/-- The text of a scalar. -/
def text : Extractor String := fun node => do
  match ← follow node with
  | .scalar _ _ text => return text
  | _ => failure

/-- The text of a scalar that may stand for a value of a kind: a plain or a
tagged literal one. -/
def bare (kind : String) : Extractor String := fun node => do
  match ← follow node with
  | .scalar tag style text =>
      if style == .plain ||
        (style == .literal && tag == some (Resolution.coreTag kind)) then
        return text
      else failure
  | _ => failure

/-- A truth value. -/
def truth : Extractor Bool := fun node => do
  Resolution.truth? (← bare "bool" node)

/-- A natural number below a bound, written without a minus. -/
def natural (bound : Nat) : Extractor Nat := fun node => do
  let text ← bare "int" node
  let value ← Resolution.integer? text
  if !text.startsWith "-" && value < bound then return value.toNat else failure

/-- A number of things, which 64 bits can hold. -/
def count : Extractor Nat := natural UInt64.size

/-- A 32-bit number. -/
def single : Extractor Single := fun node => do
  return (← Resolution.real? (← bare "float" node)).convert .single

/-- Whether a node is nothing, if that can be said. -/
def isNothing? : Node -> Option Bool
  | .scalar none .plain text => some (text.isEmpty || Resolution.isNull text)
  | .scalar (some tag) .plain text =>
      if tag == Resolution.coreTag "null" then
        if Resolution.isNull text then some true else none
      else some false
  | _ => some false

/-- A value or nothing. -/
def nullable {α : Type} (extract : Extractor α) :
    Extractor (Option α) := fun node => do
  let node ← follow node
  if ← isNothing? node then return none else return some (← extract node)

/-- The values of a sequence. -/
def list {α : Type} (extract : Extractor α) :
    Extractor (List α) := fun node => do
  match ← follow node with
  | .sequence _ items => items.mapM extract
  | .scalar _ style text =>
      if style == .plain && text.isEmpty then return [] else failure
  | _ => failure

/-- The fields of a mapping that are among the known ones. -/
def fields (known : List String) :
    Extractor (List (String × Node)) := fun node => do
  match ← follow node with
  | .mapping _ entries =>
      let named ← entries.mapM fun (key, value) => do return (← text key, value)
      let found := named.filter fun (name, _) => known.contains name
      if (found.map (·.1)).Nodup then return found else failure
  | .scalar _ style text =>
      if style == .plain && text.isEmpty then return [] else failure
  | _ => failure

/-- The value of a field that must be there. -/
def required {α : Type} (found : List (String × Node)) (name : String)
    (extract : Extractor α) :
    Extraction α := do
  extract (← found.lookup name)

/-- The value of a field, or a default where the field is not there. -/
def defaulted {α : Type} (found : List (String × Node)) (name : String)
    (extract : Extractor α)
    (default : α) : Extraction α :=
  (found.lookup name).elim (pure default) extract

/-- Any value, with collections nested no deeper than a limit. -/
def json (depth : Nat) : Extractor Json := fun node => do
  match ← follow node, depth with
  | .scalar tag style text, _ => Resolution.ofScalar? tag style text
  | .sequence tag items, depth + 1 =>
      if tag.any Resolution.isOwnTag then failure
      else return .array (← items.mapM (json depth))
  | .mapping tag entries, depth + 1 =>
      if tag.any Resolution.isOwnTag then failure
      else
        let members ← entries.mapM fun (key, value) => do
          return (← text key, ← json depth value)
        return .object
          (members.foldl
            (fun known (name, value) => Members.put name value known) [])
  | _, _ => failure

end Extractor

namespace Document

/-- How many aliases may be followed for each mark of a document. -/
def followsPerMark : Nat := 100

/-- Take a value out of a document. -/
def extract? {α : Type} (document : Document) (extract : Extractor α) :
    Option α :=
  ((extract document.root).run document.anchors).run'
    (followsPerMark * document.root.size)

end Document
end Yaml
end PromptTuning
