import PromptTuning.Json.Basic

/-!
# Templates

A template is a list of nodes: literal text, values to print, calls of helpers,
blocks, whose bodies are templates again, and fragments, which are defined in
one place and included in others. Values are found by paths into the data or
computed by helpers, given by literals, paths or further calls.
-/

namespace PromptTuning
namespace Template

/-- A path into the data. -/
structure Path where
  /-- Whether the path starts at the whole data. -/
  fromRoot : Bool
  /-- Whether the path names a variable of a loop. -/
  isLocal : Bool
  /-- How many scopes the path goes up. -/
  ups : Nat
  names : List String
  deriving DecidableEq

mutual

/-- A value to be computed. -/
inductive Term
  | literal (value : Json)
  | path (path : Path)
  | call (call : Call)

/-- A helper with its parameters and options. -/
structure Call where
  helper : String
  parameters : List Term
  options : List (String × Term)

end

/-- What names a fragment. -/
inductive FragmentName
  | written (name : String)
  | computed (call : Call)

namespace FragmentName

/-- The name as it is written, if it is. -/
def text? : FragmentName -> Option String
  | .written name => some name
  | .computed _ => none

end FragmentName

/-- The inclusion of a fragment, with a new value to stand at and values
to add to it. -/
structure Inclusion where
  name : FragmentName
  parameters : List Term
  options : List (String × Term)
  /-- The blanks that go before every further line of the fragment. -/
  indent : String

/-- A part of a template. -/
inductive Node
  | text (text : String)
  | print (path : Path)
  | call (call : Call)
  /-- A computed value to print, unless it is the name of a helper, which is
  called instead. -/
  | dispatch (call : Call)
  | block
      (call : Call)
      (parameters : List String)
      (body : List Node)
      (alternative : Option (List Node))
  /-- A decorator, which defines a fragment by its body. -/
  | decorator (call : Call) (body : Option (List Node))
  /-- A fragment, to which its own body is at hand and which that body replaces
  if undefined. -/
  | inclusion (head : Inclusion) (body : Option (List Node))

end Template

/-- A template. -/
structure Template where
  nodes : List Template.Node

end PromptTuning
