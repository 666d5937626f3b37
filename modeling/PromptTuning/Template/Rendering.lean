import PromptTuning.Json.Printer
import PromptTuning.Template.Tree

/-!
# Rendering templates

A template is rendered against data within nested scopes. The outermost scope is
the data itself; each and with open further ones, in which paths start at a
place in the data, or at a value of their own if there is no such place. A value
that is missing prints nothing and counts as null. Rendering fails at an unknown
helper, at a helper with parameters it cannot take, at an array addressed by
something that is not an index, and at a fragment that is not defined.

Decorators define fragments while the text goes on. A fragment is rendered with
the definitions of the place of its inclusion; those that it adds itself are
lost at its end. Its lines after the first are indented as the inclusion is.
-/

namespace PromptTuning
namespace Template

/-- A value and, if it was found in the data, where. -/
structure Found where
  value : Json
  place : Option (List String)

namespace Found

/-- A value that does not stand in the data. -/
def derived (value : Json) : Found :=
  ⟨value, none⟩

/-- What is found where nothing is. -/
def missing : Found :=
  derived .null

end Found

/-- A scope: the place where its paths start, its loop variables and the
names it gives. -/
structure Scope where
  place : List String
  /-- The value where paths start, if it is not the one at the place. -/
  override : Option Json
  loopVariables : List (String × Json)
  /-- The names given to values; one without a value stands for the place. -/
  parameters : List (String × Option Json)

namespace Scope

/-- The scope of the whole data. -/
def root : Scope :=
  ⟨[], none, [], []⟩

/-- The scope of a value. -/
def ofFound (found : Found) : Scope :=
  match found.place with
  | some place => ⟨place, none, [], []⟩
  | none => ⟨[], some found.value, [], []⟩

end Scope

/-- The index that a name stands for. -/
def index? (name : String) : Option Nat :=
  let digits := match name.toList with
    | '+' :: rest => rest
    | characters => characters
  if digits.isEmpty || !digits.all Char.isDigit then none
  else
    let value := digits.foldl
      (fun total digit => 10 * total + (digit.toNat - '0'.toNat)) 0
    if value < UInt64.size then some value else none

/-- The part of a value that names lead to, if it is there; fails at an array
without an index. -/
def descend : Option Json -> List String -> Option (Option Json)
  | value, [] => some value
  | some (.array items), name :: rest =>
      match index? name with
      | none => none
      | some index => descend items[index]? rest
  | some (.object members), name :: rest => descend (members.lookup name) rest
  | _, _ :: rest => descend none rest

/-- What is found at a place in the data. -/
def foundAt (data : Json) (place : List String) : Option Found :=
  (descend (some data) place).map fun value? =>
    value?.elim .missing fun value => ⟨value, some place⟩

/-- What is found in a value of its own. -/
def foundIn (value : Json) (names : List String) : Option Found :=
  (descend (some value) names).map fun value? => .derived (value?.getD .null)

/-- What is found from a scope: from the value that it overrides its place with,
or its place. -/
def Scope.find (data : Json) (scope : Scope) (override : Option Json)
    (names : List String) :
    Option Found :=
  match override with
  | some value => foundIn value names
  | none => foundAt data (scope.place ++ names)

/-- The innermost scope that gives a name, with what the name stands for. -/
def parameter? (scopes : List Scope) (name : String) :
    Option (Scope × Option Json) :=
  scopes.findSome? fun scope =>
    (scope.parameters.lookup name).map fun value? => (scope, value?)

namespace Path

/-- The names of a path that are left when its first one is the name of a
block's value. -/
def namesAfterParameter (path : Path) : List String :=
  if path.ups = 0 then path.names.tail else path.names

/-- What is found at a path. -/
def resolve (data : Json) (scopes : List Scope) (path : Path) : Option Found :=
  if path.fromRoot then foundAt data path.names
  else
    let current := scopes.head?.getD .root
    match path.isLocal, path.names with
    | true, [] => current.find data current.override []
    | true, name :: _ =>
        some (((scopes[path.ups]?).bind fun scope =>
          scope.loopVariables.lookup name).elim
          .missing .derived)
    | false, names =>
        match names.head?.bind (parameter? scopes) with
        | some (scope, value?) =>
            scope.find data value? path.namesAfterParameter
        | none =>
            let scope := (scopes[path.ups]?).getD current
            scope.find data scope.override names

end Path

/-- Whether a value counts as true; zero does so on demand only. -/
def isTruthy (includeZero : Bool) : Json -> Bool
  | .null => false
  | .boolean value => value
  | .number value =>
      includeZero || (value.toDouble.finite?.any fun value =>
        Nat.pow 2 BinaryFormat.double.fractionBits ≤ value.rank)
  | .string value => !value.isEmpty
  | .array items => !items.isEmpty
  | .object members => !members.isEmpty

mutual

/-- The text of a value. -/
def print : Json -> String
  | .null => ""
  | .boolean value => if value then "true" else "false"
  | .number value => value.render
  | .string value => value
  | .array items => "[" ++ ", ".intercalate (printAll items) ++ "]"
  | .object _ => "[object]"

/-- The texts of several values. -/
def printAll : List Json -> List String
  | [] => []
  | item :: rest => print item :: printAll rest

end

/-- Whether the order of two values is one of those asked for; only 64-bit
integers are ordered. -/
def compareWith (holds : Ordering -> Bool) (left right : Json) :
    Option Json := do
  let left ← left.asInt?
  let right ← right.asInt?
  if left < Int.pow 2 63 ∧ right < Int.pow 2 63 then
    return .boolean (holds (compare left right)) else none

/-- The number of parts of a value. -/
def size : Json -> Nat
  | .array items => items.length
  | .object members => members.length
  | .string value => value.utf8ByteSize
  | _ => 0

/-- The part of a collection under an index or a key. -/
def lookup (collection key : Json) : Json :=
  match collection with
  | .array items => (key.asNat?.bind fun index => items[index]?).getD .null
  | .object members =>
      (key.asString?.bind fun name => members.lookup name).getD .null
  | _ => .null

/-- Whether a log may have a level; one that is not a text says nothing. -/
def isLogLevel (level : Json) : Bool :=
  level.asString?.all fun name =>
    ["error", "warn", "info", "debug", "trace"].contains (name.map Char.toLower)

/-- The result of a helper outside a block; fails at parameters it
cannot take. -/
def applyHelper (helper : String) (options : Members) (parameters : List Json) :
    Option Json :=
  match helper, parameters with
  | "if", _ :: _ | "unless", _ :: _ | "each", _ :: _ | "with", _ :: _ =>
      some (.string "")
  | "raw", _ => some (.string "")
  | "log", _ =>
      if (options.lookup "level").all isLogLevel then some (.string "")
      else none
  | "lookup", collection :: key :: _ => some (lookup collection key)
  | "eq", left :: right :: _ => some (.boolean (left.same right))
  | "ne", left :: right :: _ => some (.boolean (!left.same right))
  | "gt", left :: right :: _ => compareWith (· == .gt) left right
  | "gte", left :: right :: _ => compareWith (· != .lt) left right
  | "lt", left :: right :: _ => compareWith (· == .lt) left right
  | "lte", left :: right :: _ => compareWith (· != .gt) left right
  | "and", left :: right :: _ =>
      some (.boolean (isTruthy false left && isTruthy false right))
  | "or", left :: right :: _ =>
      some (.boolean (isTruthy false left || isTruthy false right))
  | "not", value :: _ => some (.boolean (!isTruthy false value))
  | "len", value :: _ => some (.ofNat (size value))
  | _, _ => none

mutual

/-- The value of a term. -/
def evaluate (data : Json) (scopes : List Scope) : Term -> Option Found
  | .literal value => some (.derived value)
  | .path path => path.resolve data scopes
  | .call call => (evaluateCall data scopes call).map .derived

/-- The result of a call. -/
def evaluateCall (data : Json) (scopes : List Scope) : Call -> Option Json
  | ⟨helper, parameters, options⟩ =>
      match evaluateAll data scopes parameters,
      evaluateOptions data scopes options with
      | some values, some options =>
          applyHelper helper options (values.map (·.value))
      | _, _ => none

/-- The values of several terms. -/
def evaluateAll (data : Json) (scopes : List Scope) :
    List Term -> Option (List Found)
  | [] => some []
  | term :: rest =>
      match evaluate data scopes term, evaluateAll data scopes rest with
      | some value, some values => some (value :: values)
      | _, _ => none

/-- The values of options. -/
def evaluateOptions (data : Json) (scopes : List Scope) :
    List (String × Term) -> Option Members
  | [] => some []
  | (name, term) :: rest =>
      match evaluate data scopes term, evaluateOptions data scopes rest with
      | some found, some values => some ((name, found.value) :: values)
      | _, _ => none

end

/-- The names of a block bound to the value of a round and, if there is a second
name, its key. -/
def bindParameters (names : List String) (value : Option Json) (key : Json) :
    List (String × Option Json) :=
  match names with
  | [] => []
  | [first] => [(first, value)]
  | first :: second :: _ => [(second, some key), (first, value)]

/-- The scopes of the rounds of a loop over the entries of a collection. -/
def loopScopes
    (names : List String)
    (keyName : String)
    (place : Option (List String))
    (entries : List (String × Json × Json)) :
    List Scope :=
  entries.zipIdx.map fun ((name, key, value), index) =>
    let scope := Scope.ofFound ⟨value, place.map (· ++ [name])⟩
    { scope with
      loopVariables :=
        [("first", .boolean (index == 0)),
          ("last", .boolean (index + 1 == entries.length)),
          (keyName, key)]
      parameters := bindParameters names scope.override key }

/-- The entries of an array: the name of each in a path, its index
and the item. -/
def arrayEntries (items : List Json) : List (String × Json × Json) :=
  items.zipIdx.map fun (item, index) => (toString index, .ofNat index, item)

/-- The entries of an object: the name of each in a path, its key
and the value. -/
def objectEntries (members : Members) : List (String × Json × Json) :=
  members.map fun (key, value) => (key, .string key, value)

/-- The scope within a block that is rendered at a value. -/
def valueScope (names : List String) (found : Found) : Scope :=
  let scope := Scope.ofFound found
  match names with
  | [name] => { scope with parameters := [(name, scope.override)] }
  | _ => scope

/-- What a block does: its body in some scopes, its alternative, or a text. -/
inductive BlockPlan
  | bodyIn (scopes : List (Option Scope))
  | alternative
  | text (text : String)

/-- What a block with the given values does. -/
def planBlock
    (hasAlternative : Bool)
    (helper : String)
    (names : List String)
    (options : Members)
    (values : List Found) :
    Option BlockPlan :=
  let includesZero :=
    (options.lookup "includeZero").bind Json.asBoolean? == some true
  let branch (condition : Bool) (scope : Option Scope) : BlockPlan :=
    if condition then .bodyIn [scope] else .alternative
  let loop (keyName : String) (place : Option (List String))
      (entries : List (String × Json × Json)) : BlockPlan :=
    if entries.isEmpty && hasAlternative then .alternative
    else .bodyIn ((loopScopes names keyName place entries).map some)
  match helper, values with
  | "if", found :: _ => some (branch (isTruthy includesZero found.value) none)
  | "unless", found :: _ =>
      some (branch (!isTruthy includesZero found.value) none)
  | "with", found :: _ =>
      some (branch (isTruthy false found.value) (valueScope names found))
  | "each", ⟨.array items, place⟩ :: _ =>
      some (loop "index" place (arrayEntries items))
  | "each", ⟨.object members, place⟩ :: _ =>
      some (loop "key" place (objectEntries members))
  | "each", _ :: _ => some .alternative
  | "raw", _ => some (.bodyIn [none])
  | _, _ =>
      (applyHelper helper options (values.map (·.value))).map fun value =>
        .text (print value)

/-- The text so far and what holds for the text to come. -/
structure Progress where
  fragments : List (String × List Node)
  /-- The bodies of the inclusions being rendered, innermost first. -/
  bodies : List (List Node)
  /-- How many of the bodies are being rendered themselves. -/
  bodyDepth : Nat
  indent : String
  /-- Whether the text so far ends with a line. -/
  endsLine : Bool
  written : String

namespace Progress

/-- Nothing written and nothing defined. -/
def start : Progress :=
  ⟨[], [], 0, "", false, ""⟩

/-- Characters with an indent after each line feed but the last character. -/
def indented (indent : List Char) : List Char -> List Char
  | [] => []
  | [character] => [character]
  | '\n' :: rest => '\n' :: indent ++ indented indent rest
  | character :: rest => character :: indented indent rest

/-- Write a text, each of its lines with the indent. -/
def write (text : String) (progress : Progress) : Progress :=
  match text.toList with
  | [] => progress
  | first :: rest =>
      let characters := first :: rest
      let opening := if progress.endsLine && !Piece.isLineEnd first then
          progress.indent else ""
      let lines :=
        if progress.indent.isEmpty then text
        else String.ofList (indented progress.indent.toList characters)
      { progress with
        written := progress.written ++ opening ++ lines
        endsLine := characters.getLast?.any Piece.isLineEnd }

/-- The nodes that a fragment name stands for; an inclusion's own body is the
last resort. -/
def fragment? (progress : Progress) (name : String)
    (body : Option (List Node)) :
    Option (List Node) :=
  let defined :=
    if name = "@partial-block" then progress.bodies[progress.bodyDepth]?
    else progress.fragments.lookup name
  defined.or body

end Progress

/-- Do what a decorator asks for; the one that there is names its body as
a fragment. -/
def decorate
    (data : Json)
    (scopes : List Scope)
    (call : Call)
    (body : Option (List Node))
    (progress : Progress) :
    Option Progress := do
  let values ← evaluateAll data scopes call.parameters
  let _ ← evaluateOptions data scopes call.options
  let found ← values.head?
  let name ← found.value.asString?
  let nodes ← body
  if call.helper = "inline" then
    return { progress with fragments := (name, nodes) :: progress.fragments }
  else none

/-- Do what the decorators directly within a body ask for. -/
def decorateAll (data : Json) (scopes : List Scope) (body : List Node)
    (progress : Progress) :
    Option Progress :=
  body.foldlM (fun progress node =>
    match node with
    | .decorator call body => decorate data scopes call body progress
    | _ => some progress) progress

/-- The name of a fragment, computed if need be. -/
def FragmentName.resolve (data : Json) (scopes : List Scope) :
    FragmentName -> Option String
  | .written name => some name
  | .computed call => (evaluateCall data scopes call).map print

/-- The scopes of a fragment included at a value and with values added to it. -/
def fragmentScopes (data : Json) (scopes : List Scope) (found : Option Found)
    (options : Members) :
    Option (List Scope) := do
  let moved := (found.bind (·.place)).map fun place => { Scope.root with place }
  match options with
  | [] => return moved.elim scopes ([·])
  | _ =>
      let scope := moved.getD (scopes.head?.getD .root)
      let current ← scope.find data scope.override []
      let members := (current.value.asObject?.getD []).union options
      return [{ scope with override := some (.object members) }]

/-- How the nodes of a fragment are rendered. -/
abbrev Renderer := List Scope -> List Node -> Progress -> Option Progress

/-- Include a fragment. -/
def includeFragment
    (render : Renderer)
    (data : Json)
    (scopes : List Scope)
    (head : Inclusion)
    (body : Option (List Node))
    (progress : Progress) :
    Option Progress := do
  let name ← head.name.resolve data scopes
  let values ← evaluateAll data scopes head.parameters
  let options ← evaluateOptions data scopes head.options
  let prepared ← decorateAll data scopes (body.getD []) progress
  let nodes ← prepared.fragment? name body
  let innerScopes ← fragmentScopes data scopes values.head? options
  let inner ← render innerScopes nodes
    { prepared with
      bodies := body.toList ++ prepared.bodies
      bodyDepth :=
        if name = "@partial-block" then prepared.bodyDepth + 1
        else prepared.bodyDepth - 1
      indent := prepared.indent ++ head.indent }
  return { prepared with written := inner.written, endsLine := inner.endsLine }

mutual

/-- Render a node. -/
def renderNode (render : Renderer) (data : Json) (scopes : List Scope) :
    Node -> Progress -> Option Progress
  | .text text, progress => some (progress.write text)
  | .print path, progress =>
      (path.resolve data scopes).map fun found =>
        progress.write (print found.value)
  | .call call, progress =>
      (evaluateCall data scopes call).map fun value =>
        progress.write (print value)
  | .dispatch call, progress => do
      let text := print (← evaluateCall data scopes call)
      if helperNames.contains text then
        return progress.write (print (← applyHelper text [] []))
      else return progress.write text
  | .block ⟨helper, parameters, options⟩ names body alternative, progress =>
      match evaluateAll data scopes parameters,
      evaluateOptions data scopes options with
      | some values, some options =>
          match planBlock alternative.isSome helper names options values with
          | none => none
          | some (.text text) => some (progress.write text)
          | some .alternative =>
              match alternative with
              | none => some progress
              | some nodes => renderNodes render data scopes nodes progress
          | some (.bodyIn rounds) =>
              rounds.foldlM (fun progress scope =>
                renderNodes render data (scope.toList ++ scopes) body progress)
                progress
      | _, _ => none
  | .decorator call body, progress => decorate data scopes call body progress
  | .inclusion head body, progress =>
      includeFragment render data scopes head body progress

/-- Render several nodes. -/
def renderNodes (render : Renderer) (data : Json) (scopes : List Scope) :
    List Node -> Progress -> Option Progress
  | [], progress => some progress
  | node :: rest, progress =>
      match renderNode render data scopes node progress with
      | none => none
      | some progress => renderNodes render data scopes rest progress

end

/-- Render nodes with inclusions nested up to a given depth. -/
def renderWithin (data : Json) : Nat -> Renderer
  | 0 => fun _ _ _ => none
  | depth + 1 => renderNodes (renderWithin data depth) data

/-- How deep inclusions may be nested. -/
def maximalDepth : Nat := 1000

/-- The text of a template for some data; none if rendering fails. -/
def render? (data : Json) (template : Template) : Option String :=
  (renderWithin data maximalDepth [.root] template.nodes .start).map (·.written)

end Template
end PromptTuning
