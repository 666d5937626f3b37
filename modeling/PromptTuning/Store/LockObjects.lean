import PromptTuning.Store.Locking

/-!
# Shared lock objects

A lock is an object of its own, which the table of locks and everybody who asks
for it refer to. It is made when its key is asked for and the table has none,
and the table forgets it when it is pruned while nobody else refers to it.
Asking for a lock takes two steps, which refer to the object and stand in its
line, and anything may happen between any two steps. Pruning may go by keys that
are no longer those that are stored.
-/

namespace PromptTuning

/-- An entry of the table: the object that is the lock of a key. -/
structure LockEntry where
  key : String
  object : Nat
  deriving DecidableEq

/-- Somebody who refers to the object of a key, to hold it or to await it. -/
structure LockRequest where
  owner : Owner
  key : String
  object : Nat
  /-- Whether it stands in the line of the object. -/
  joined : Bool
  deriving DecidableEq

namespace LockRequest

/-- Whose request it is, and for which key. -/
def name (request : LockRequest) : Owner × String :=
  (request.owner, request.key)

/-- The entry of the table that a request goes by. -/
def entry (request : LockRequest) : LockEntry :=
  ⟨request.key, request.object⟩

/-- The request as one that stands in line, if it has the name given. -/
def inLine (named : Owner × String) (request : LockRequest) : LockRequest :=
  if request.name = named then { request with joined := true } else request

end LockRequest

/-- Lock objects and all that refers to them. -/
structure LockObjects where
  /-- The number of objects made so far; each is known by its number. -/
  made : Nat
  memory : Nat -> Lock
  table : List LockEntry
  requests : List LockRequest

/-- One step on lock objects. -/
inductive LockStep
  /-- Somebody refers to the object of a key, which is made if need be. -/
  | refer (owner : Owner) (key : String)
  /-- Somebody takes the object or stands in its line. -/
  | join (owner : Owner) (key : String)
  /-- Somebody lets go of a lock or stops asking for it. -/
  | leave (owner : Owner) (key : String)
  /-- The table forgets what nobody refers to, apart from the keys given. -/
  | prune (stored : List String)

namespace LockObjects

/-- No lock has been asked for yet. -/
def empty : LockObjects :=
  ⟨0, fun _ => ⟨"", none, []⟩, [], []⟩

/-- What replaces one object. -/
def setObject (objects : LockObjects) (index : Nat) (lock : Lock) :
    LockObjects :=
  { objects with
    memory := fun other =>
      if other = index then lock else objects.memory other }

/-- How many refer to an object: the table and those who hold it or
ask for it. -/
def strongCount (objects : LockObjects) (index : Nat) : Nat :=
  objects.table.countP (·.object == index) +
  objects.requests.countP (·.object == index)

/-- The entry of a key in the table. -/
def find? (objects : LockObjects) (key : String) : Option LockEntry :=
  objects.table.find? (·.key == key)

/-- The request of somebody for a key. -/
def request? (objects : LockObjects) (owner : Owner) (key : String) :
    Option LockRequest :=
  objects.requests.find? fun request => request.name == (owner, key)

/-- Make an object for a key and put it into the table. -/
def make (objects : LockObjects) (key : String) : LockObjects :=
  { objects.setObject objects.made ⟨key, none, []⟩ with
    made := objects.made + 1
    table := objects.table ++ [⟨key, objects.made⟩] }

/-- Refer to an object for a key. -/
def ask (objects : LockObjects) (owner : Owner) (key : String) (index : Nat) :
    LockObjects :=
  { objects with requests := objects.requests ++ [⟨owner, key, index, false⟩] }

/-- Refer to the object of a key, which is made if the table has none. -/
def refer (objects : LockObjects) (owner : Owner) (key : String) :
    LockObjects :=
  if (objects.request? owner key).isSome then objects
  else
    match objects.find? key with
    | some entry => objects.ask owner key entry.object
    | none => (objects.make key).ask owner key objects.made

/-- Take the object that was referred to, or stand in its line. -/
def join (objects : LockObjects) (owner : Owner) (key : String) : LockObjects :=
  match objects.request? owner key with
  | some ⟨_, _, index, false⟩ =>
      { objects.setObject index ((objects.memory index).join owner) with
        requests := objects.requests.map (·.inLine (owner, key)) }
  | _ => objects

/-- Let go of a lock or stop asking for it. -/
def leave (objects : LockObjects) (owner : Owner) (key : String) :
    LockObjects :=
  match objects.request? owner key with
  | some request =>
      { objects.setObject request.object
        ((objects.memory request.object).without owner) with
        requests := objects.requests.filter (·.name != (owner, key)) }
  | none => objects

/-- Forget the entries that only the table refers to, apart from those of the
keys given. -/
def prune (objects : LockObjects) (stored : List String) : LockObjects :=
  { objects with
    table := objects.table.filter fun entry =>
      stored.contains entry.key || 1 < objects.strongCount entry.object }

/-- What a step does. -/
def step (objects : LockObjects) : LockStep -> LockObjects
  | .refer owner key => objects.refer owner key
  | .join owner key => objects.join owner key
  | .leave owner key => objects.leave owner key
  | .prune stored => objects.prune stored

/-- What several steps do, one after another. -/
def run (steps : List LockStep) (objects : LockObjects) : LockObjects :=
  steps.foldl step objects

/-- Those who hold a lock object of a key, whichever object it is. -/
def guards (objects : LockObjects) (key : String) : List LockRequest :=
  objects.requests.filter fun request =>
    request.key == key &&
    (objects.memory request.object).holder == some request.owner

end LockObjects
end PromptTuning
