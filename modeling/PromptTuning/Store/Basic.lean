import PromptTuning.Variable.Basic

/-!
# The variable store

A store keeps at most a fixed number of variables in the order in which their
keys were first stored; storing one more key drops the oldest. Writing to a
present key never changes the order. A committed write continues the version
count of the stored variable, and the store remembers whether such a count has
overflowed. Beside the variables a store keeps a table of locks, one for each
key that was ever locked and is still of interest.
-/

namespace PromptTuning

/-- Why a store refuses an operation. -/
inductive StoreError
  | notFound (key : String)
  | invalidReward (reward : Double)
  | indexOutOfRange (index count : Nat)
  | missingVariables
  | undecodable (reason : DecodeError)
  deriving DecidableEq

namespace StoreError

/-- The wording of a store error. -/
def message : StoreError -> String
  | .notFound key => "Item not found: " ++ key
  | .invalidReward reward =>
      "Invalid argument: reward must be in [0, 1], got " ++ reward.toProse
  | .indexOutOfRange index count =>
      "Invalid argument: prediction index " ++ toString index ++
        " out of range (" ++
        toString count ++ " recorded)"
  | .missingVariables => "Serialization error: missing 'variables'"
  | .undecodable reason => "Serialization error: " ++ reason.message

/-- The code of a store error. -/
def code : StoreError -> String
  | .notFound _ => "Store.NotFound"
  | .invalidReward _ | .indexOutOfRange .. => "Store.InvalidArgument"
  | .missingVariables | .undecodable _ => "Store.Serialization"

/-- The wording in a report: a cause without a wording leaves none. -/
def report : StoreError -> String
  | .undecodable .malformedText => ""
  | other => other.message

instance : Diagnostic StoreError := ⟨code, report, fun _ => []⟩

end StoreError

/-- A task that may hold or await locks. -/
abbrev Owner := Nat

/-- The lock of one key: its holder and those who wait for it, first
come first. -/
structure Lock where
  key : String
  holder : Option Owner
  waiters : List Owner
  deriving DecidableEq

namespace Lock

/-- Whether somebody holds or awaits a lock. -/
def inUse (lock : Lock) : Bool :=
  lock.holder.isSome || !lock.waiters.isEmpty

/-- Hand a lock over to the first who waits for it. -/
def handOver (lock : Lock) : Lock :=
  match lock.waiters with
  | [] => { lock with holder := none }
  | next :: rest => { lock with holder := some next, waiters := rest }

/-- A lock after its owner has let go of it or stopped waiting. -/
def without (owner : Owner) (lock : Lock) : Lock :=
  let remaining := { lock with waiters := lock.waiters.filter (· != owner) }
  if lock.holder = some owner then remaining.handOver else remaining

end Lock

/-- Variables in the order of their keys, and the locks on them. -/
structure Store where
  /-- The largest number of variables kept. -/
  capacity : Nat
  entries : List Variable
  locks : List Lock
  /-- Whether counting a write has overflowed. -/
  overflowed : Bool
  /-- There is room for one variable at least. -/
  capacity_pos : 0 < capacity

namespace Store

/-- An empty store; a capacity of zero counts as one. -/
def withCapacity (capacity : Nat) : Store where
  capacity := max capacity 1
  entries := []
  locks := []
  overflowed := false
  capacity_pos := by omega

/-- The capacity of a store for which none is given. -/
def defaultCapacity : Nat := 1024

instance : Inhabited Store := ⟨withCapacity defaultCapacity⟩

/-- The keys, in storage order. -/
def keys (store : Store) : List String :=
  store.entries.map (·.key)

/-- The variable stored under a key. -/
def find? (store : Store) (key : String) : Option Variable :=
  store.entries.find? (·.key == key)

/-- Whether a key is stored. -/
def contains (store : Store) (key : String) : Bool :=
  store.entries.any (·.key == key)

/-- Whether storing one more key drops the oldest. -/
def isFull (store : Store) : Bool :=
  store.capacity ≤ store.entries.length

/-- Store a variable as it is: in the place of its key, or at the end. -/
def put (store : Store) (entry : Variable) : Store :=
  if store.contains entry.key then
    { store with
      entries :=
        store.entries.map fun old =>
          if old.key = entry.key then entry else old }
  else
    { store with
      entries :=
        (if store.isFull then store.entries.tail else store.entries) ++
        [entry] }

/-- Drop the locks of keys that are gone and that nobody uses. -/
def pruneLocks (store : Store) : Store :=
  { store with
    locks :=
      store.locks.filter fun lock => store.contains lock.key || lock.inUse }

/-- Store a variable and, if that dropped another, prune the locks. -/
def insert (store : Store) (entry : Variable) : Store :=
  if !store.contains entry.key && store.isFull then (store.put entry).pruneLocks
  else store.put entry

/-- Create a variable unless its key is present; says whether it was created. -/
def register
    (store : Store)
    (key : String)
    (initial : Option Instructions)
    (now : Timestamp) :
    Bool × Store :=
  if store.contains key then (false, store)
  else
    let entry := { Variable.create key now with instructions := initial }
    (true, store.insert (entry.touch now))

/-- Take note of whether counting a write to a variable overflows. A program
that checks its arithmetic stops at such a write; one that does not goes on. -/
def counting (entry : Variable) (store : Store) : Store :=
  { store with overflowed := store.overflowed || entry.isExhausted }

/-- Commit a whole variable, continuing the version count of the one
it replaces. -/
def commit (store : Store) (entry : Variable) (now : Timestamp) : Store :=
  let counted :=
    match store.find? entry.key with
    | some stored => { entry with version := stored.version }
    | none => entry
  (store.insert (counted.touch now)).counting counted

/-- The stored variables as a document. -/
def snapshot (store : Store) : Json :=
  .object [("variables", .array (store.entries.map Variable.toJson))]

/-- Store the variables of a list as they are. -/
def restoreAll (store : Store) (entries : List Variable) : Store :=
  (entries.foldl put store).pruneLocks

/-- The variables of a snapshot document. -/
def readSnapshot (document : Json) : Except StoreError (List Variable) :=
  match document.get? "variables" with
  | none => .error .missingVariables
  | some entries => (Decoder.list Variable.decode entries).mapError .undecodable

/-- Load a snapshot; says how many variables it held. -/
def restore (store : Store) (document : Json) :
    Except StoreError (Nat × Store) :=
  (readSnapshot document).map fun entries =>
    (entries.length, store.restoreAll entries)

end Store

/-- A change to one stored variable. -/
inductive Change
  | append (prediction : Prediction)
  | attach (index : Nat) (reward : Double)
  | update (content : VariableUpdate)

namespace Change

/-- The variable after a change, its version not yet counted. -/
def apply (change : Change) (entry : Variable) : Except StoreError Variable :=
  match change with
  | .append prediction =>
      .ok { entry with predictions := entry.predictions ++ [prediction] }
  | .attach index reward =>
      if index < entry.predictions.length then
        .ok { entry with
          predictions := entry.predictions.modify index (·.withReward reward) }
      else .error (.indexOutOfRange index entry.predictions.length)
  | .update content => .ok (entry.apply content)

end Change

namespace Store

/-- Change one stored variable and commit it; answers the committed variable. -/
def modify
    (store : Store)
    (key : String)
    (change : Change)
    (now : Timestamp) :
    Except StoreError Variable × Store :=
  match store.find? key with
  | none => (.error (.notFound key), store)
  | some entry =>
      match change.apply entry with
      | .error reason => (.error reason, store)
      | .ok changed =>
          (.ok (changed.touch now),
            (store.put (changed.touch now)).counting changed)

end Store

end PromptTuning
