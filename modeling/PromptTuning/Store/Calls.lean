import Mathlib.Tactic.Simps.Basic
import PromptTuning.Concurrency.Schedule

/-!
# Calls of a store

Six operations write to a store: variables are registered, committed whole,
restored from a snapshot, or one is changed under its lock. A call is answered
by a store that runs in a world, or by two tables that keep contents and order
apart.

The tables are a hash table from keys to variables, and beside it a queue of the
keys, oldest first. Every operation has to change both or neither: it writes
through one insertion, which knows whether the variable is registered, committed
or restored, or it changes a variable in its place.
-/

namespace PromptTuning

/-- Variables by their keys, and the keys in the order in which they
are dropped. -/
structure Tables where
  capacity : Nat
  contents : Std.HashMap String Variable
  order : List String

namespace Tables

/-- Empty tables; a capacity of zero counts as one. -/
def withCapacity (capacity : Nat) : Tables :=
  ⟨max capacity 1, ∅, []⟩

/-- How a variable is brought in. -/
inductive Mode
  /-- A present variable stays untouched. -/
  | ifAbsent
  /-- The version count of a present variable goes on. -/
  | commit
  /-- Version and date stay as they are. -/
  | restore

/-- What is stored of a variable that is brought in, none if nothing is. -/
def Mode.admit (mode : Mode) (stored : Option UInt64) (entry : Variable)
    (now : Timestamp) :
    Option Variable :=
  match mode, stored with
  | .ifAbsent, some _ => none
  | .ifAbsent, none => some (entry.touch now)
  | .commit, some version => some ({ entry with version := version }.touch now)
  | .commit, none => some (entry.touch now)
  | .restore, _ => some entry

/-- Drop the oldest key from both tables. -/
def dropOldest (tables : Tables) : Tables :=
  match tables.order with
  | [] => tables
  | oldest :: rest =>
      { tables with contents := tables.contents.erase oldest, order := rest }

/-- Give an absent key its place at the end of the order, where a full store
first drops the oldest. -/
def enqueue (tables : Tables) (key : String) : Tables :=
  let roomy := if tables.capacity ≤ tables.contents.size then tables.dropOldest
    else tables
  { roomy with order := roomy.order ++ [key] }

/-- Store a variable under its key. -/
def write (tables : Tables) (entry : Variable) : Tables :=
  let placed :=
    if tables.contents[entry.key]?.isNone then tables.enqueue entry.key
    else tables
  { placed with contents := placed.contents.insert entry.key entry }

/-- Bring in a variable; says whether it was written. -/
def insert (tables : Tables) (mode : Mode) (entry : Variable)
    (now : Timestamp) :
    Bool × Tables :=
  match mode.admit (tables.contents[entry.key]?.map (·.version)) entry now with
  | none => (false, tables)
  | some admitted => (true, tables.write admitted)

/-- Change the variable under a key in its place; answers the
committed variable. -/
def modify (tables : Tables) (key : String) (change : Change)
    (now : Timestamp) :
    Except StoreError Variable × Tables :=
  match tables.contents[key]? with
  | none => (.error (.notFound key), tables)
  | some entry =>
      match change.apply entry with
      | .error reason => (.error reason, tables)
      | .ok changed =>
          (.ok (changed.touch now),
            { tables with
              contents := tables.contents.insert key (changed.touch now) })

/-- Load a snapshot; says how many variables it held. -/
def restore (tables : Tables) (document : Json) (now : Timestamp) :
    Except StoreError Nat × Tables :=
  match Store.readSnapshot document with
  | .error reason => (.error reason, tables)
  | .ok entries =>
      (.ok entries.length,
        entries.foldl (fun tables entry => (tables.insert .restore entry now).2)
          tables)

end Tables

/-- A call of an operation that writes to a store. -/
inductive StoreCall
  | register (key : String) (initial : Option Instructions)
  | append (key : String) (prediction : Prediction)
  | attach (key : String) (index : Nat) (reward : Double)
  | update (key : String) (content : VariableUpdate)
  | replace (entry : Variable)
  | restore (document : Json)

namespace StoreCall

/-- What a call answers. -/
abbrev Answer : StoreCall -> Type
  | .register _ _ => Bool
  | .append _ _ => Except StoreError Nat
  | .attach _ _ _ => Except StoreError Unit
  | .update _ _ => Except StoreError Variable
  | .replace _ => Unit
  | .restore _ => Except StoreError Nat

/-- The key that a call is about; a restoration is about many. -/
def key? : StoreCall -> Option String
  | .register key _ | .append key _ | .attach key _ _ |
      .update key _ => some key
  | .replace entry => some entry.key
  | .restore _ => none

/-- Make a call of a store in the world, alone; none if the call is given up. -/
def run {σ : Type} (host : ModelHost σ) (owner : Owner) (limit : Nat)
    (id : StoreId) (world : World σ) :
    (call : StoreCall) -> Option call.Answer × World σ
  | .register key initial =>
      (Activity.perform (.register id key initial)).run host owner limit world
  | .append key prediction =>
      (Activity.append id key prediction).run host owner limit world
  | .attach key index reward =>
      (Activity.attach id key index reward).run host owner limit world
  | .update key content =>
      (Activity.update id key content).run host owner limit world
  | .replace entry =>
      (Activity.perform (.commit id entry)).run host owner limit world
  | .restore document =>
      match (world.stores id).restore document with
      | .error reason => (some (.error reason), world)
      | .ok (count, after) => (some (.ok count), world.setStore id after)

/-- Make calls, each at its moment. -/
def runAll {σ : Type} (host : ModelHost σ) (owner : Owner) (limit : Nat)
    (id : StoreId) (world : World σ)
    (calls : List (Timestamp × StoreCall)) : World σ :=
  calls.foldl
    (fun world (now, call) =>
      (run host owner limit id { world with now := now } call).2)
    world

end StoreCall

namespace Tables

/-- Answer a call. -/
def answer (tables : Tables) (now : Timestamp) :
    (call : StoreCall) -> call.Answer × Tables
  | .register key initial =>
      tables.insert .ifAbsent
        { Variable.create key now with instructions := initial } now
  | .append key prediction =>
      (tables.modify key (.append prediction) now).map
        (·.map fun entry => entry.predictions.length - 1) id
  | .attach key index reward =>
      if isValidReward reward then
        (tables.modify key (.attach index reward) now).map
          (·.map fun _ => ()) id
      else (.error (.invalidReward reward), tables)
  | .update key content => tables.modify key (.update content) now
  | .replace entry => ((), (tables.insert .commit entry now).2)
  | .restore document => tables.restore document now

/-- Answer calls, each at its moment. -/
def answerAll (tables : Tables) (calls : List (Timestamp × StoreCall)) :
    Tables :=
  calls.foldl (fun tables (now, call) => (tables.answer now call).2) tables

end Tables
end PromptTuning
