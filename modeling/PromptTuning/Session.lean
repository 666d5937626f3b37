import PromptTuning.Application.Basic

/-!
# Sessions

A session works on one store with one trainer, step by step, and keeps between
the steps what later ones refer to: modules by their names, locks that are held,
files, and an application, if one was started. A step that would have to wait
for more than an hour is given up; what it committed before stays. Arithmetic is
checked, so a session in which counting a write overflows comes to an end there.
-/

namespace PromptTuning

/-- What a session keeps between its steps. -/
structure Session (σ : Type) where
  world : World σ
  trainer : Trainer
  modules : List (String × Module)
  /-- The stores that were opened so far. -/
  stores : List StoreId
  /-- For each key whose lock is held, the store it is in and the holder. -/
  held : List (String × (StoreId × Owner))
  application : Option Application
  files : Files
  /-- Those who observe the first trainer and those of applications. -/
  observers : List Observer
  /-- The number of events shown so far. -/
  shownEvents : Nat
  /-- A number that no store, optimizer or holder of a lock has. -/
  fresh : Nat

/-- A step of a session. -/
abbrev SessionStep (σ : Type) := StateM (Session σ)

namespace Session

variable {σ α : Type}

/-- The first number that is not given out to tasks. -/
def firstFresh : Nat := 1000000

/-- The longest a step may wait, in milliseconds. -/
def patience : Nat := 3600000

/-- A session at its beginning, in which every store has a capacity. -/
def start (capacity : Nat) (trainer : Trainer) (models : σ)
    (observers : List Observer)
    (now : Timestamp) : Session σ where
  world := {
    stores := fun _ => .withCapacity capacity
    programs := fun _ => none
    models := models
    observers := ⟨observers, []⟩
    clock := 0
    now := now }
  trainer := trainer
  modules := []
  stores := [trainer.store]
  held := []
  application := none
  files := []
  observers := observers
  shownEvents := 0
  fresh := firstFresh

/-- The moment at which a step of the session is given up. -/
def limit (session : Session σ) : Nat :=
  session.world.clock + patience

/-- The store of the session. -/
def store (session : Session σ) : Store :=
  session.world.stores session.trainer.store

/-- The session with the contents of a store set. -/
def setStore (session : Session σ) (id : StoreId) (store : Store) : Session σ :=
  { session with world := session.world.setStore id store }

/-- Take a fresh number. -/
def freshNumber : SessionStep σ Nat :=
  modifyGet fun session =>
    (session.fresh, { session with fresh := session.fresh + 1 })

/-- A number for another store. -/
def openStore : SessionStep σ StoreId := do
  let id ← freshNumber
  modify fun session => { session with stores := id :: session.stores }
  return id

/-- Whether counting a write has overflowed, which ends the session. -/
def hasOverflowed (session : Session σ) : Bool :=
  session.stores.any fun id => (session.world.stores id).overflowed

/-- Run a computation on the world; there is no result if it is given up. -/
def run (body : Session σ -> Run σ α) : SessionStep σ (Option α) :=
  modifyGet fun session =>
    let (result, world) := (body session).run session.world
    (result, { session with world := world })

/-- Run an activity on behalf of an owner. -/
def awaitAs (host : ModelHost σ) (owner : Owner) (body : Activity α) :
    SessionStep σ (Option α) :=
  run fun session =>
    OptionT.mk fun world => body.run host owner session.limit world

/-- Run an activity in the foreground. -/
def await (host : ModelHost σ) (body : Activity α) : SessionStep σ (Option α) :=
  awaitAs host Run.foreground body

/-- Lock a key and keep it locked. -/
def lock (host : ModelHost σ) (key : String) :
    SessionStep σ (Option (Except StoreError Unit)) := do
  let owner ← freshNumber
  let store := (← get).trainer.store
  let outcome ← awaitAs host owner (.lock store key .done)
  if let some (.ok _) := outcome then
    modify fun session => { session with
      held := (key, (store, owner)) :: session.held.filter (·.1 != key) }
  return outcome

/-- Let go of the lock of a key; answers whether it was held. -/
def unlock (key : String) : SessionStep σ Bool := do
  let session ← get
  match session.held.lookup key with
  | none => return false
  | some (store, owner) =>
      let released := (session.world.stores store).releaseLock owner key
      set { session.setStore store released with
        held := session.held.filter (·.1 != key) }
      return true

/-- Restore a snapshot into the store; answers the number of variables in it. -/
def restore (document : Json) : SessionStep σ (Except StoreError Nat) := do
  let session ← get
  match session.store.restore document with
  | .error cause => return .error cause
  | .ok (count, store) =>
      set (session.setStore session.trainer.store store)
      return .ok count

/-- The session with other observers, who have received the same events. -/
def watchedBy (session : Session σ) (observers : List Observer) : Session σ :=
  { session with
    world := { session.world with
      observers := { session.world.observers with observers := observers } } }

/-- Move the variables to a fresh store of another capacity, which
nobody observes. -/
def migrate (capacity : Nat) : SessionStep σ (Except StoreError Nat) := do
  let session ← get
  match (Store.withCapacity capacity).restore session.store.snapshot with
  | .error cause => return .error cause
  | .ok (count, store) =>
      let id ← openStore
      modify fun session =>
        let moved := (session.setStore id store).watchedBy []
        { moved with trainer := { moved.trainer with store := id } }
      return .ok count

/-- The events received since the last time, each with the index of
its observer. -/
def newEvents : SessionStep σ (List (Nat × Event)) :=
  modifyGet fun session =>
    let received := session.world.observers.received
    (received.drop session.shownEvents,
      { session with shownEvents := received.length })

/-- Set the generation program of an optimizer. -/
def setProgram (id : OptimizerId) (program : Module) : SessionStep σ Unit :=
  modify fun session =>
    { session with world := session.world.setProgram id program }

/-- Write a file; answers whether that can be done. -/
def writeFile (path text : String) : SessionStep σ Bool := do
  modifyGet fun session =>
    let (files, written) := session.files.write path text
    (written, { session with files := files })

/-- Where applications of the session are started. -/
def surroundings (configurationPath : String) : SessionStep σ Surroundings := do
  let optimizer ← freshNumber
  return ⟨(← get).files, [], configurationPath, optimizer, ← openStore⟩

/-- Start an application; the session goes on with its store and its trainer. -/
def startApplication (configurationPath : String)
    (languageModel : Option LanguageModel) :
    SessionStep σ (Except ApplicationError Application) := do
  match Application.start (← surroundings configurationPath) languageModel with
  | .error cause => return .error cause
  | .ok (application, store) =>
      modify fun session =>
        let opened := (session.setStore application.store store).watchedBy
          session.observers
        { opened with
          application := some application, trainer := application.trainer }
      return .ok application

/-- Write the snapshot of the application's store. -/
def persist (application : Application) :
    SessionStep σ (Except ApplicationError Unit) :=
  modifyGet fun session =>
    let (files, persisted) :=
      application.persist (session.world.stores application.store) session.files
    (persisted, { session with files := files })

/-- Load the configuration of the application anew; answers the application
after that. -/
def reload (application : Application) (configurationPath : String) :
    SessionStep σ (Except ConfigurationError Configuration × Application) :=
  modifyGet fun session =>
    let loaded := Configuration.load session.files configurationPath
    let application := application.reload loaded
    ((loaded, application), { session with application := some application })

/-- Train an application of its own, which nobody observes, and
persist its store. -/
def runApplication (host : ModelHost σ) (configurationPath : String)
    (rewards : RewardSource) :
    SessionStep σ (Option (Except ApplicationError History)) := do
  let observers := (← get).world.observers.observers
  let surroundings ← surroundings configurationPath
  modify (·.watchedBy [])
  let result ← run fun session =>
    Application.run surroundings host session.limit rewards
  modify (·.watchedBy observers)
  match result with
  | none => return none
  | some (files, outcome) =>
      modify fun session => { session with files := files }
      return some outcome

end Session

end PromptTuning
