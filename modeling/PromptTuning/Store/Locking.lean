import PromptTuning.Store.Basic

/-!
# Locks

A lock is requested for a stored key only. A free lock is granted at once, a
held one puts the request at the end of its queue. Letting go hands the lock to
the first in the queue.
-/

namespace PromptTuning

namespace Lock

/-- Everybody who holds or awaits a lock, the holder first. -/
def users (lock : Lock) : List Owner :=
  lock.holder.toList ++ lock.waiters

/-- Take a lock that is not in use, or stand in its line. -/
def join (owner : Owner) (lock : Lock) : Lock :=
  if lock.inUse then { lock with waiters := lock.waiters ++ [owner] }
  else { lock with holder := some owner }

end Lock

/-- What happens to the locks of a store. -/
inductive LockTurn
  | request (owner : Owner) (key : String)
  /-- A guard is let go, or a request is given up. -/
  | release (owner : Owner) (key : String)
  /-- All guards and requests of a task are dropped. -/
  | abandon (owner : Owner)
  | register (key : String) (initial : Option Instructions) (now : Timestamp)
  | replace (entry : Variable) (now : Timestamp)
  | restore (document : Json)

namespace Store

/-- The lock of a key, if there is one. -/
def lock? (store : Store) (key : String) : Option Lock :=
  store.locks.find? (·.key == key)

/-- Whether a task holds the lock of a key. -/
def isHolder (store : Store) (owner : Owner) (key : String) : Bool :=
  (store.lock? key).any fun lock => lock.holder == some owner

/-- Replace the lock of a key. -/
def setLock (store : Store) (lock : Lock) : Store :=
  { store with
    locks :=
      store.locks.map fun old => if old.key = lock.key then lock else old }

/-- How a request for a lock is answered. -/
inductive Grant
  | granted (store : Store)
  | queued (store : Store)
  | refused (reason : StoreError)

/-- Request the lock of a key. -/
def requestLock (store : Store) (owner : Owner) (key : String) : Grant :=
  if store.contains key then
    match store.lock? key with
    | none =>
        .granted { store with locks := store.locks ++ [⟨key, some owner, []⟩] }
    | some lock =>
        if lock.inUse then
          .queued
            (store.setLock { lock with waiters := lock.waiters ++ [owner] })
        else .granted (store.setLock { lock with holder := some owner })
  else .refused (.notFound key)

/-- Let go of the lock of a key. -/
def releaseLock (store : Store) (owner : Owner) (key : String) : Store :=
  { store with
    locks :=
      store.locks.map fun lock =>
        if lock.key = key then lock.without owner else lock }

/-- Let go of every lock and leave every queue. -/
def releaseAll (store : Store) (owner : Owner) : Store :=
  { store with locks := store.locks.map (·.without owner) }

/-- Whether a task holds or awaits the lock of a key. -/
def isUser (store : Store) (owner : Owner) (key : String) : Bool :=
  (store.lock? key).any fun lock => lock.users.contains owner

/-- What a turn does; a task asks for the lock of a key again only once it has
let go of it. -/
def takeTurn (store : Store) : LockTurn -> Store
  | .request owner key =>
      if store.isUser owner key then store
      else
        match store.requestLock owner key with
        | .granted after => after
        | .queued after => after
        | .refused _ => store
  | .release owner key => store.releaseLock owner key
  | .abandon owner => store.releaseAll owner
  | .register key initial now => (store.register key initial now).2
  | .replace entry now => store.commit entry now
  | .restore document =>
      match store.restore document with
      | .error _ => store
      | .ok (_, after) => after

/-- What several turns do, one after another. -/
def takeTurns (turns : List LockTurn) (store : Store) : Store :=
  turns.foldl takeTurn store

end Store
end PromptTuning
