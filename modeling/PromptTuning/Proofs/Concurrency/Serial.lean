import PromptTuning.Concurrency.Schedule
import PromptTuning.Proofs.Concurrency.Pool
import PromptTuning.Proofs.Concurrency.Sparing
import PromptTuning.Proofs.Store.Holding

/-!
# One operation after another

A log of commits names an order of operations. They are run again in that order,
each alone and to its last committed write, and the language models give each of
them the replies it got before. Nobody is in between, so that nobody ever waits.
-/

namespace PromptTuning

/-- Language models that give recorded replies, one after another
and at once. -/
def ModelHost.replaying : ModelHost (List Reply) where
  delay _ _ := 0
  handle _ _
    | [] => (.error (.response ""), [])
    | reply :: rest => (reply, rest)

namespace Activity

variable {α : Type}

/-- An activity that stops before it would write more often than a
count says. -/
def upTo : Activity α -> Nat -> Activity (Option α)
  | .done result, _ => .done (some result)
  | .act action resume, count =>
      if action.writes then
        match count with
        | 0 => .done none
        | count + 1 => .act action fun answer => (resume answer).upTo count
      else .act action fun answer => (resume answer).upTo count
  | .lock store key resume, count =>
      .lock store key fun outcome => (resume outcome).upTo count
  | .generate model request resume, count =>
      .generate model request fun reply => (resume reply).upTo count

/-- The world after an activity ran alone, as far as its given
number of writes. -/
def alone (owner : Owner) (count : Nat) (activity : Activity α)
    (world : World (List Reply)) :
    World (List Reply) :=
  ((activity.upTo count).run .replaying owner world.clock world).2.abandon owner

end Activity

/-- An activity that has only to let go of locks, with an expected result. -/
inductive Activity.Closed {α : Type} (store : StoreId) (expected : α -> Prop) :
    Activity α -> Prop
  | done {result : α} (fits : expected result) :
      Closed store expected (.done result)
  | unlock {key : String} {resume : Unit -> Activity α}
      (resumed : Closed store expected (resume ())) :
      Closed store expected (.act (.unlock store key) resume)

namespace Activity.Closed

variable {α β : Type} {store : StoreId}

/-- An activity that is closed under an expectation is so under a weaker one. -/
theorem imp {expected weaker : α -> Prop} {activity : Activity α}
    (closed : activity.Closed store expected)
    (implies : ∀ result, expected result -> weaker result) :
    activity.Closed store weaker := by
  induction closed with
  | done fits => exact .done (implies _ fits)
  | unlock _ inductionHypothesis => exact .unlock inductionHypothesis

end Activity.Closed

namespace World

variable {σ τ : Type}

/-- The world with the language models in another state. -/
def withModels (world : World σ) (models : τ) : World τ where
  stores := world.stores
  programs := world.programs
  models := models
  observers := world.observers
  clock := world.clock
  now := world.now

end World

/-- A client's writes in a row: the last one and how many they are. -/
structure Committed where
  last : Commit
  writes : Nat

namespace Committed

/-- The writes in a row that a client could go on with, and what came
before them. -/
def opened (client : Owner) : List Committed -> Nat × List Committed
  | [] => (0, [])
  | latest :: rest =>
      if latest.last.client = client then (latest.writes, rest)
      else (0, latest :: rest)

/-- The operations of a log, the latest first, with their numbers of writes. -/
def grouped : List Commit -> List Committed
  | [] => []
  | commit :: earlier =>
      ⟨commit, (opened commit.client (grouped earlier)).1 + 1⟩ ::
        (opened commit.client (grouped earlier)).2

/-- What is left of the groups after a client's open ones are their tail. -/
theorem opened_suffix (client : Owner) (operations : List Committed) :
    (opened client operations).2 <:+ operations := by
  cases operations with
  | nil => exact List.suffix_rfl
  | cons latest rest =>
      rw [opened]
      split
      · exact List.suffix_cons latest rest
      · exact List.suffix_rfl

/-- The last commit of a group is one of the log. -/
theorem last_mem_of_mem_grouped
    {log : List Commit}
    {committed : Committed}
    (listed : committed ∈ grouped log) :
    committed.last ∈ log := by
  induction log with
  | nil => exact absurd listed List.not_mem_nil
  | cons commit earlier inductionHypothesis =>
      obtain rfl | listed := List.mem_cons.mp listed
      · exact List.mem_cons_self
      · exact .tail _ (inductionHypothesis ((opened_suffix _ _).subset listed))

/-- A client without commits has no open group. -/
theorem opened_of_unlogged
    {owner : Owner}
    {log : List Commit}
    (unlogged : ∀ commit ∈ log, commit.client ≠ owner) :
    opened owner (grouped log) = (0, grouped log) := by
  cases log with
  | nil => rfl
  | cons commit log => exact if_neg (unlogged commit List.mem_cons_self)

/-- One more commit of a client is one more in its open group. -/
theorem opened_cons
    {owner : Owner}
    {log : List Commit}
    {commit : Commit}
    (own : commit.client = owner) :
    opened owner (grouped (commit :: log)) =
      ((opened owner (grouped log)).1 + 1, (opened owner (grouped log)).2) := by
  subst own
  exact if_pos rfl

end Committed

namespace Setting

variable {σ : Type}

/-- Run a committed operation again, alone and on the same replies. -/
def replay (setting : Setting σ) (committed : Committed)
    (world : World (List Reply)) :
    World (List Reply) :=
  (setting.body committed.last.operation).alone committed.last.client
    committed.writes (world.withModels committed.last.replies)

/-- Run committed operations one after another, those at the end of the
list first. -/
def replayAll (setting : Setting σ) (start : World σ)
    (operations : List Committed) :
    World (List Reply) :=
  operations.foldr setting.replay (start.withModels [])

/-- The world after the operations of a log, one after another in the order of
their commits. -/
def serial (setting : Setting σ) (start : World σ) (log : List Commit) :
    World (List Reply) :=
  setting.replayAll start (Committed.grouped log)

end Setting

namespace Operation

/-- What an operation makes of a list of predictions, apart from rewards. -/
def records : Operation -> List Prediction -> List Prediction
  | .append _ prediction, recorded => recorded ++ [prediction]
  | .set _ content, recorded => content.predictions.getD recorded
  | _, recorded => recorded

end Operation

/-- The predictions of a key after the commits of a log, apart from rewards. -/
def recorded (initial : List Prediction) (key : String) :
    List Commit -> List Prediction
  | [] => initial
  | commit :: earlier =>
      if commit.key = key then
        commit.operation.records (recorded initial key earlier)
      else recorded initial key earlier

namespace Activity

section Alone

variable {α : Type} {owner : Owner} {count : Nat} {world : World (List Reply)}

/-- An activity that only looks goes on until it is to stop. -/
theorem upTo_look
    {action : Action}
    {resume : action.Answer -> Activity α}
    (looks : action.writes = false) :
    (act action resume).upTo count =
      .act action fun answer => (resume answer).upTo count := by
  cases count <;> simp only [upTo, looks] <;> rfl

/-- An action that only looks is performed, and time stands still. -/
theorem alone_look
    {action : Action}
    {resume : action.Answer -> Activity α}
    (looks : action.writes = false) :
    (act action resume).alone owner count world =
      (resume (world.perform owner action).1).alone owner count
        (world.perform owner action).2 := by
  unfold alone
  rw [World.clock_perform]
  rw [upTo_look looks]
  rfl

/-- A write is performed while there is one left. -/
theorem alone_write
    {action : Action}
    {resume : action.Answer -> Activity α}
    (writes : action.writes = true) :
    (act action resume).alone owner (count + 1) world =
      (resume (world.perform owner action).1).alone owner count
        (world.perform owner action).2 := by
  unfold alone
  rw [World.clock_perform]
  simp only [upTo, writes, if_true]
  rfl

/-- An activity that stops before it writes is dropped. -/
theorem alone_stop
    {action : Action}
    {resume : action.Answer -> Activity α}
    (writes : action.writes = true) :
    (act action resume).alone owner 0 world = world.abandon owner := by
  unfold alone
  simp only [upTo, writes, if_true]
  rfl

/-- An activity alone goes on with a lock that is granted. -/
theorem alone_lock
    {store : StoreId}
    {key : String}
    {resume : Except StoreError Unit -> Activity α}
    {after : Store}
    (granted : (world.stores store).requestLock owner key = .granted after) :
    (lock store key resume).alone owner count world =
      (resume (.ok ())).alone owner count (world.setStore store after) := by
  unfold alone
  simp only [upTo, run, granted]
  rfl

/-- An activity alone goes on with the next reply that is replayed. -/
theorem alone_generate
    {model : LanguageModel}
    {request : GenerationRequest}
    {resume : Reply -> Activity α}
    {reply : Reply}
    {more : List Reply}
    (replies : world.models = reply :: more) :
    (generate model request resume).alone owner count world =
      (resume reply).alone owner count (world.withModels more) := by
  have asked : (world.atClock world.clock).ask .replaying model request =
      (reply, world.withModels more) := by
    simp only [World.ask, World.atClock, ModelHost.replaying, replies]
    rfl
  have soon :
      world.clock + ModelHost.replaying.wait world.models model request ≤
        world.clock :=
    Nat.le_refl _
  unfold alone
  simp only [upTo, run]
  rw [if_pos soon]
  change (run .replaying owner world.clock
    ((resume ((world.atClock world.clock).ask .replaying model request).1).upTo
      count)
    ((world.atClock world.clock).ask .replaying model request).2).2.abandon
    owner = _
  rw [asked]
  rfl

end Alone

/-- Who only lets go of locks does not care how many writes it is allowed. -/
theorem Closed.alone_eq
    {α : Type}
    {store : StoreId}
    {expected : α -> Prop}
    {activity : Activity α}
    (closed : activity.Closed store expected)
    (owner : Owner)
    (count : Nat)
    (world : World (List Reply)) :
    activity.alone owner count world = activity.alone owner 0 world := by
  induction closed generalizing world with
  | done => rfl
  | unlock _ inductionHypothesis =>
      rw [alone_look rfl, alone_look rfl]
      exact inductionHypothesis _

/-- Nothing is written where no write is allowed. -/
theorem sameEntries_alone_zero
    {α : Type}
    (owner : Owner)
    (activity : Activity α)
    (world : World (List Reply)) :
    World.SameEntries world (activity.alone owner 0 world) := by
  refine World.SameEntries.trans ?_ (World.sameEntries_abandon _ owner)
  generalize world.clock = limit
  induction activity generalizing world with
  | done result => exact .refl world
  | act action resume inductionHypothesis =>
      cases writes : action.writes with
      | true =>
          simp only [upTo, writes, if_true]
          exact .refl world
      | false =>
          rw [upTo_look writes]
          exact (world.sameEntries_perform owner writes).trans
            (inductionHypothesis _ _)
  | lock store key resume inductionHypothesis =>
      simp only [upTo, run]
      cases request : (world.stores store).requestLock owner key with
      | refused reason => exact inductionHypothesis _ _
      | granted after =>
          have entries :=
            (Store.requested_of_requestLock (.inl request)).entries_eq
          exact (World.sameEntries_setStore entries).trans
            (inductionHypothesis _ _)
      | queued after => exact fun _ => rfl
  | generate model request resume inductionHypothesis =>
      simp only [upTo, run]
      split
      · exact inductionHypothesis _ _
      · exact fun _ => rfl

section Locks

variable {σ : Type} {owner : Owner} {id : StoreId}

/-- Who alone uses the locks does so after an action. -/
theorem usedBy_perform
    {world : World σ}
    (used : (world.stores id).UsedBy owner)
    (action : Action) :
    ((world.perform owner action).2.stores id).UsedBy owner := by
  have replaced : ∀ (other : StoreId) (after : Store),
      (∀ lock ∈ after.locks, lock ∈ (world.stores other).locks) ->
        ((world.setStore other after).stores id).UsedBy owner := by
    intro other after fewer
    by_cases same : id = other
    · subst same
      rw [World.stores_setStore_self]
      exact used.of_subset fewer
    · rw [World.stores_setStore_of_ne world same]
      exact used
  cases action with
  | keys store => exact used
  | read store key => exact used
  | register store key initial =>
      exact replaced store _ (Store.locks_register _ _ _ _)
  | modify store key change =>
      exact replaced store _ (Store.locks_modify _ _ _ _)
  | commit store entry => exact replaced store _ (Store.locks_commit _ _ _)
  | unlock store key =>
      by_cases same : id = store
      · subst same
        change ((world.setStore id _).stores id).UsedBy owner
        rw [World.stores_setStore_self]
        exact used.releaseLock
      · change ((world.setStore store _).stores id).UsedBy owner
        rw [World.stores_setStore_of_ne world same]
        exact used
  | program optimizer =>
      change ((world.useProgram optimizer).2.stores id).UsedBy owner
      unfold World.useProgram
      cases world.programs optimizer.id with
      | some program => exact used
      | none => cases optimizer.buildProgram <;> exact used
  | notify event => exact used

/-- Whoever runs alone shares no lock with anybody. -/
theorem usedBy_run
    {α : Type}
    (host : ModelHost σ)
    (limit : Nat)
    (activity : Activity α)
    {world : World σ}
    (used : (world.stores id).UsedBy owner) :
    (((activity.run host owner limit world).2.abandon owner).stores
      id).Unlocked := by
  induction activity generalizing world with
  | done result => exact used.releaseAll
  | act action resume inductionHypothesis =>
      exact inductionHypothesis _ (usedBy_perform used action)
  | lock store key resume inductionHypothesis =>
      simp only [run]
      cases request : (world.stores store).requestLock owner key with
      | refused reason => exact inductionHypothesis _ used
      | granted after =>
          refine inductionHypothesis _ ?_
          by_cases same : id = store
          · subst same
            rw [World.stores_setStore_self]
            exact used.requestLock (.inl request)
          · rw [World.stores_setStore_of_ne world same]
            exact used
      | queued after => exact (used.releaseAll.usedBy owner).releaseAll
  | generate model request resume inductionHypothesis =>
      simp only [run]
      split
      · exact inductionHypothesis _ used
      · exact (used.releaseAll.usedBy owner).releaseAll

/-- An activity that went alone leaves no lock in use. -/
theorem unlocked_alone
    {α : Type}
    (owner : Owner)
    (count : Nat)
    (activity : Activity α)
    {world : World (List Reply)}
    (unlocked : (world.stores id).Unlocked) :
    ((activity.alone owner count world).stores id).Unlocked :=
  usedBy_run _ _ _ (unlocked.usedBy owner)

end Locks

end Activity
end PromptTuning
