import PromptTuning.Concurrency.Progress
import PromptTuning.Optimizer.Optimize

/-!
# Clients of one store

Any number of clients work on one store, each on one operation. They take their
steps in any order, one indivisible action at a time, and each may be dropped
wherever it stands. A log keeps what was committed, the latest first. While a
store is in service, variables are also registered, committed whole and restored
between the steps of its clients.
-/

namespace PromptTuning

variable {σ : Type}

/-- What a language model answers. -/
abbrev Reply := Except LanguageModelError Value

/-- What a client of a store asks for. -/
inductive Operation
  | append (key : String) (prediction : Prediction)
  | attach (key : String) (index : Nat) (reward : Double)
  | set (key : String) (content : VariableUpdate)
  | get (key : String)
  | optimize (optimizer : OptimizerId) (key : String) (reward : Double)
  | finalize (key : String)
  | build (optimizer : OptimizerId)

/-- What a client is answered. -/
inductive Response
  | appended (result : Except StoreError Nat)
  | attached (result : Except StoreError Unit)
  | updated (result : Except StoreError Variable)
  | got (result : Option Variable)
  | optimized (result : Except OptimizationError OptimizeReport)
  | finalized (result : Except OptimizationError Unit)
  | built (result : Except OptimizationError Unit)

/-- What clients work with: the language models, the store and the
optimizers. -/
structure Setting (σ : Type) where
  host : ModelHost σ
  store : StoreId
  optimizers : OptimizerId -> Optimizer

namespace Setting

/-- The optimizer of a number, which tells its program apart from all others. -/
def optimizer (setting : Setting σ) (id : OptimizerId) : Optimizer :=
  { setting.optimizers id with id := id }

/-- What a client does for an operation. -/
def body (setting : Setting σ) : Operation -> Activity Response
  | .append key prediction =>
      (Activity.append setting.store key prediction).bind fun result =>
        .done (.appended result)
  | .attach key index reward =>
      (Activity.attach setting.store key index reward).bind fun result =>
        .done (.attached result)
  | .set key content =>
      (Activity.update setting.store key content).bind fun result =>
        .done (.updated result)
  | .get key => .act (.read setting.store key) fun entry => .done (.got entry)
  | .optimize id key reward =>
      ((setting.optimizer id).optimizeStored setting.store key
        reward).bind fun result =>
        .done (.optimized result)
  | .finalize key =>
      (Optimizer.finalizeStored setting.store key).bind fun result =>
        .done (.finalized result)
  | .build id =>
      ((setting.optimizer id).buildStored setting.store).bind fun result =>
        .done (.built result)

end Setting

namespace Exchange

/-- The reply of a language model. -/
def reply? : Exchange -> Option Reply
  | .acted _ _ _ => none
  | .replied _ _ reply => some reply

/-- The key that was written to. -/
def written? : Exchange -> Option String
  | .acted _ (.commit _ entry) _ => some entry.key
  | .acted _ (.modify _ key _) (.ok _) => some key
  | _ => none

end Exchange

/-- A client: its operation, the replies it got, and how far it is; none
once dropped. -/
structure Client where
  operation : Operation
  /-- The number of commits before it came. -/
  since : Nat
  /-- The replies of the language models, oldest first. -/
  replies : List Reply
  progress : Option (Progress Response)

namespace Client

/-- The answer of a client that is through. -/
def outcome? (client : Client) : Option Response :=
  match client.progress with
  | some (.active (.done outcome)) => some outcome
  | _ => none

end Client

/-- A committed write to one key: whose it was, and on which replies. -/
structure Commit where
  client : Owner
  operation : Operation
  replies : List Reply
  key : String

/-- Clients at work in a world. -/
structure Pool (σ : Type) where
  world : World σ
  /-- The clients; each is known by its place. -/
  clients : List Client
  /-- What was committed, the latest first. -/
  log : List Commit

/-- What happens next. -/
inductive Move
  | begin (operation : Operation)
  | proceed (client : Owner)
  | drop (client : Owner)
  | tick (now : Timestamp)

/-- What happens next to a store in service. -/
inductive Turn
  | move (move : Move)
  | register (key : String) (initial : Option Instructions)
  | replace (entry : Variable)
  | restore (document : Json)

namespace Pool

/-- A pool before any client comes. -/
def ofWorld (world : World σ) : Pool σ :=
  ⟨world, [], []⟩

/-- A client takes one step. -/
def proceed
    (setting : Setting σ)
    (pool : Pool σ)
    (id : Owner)
    (client : Client)
    (progress : Progress Response) :
    Pool σ :=
  let told := progress.exchanged setting.host id pool.world
  let replies := client.replies ++ told.filterMap Exchange.reply?
  let commits := (told.filterMap Exchange.written?).map fun key =>
    ⟨id, client.operation, replies, key⟩
  { world := (progress.step setting.host id pool.world).2
    clients := pool.clients.set id
      ⟨client.operation, client.since, replies,
        some (progress.step setting.host id pool.world).1⟩
    log := commits ++ pool.log }

/-- What a move does; a move of a client that is not there does nothing. -/
def step (setting : Setting σ) (pool : Pool σ) : Move -> Pool σ
  | .begin operation =>
      { pool with
        clients := pool.clients ++
          [⟨operation, pool.log.length, [],
            some (.active (setting.body operation))⟩] }
  | .proceed id =>
      match pool.clients[id]? with
      | some ⟨operation, since, replies, some progress⟩ =>
          pool.proceed setting id ⟨operation, since, replies, some progress⟩
            progress
      | _ => pool
  | .drop id =>
      match pool.clients[id]? with
      | some client =>
          { pool with
            world := pool.world.abandon id
            clients := pool.clients.set id { client with progress := none } }
      | none => pool
  | .tick now => { pool with world := { pool.world with now := now } }

/-- What several moves do, one after another. -/
def run (setting : Setting σ) (moves : List Move) (pool : Pool σ) : Pool σ :=
  moves.foldl (step setting) pool

/-- The pool with the store of its clients replaced. -/
def withStore (setting : Setting σ) (pool : Pool σ) (store : Store) : Pool σ :=
  { pool with world := pool.world.setStore setting.store store }

/-- What a turn does; a document that is refused does nothing. -/
def take (setting : Setting σ) (pool : Pool σ) : Turn -> Pool σ
  | .move move => pool.step setting move
  | .register key initial =>
      pool.withStore setting
        ((pool.world.stores setting.store).register key initial
          pool.world.now).2
  | .replace entry =>
      pool.withStore setting
        ((pool.world.stores setting.store).commit entry pool.world.now)
  | .restore document =>
      match (pool.world.stores setting.store).restore document with
      | .error _ => pool
      | .ok (_, restored) => pool.withStore setting restored

/-- What several turns do, one after another. -/
def serve (setting : Setting σ) (turns : List Turn) (pool : Pool σ) : Pool σ :=
  turns.foldl (take setting) pool

end Pool

namespace Setting

variable (setting : Setting σ) (start : World σ) (capacity : Nat)
  (turns : List Turn)

/-- The clients and their world after turns at a store that was empty. -/
def serving : Pool σ :=
  (Pool.ofWorld (start.setStore setting.store (.withCapacity capacity))).serve
    setting turns

/-- The store after turns at a store that was empty. -/
def reached : Store :=
  (setting.serving start capacity turns).world.stores setting.store

end Setting
end PromptTuning
