import PromptTuning.Proofs.Concurrency.Rehearsal

/-!
# Where clients stand

A client is dropped, about to read, rehearsing before its first write, going on
to write under the locks of all keys, or through but for its locks. What others
do leaves each of them where it stands, because nobody writes to a key without
its lock.
-/

namespace PromptTuning

variable {σ : Type}

section Standing

variable (setting : Setting σ) (start : World σ)

/-- The predictions of a key at the start. -/
def Setting.initial (key : String) : List Prediction :=
  ((start.stores setting.store).find? key).elim [] (·.predictions)

/-- The append of a client is in the log once, and its place is where the list
ended then. -/
structure Placed
    (owner : Owner)
    (key : String)
    (prediction : Prediction)
    (index : Nat)
    (commit : Commit)
    (later earlier : List Commit) : Prop where
  client : commit.client = owner
  operation : commit.operation = .append key prediction
  named : commit.key = key
  once : ∀ other ∈ later ++ earlier, other.client ≠ owner
  index : index = (recorded (setting.initial start key) key earlier).length

/-- What a client may be answered, given what is in the log by then. -/
def Faithful (log : List Commit) (owner : Owner) (operation : Operation)
    (since : Nat) :
    Response -> Prop
  | .appended (.ok index) =>
      ∃ key prediction commit later earlier,
        operation = .append key prediction ∧
        log = later ++ commit :: earlier ∧
        Placed setting start owner key prediction index commit later earlier
  | .got entry =>
      ∃ key later earlier, operation = .get key ∧ log = later ++ earlier ∧
        since ≤ earlier.length ∧
        entry.map Variable.undated =
          (((setting.serial start earlier).stores setting.store).find? key).map
            Variable.undated
  | _ => True

/-- The operation of a client has no write left that is not in the log: run on
alone, it comes to the same. -/
def Whole (log : List Commit) (owner : Owner) : Prop :=
  ∀ later committed rest, Committed.grouped log = later ++ committed :: rest ->
    committed.last.client = owner -> ∀ more,
      setting.replay ⟨committed.last, committed.writes + more⟩
        (setting.replayAll start rest) =
        setting.replay committed (setting.replayAll start rest)

/-- Alone after the operations committed before it, an operation stands before
its next write where the contents are as they are here. -/
structure Replays
    (world : World σ)
    (log : List Commit)
    (owner : Owner)
    (operation : Operation)
    (replies : List Reply)
    (right : Activity Response)
    (reached : World (List Reply)) : Prop where
  contents :
    (reached.stores setting.store).contents =
      (world.stores setting.store).contents
  programs : SamePrograms setting start reached
  first : ∀ committed ∈ (Committed.opened owner (Committed.grouped log)).2,
    committed.last.client ≠ owner
  same : ∀ more, (setting.body operation).alone owner
      ((Committed.opened owner (Committed.grouped log)).1 + more)
      ((setting.replayAll start
        (Committed.opened owner (Committed.grouped log)).2).withModels
        replies) = right.alone owner more reached

/-- What a client that has written nothing yet knows: the variables whose
locks it holds. -/
structure Knows (world : World σ) (log : List Commit) (owner : Owner)
    (known : List Variable) : Prop where
  holds :
    ∀ value ∈ known,
      (world.stores setting.store).isHolder owner value.key = true
  has : ∀ value ∈ known, (world.stores setting.store).Has value
  unlogged : ∀ commit ∈ log, commit.client ≠ owner

/-- Where a client stands. -/
inductive Standing (world : World σ) (log : List Commit) (owner : Owner) :
    Client -> Prop
  | dropped {operation : Operation} {since : Nat} {replies : List Reply} :
      Standing world log owner ⟨operation, since, replies, none⟩
  | getting {key : String} {since : Nat} {replies : List Reply}
      (come : since ≤ log.length)
      (unlogged : ∀ commit ∈ log, commit.client ≠ owner) :
      Standing world log owner
        ⟨.get key, since, replies, some (.active (setting.body (.get key)))⟩
  | rehearsing {operation : Operation} {since : Nat} {replies : List Reply}
      {known : List Variable} {left : Activity Response}
      (rehearsed : Rehearsed setting start owner operation replies known left)
      (knows : Knows setting world log owner known) :
      Standing world log owner ⟨operation, since, replies, some (.active left)⟩
  | waiting {operation : Operation} {since : Nat} {replies : List Reply}
      {known : List Variable} {key : String}
      {resume : Except StoreError Unit -> Activity Response}
      (rehearsed : Rehearsed setting start owner operation replies known
        (.lock setting.store key resume))
      (registered : key ∈ (start.stores setting.store).keys)
      (knows : Knows setting world log owner known) :
      Standing world log owner
        ⟨operation, since, replies, some (.waiting setting.store key resume)⟩
  | writing {operation : Operation} {since : Nat} {replies : List Reply}
      {held : List String} {known : List Variable}
      {left right : Activity Response} {reached : World (List Reply)}
      (writing : Writing setting (start.stores setting.store).keys operation
        held known left right)
      (replays : Replays setting start world log owner operation
        replies right reached)
      (holds :
        ∀ key ∈ held, (world.stores setting.store).isHolder owner key = true)
      (has : ∀ value ∈ known, (world.stores setting.store).Has value)
      (within : ∀ value ∈ known, value.key ∈ held)
      (covers : (start.stores setting.store).keys ⊆ held)
      (pending : ¬left.Closed setting.store Response.IsPlain) :
      Standing world log owner ⟨operation, since, replies, some (.active left)⟩
  | spent {operation : Operation} {since : Nat} {replies : List Reply}
      {left : Activity Response}
      (closed : left.Closed setting.store
        (Faithful setting start log owner operation since))
      (whole : Whole setting start log owner) :
      Standing world log owner ⟨operation, since, replies, some (.active left)⟩

/-- What a move of others does to a client: they take no lock from it, write to
no key whose lock it holds, and commit only under the lock of a key. -/
structure Aside (world after : World σ) (log logged : List Commit)
    (owner : Owner) : Prop where
  holds : ∀ key, (world.stores setting.store).isHolder owner key = true ->
    (after.stores setting.store).isHolder owner key = true
  kept : ∀ key, (world.stores setting.store).isHolder owner key = true ->
    (after.stores setting.store).find? key =
      (world.stores setting.store).find? key
  commits : logged = log ∧
      (after.stores setting.store).contents =
        (world.stores setting.store).contents ∨
    ∃ commit : Commit, logged = commit :: log ∧ commit.client ≠ owner ∧
      commit.key ∈ (start.stores setting.store).keys ∧
      (world.stores setting.store).isHolder commit.client commit.key = true

end Standing

variable
  {setting : Setting σ}
  {start world after : World σ}
  {log logged : List Commit}
  {owner : Owner}

/-- A commit of another client leaves an outcome as faithful as it was. -/
theorem Faithful.cons
    {operation : Operation}
    {since : Nat}
    {outcome : Response}
    (faithful : Faithful setting start log owner operation since outcome)
    {commit : Commit}
    (other : commit.client ≠ owner) :
    Faithful setting start (commit :: log) owner operation since outcome := by
  unfold Faithful at faithful ⊢
  split at faithful
  case h_1 index =>
      obtain ⟨key, prediction, own, later, earlier, asked, split, placed⟩ :=
        faithful
      refine ⟨key, prediction, own, commit :: later, earlier, asked,
        by rw [split]; rfl, placed.client,
        placed.operation, placed.named, ?_, placed.index⟩
      intro listed among
      obtain rfl | among := List.mem_cons.mp among
      · exact other
      · exact placed.once listed among
  case h_2 entry =>
      obtain ⟨key, later, earlier, asked, split, come, seen⟩ := faithful
      exact ⟨key, commit :: later, earlier, asked,
        by rw [split]; rfl, come, seen⟩
  case h_3 => trivial

/-- An outcome that promises nothing about the log is faithful to any log. -/
theorem Faithful.ofPlain
    {operation : Operation}
    {since : Nat}
    {outcome : Response}
    (plain : outcome.IsPlain) :
    Faithful setting start log owner operation since outcome := by
  cases outcome with
  | appended result =>
      cases result with
      | error reason => trivial
      | ok index => exact plain.elim
  | got entry => exact plain.elim
  | attached result => trivial
  | updated result => trivial
  | optimized result => trivial
  | finalized result => trivial
  | built result => trivial

/-- A client without a commit has no operation that could be half done. -/
theorem Whole.ofUnlogged (unlogged : ∀ commit ∈ log, commit.client ≠ owner) :
    Whole setting start log owner := by
  intro later committed rest split own
  have listed : committed ∈ Committed.grouped log := by
    rw [split]
    exact List.mem_append_right _ List.mem_cons_self
  exact absurd own (unlogged _ (Committed.last_mem_of_mem_grouped listed))

/-- What others commit does not reopen the operation of a client. -/
theorem Whole.cons
    (whole : Whole setting start log owner)
    {commit : Commit}
    (other : commit.client ≠ owner) :
    Whole setting start (commit :: log) owner := by
  intro later committed rest split own
  cases later with
  | nil =>
      obtain ⟨rfl, _⟩ := List.cons.inj split
      exact absurd own other
  | cons latest later =>
      obtain ⟨_, split⟩ := List.cons.inj split
      obtain ⟨front, ending⟩ :=
        Committed.opened_suffix commit.client (Committed.grouped log)
      have within :
          Committed.grouped log = front ++ later ++ committed :: rest := by
        rw [← ending, split, List.append_assoc]
        rfl
      exact whole (front ++ later) committed rest within own

/-- What others do beside a client adds no commit of the client. -/
theorem unlogged_of_aside
    (unlogged : ∀ commit ∈ log, commit.client ≠ owner)
    (aside : Aside setting start world after log logged owner) :
    ∀ commit ∈ logged, commit.client ≠ owner := by
  intro commit listed
  obtain ⟨rfl, _⟩ | ⟨_, rfl, other, _⟩ := aside.commits
  · exact unlogged commit listed
  · obtain rfl | listed := List.mem_cons.mp listed
    · exact other
    · exact unlogged commit listed

/-- What a client read under its locks stays true while others
work beside it. -/
theorem Knows.aside
    {known : List Variable}
    (knows : Knows setting world log owner known)
    (aside : Aside setting start world after log logged owner) :
    Knows setting after logged owner known where
  holds value kept := aside.holds _ (knows.holds value kept)
  has value
    kept :=
    (knows.has value kept).of_find?_eq (aside.kept _ (knows.holds value kept))
  unlogged := unlogged_of_aside knows.unlogged aside

/-- A client stands where it stood, whatever others do. -/
theorem Standing.aside
    {client : Client}
    (standing : Standing setting start world log owner client)
    (aside : Aside setting start world after log logged owner) :
    Standing setting start after logged owner client := by
  cases standing with
  | dropped => exact .dropped
  | getting come unlogged =>
      refine .getting (Nat.le_trans come ?_) (unlogged_of_aside unlogged aside)
      obtain ⟨rfl, _⟩ | ⟨_, rfl, _⟩ := aside.commits
      · exact Nat.le_refl _
      · exact Nat.le_succ _
  | rehearsing rehearsed knows =>
      exact .rehearsing rehearsed (knows.aside aside)
  | waiting rehearsed registered knows =>
      exact .waiting rehearsed registered (knows.aside aside)
  | writing writing replays holds has within covers pending =>
      obtain ⟨rfl, contents⟩ | ⟨commit, _, other, stored, locked⟩ :=
        aside.commits
      · refine .writing writing
          ⟨replays.contents.trans contents.symm, replays.programs,
            replays.first, replays.same⟩
          (fun key listed => aside.holds key (holds key listed)) ?_
          within covers pending
        intro value kept
        exact (has value kept).of_find?_eq
          (aside.kept _ (holds _ (within value kept)))
      · exact absurd (Store.holder_unique locked (holds _ (covers stored)))
          other
  | spent closed whole =>
      obtain ⟨rfl, _⟩ | ⟨commit, rfl, other, _⟩ := aside.commits
      · exact .spent closed whole
      · exact .spent (closed.imp fun response faithful => faithful.cons other)
          (whole.cons other)

end PromptTuning
