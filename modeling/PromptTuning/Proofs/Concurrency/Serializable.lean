import PromptTuning.Proofs.Concurrency.Proceeding

/-!
# Clients of one store are serializable

Whatever the order of their steps and whoever is dropped on the way, clients
leave the store as their operations would, run one after another in the order of
their commits.
-/

namespace PromptTuning

variable {σ : Type}

/-- An update that replaces the list of predictions. -/
def Operation.Replaces (operation : Operation) : Prop :=
  ∃ key content list,
    operation = .set key content ∧ content.predictions = some list

/-- What clients have done to a store by now, and what they were told of it. -/
structure Serializable (setting : Setting σ) (start : World σ) (pool : Pool σ) :
    Prop where
  /-- The contents are those that the operations leave, one after another. -/
  contents : (pool.world.stores setting.store).contents =
    ((setting.serial start pool.log).stores setting.store).contents
  /-- An operation that was answered runs to its end there: no write of it
  is left out. -/
  whole : ∀ (owner : Owner) (client : Client) (outcome : Response),
    pool.clients[owner]? = some client -> client.outcome? = some outcome ->
      Whole setting start pool.log owner
  /-- Who gets a variable sees what the commits up to some moment after it
  came have left. -/
  seen :
    ∀ (owner : Owner) (client : Client) (key : String) (entry :
      Option Variable),
      pool.clients[owner]? = some client ->
      client.operation = .get key -> client.outcome? = some (.got entry) ->
        ∃ later earlier, pool.log = later ++ earlier ∧
          client.since ≤ earlier.length ∧
          entry.map Variable.undated =
            (((setting.serial start earlier).stores setting.store).find?
              key).map Variable.undated
  /-- Nobody commits without the lock of the key. -/
  locked : ∀ move commit, (pool.step setting move).log = commit :: pool.log ->
    (pool.world.stores setting.store).isHolder commit.client commit.key = true
  /-- From now on, whatever others write to a key that a client has locked comes
  after everything that this client commits to it. -/
  guarded :
    ∀ owner key, (pool.world.stores setting.store).isHolder owner key = true ->
      ∀ moves, ∃ newer, (pool.run setting moves).log = newer ++ pool.log ∧
        newer.Pairwise fun later earlier =>
          later.client = owner -> later.key = key -> earlier.key = key ->
          earlier.client = owner
  /-- The predictions of a key are those that were appended, in the order of
  the commits. -/
  predictions :
    ∀ key entry, (pool.world.stores setting.store).find? key = some entry ->
      Prediction.SameExecutions
        (recorded (setting.initial start key) key pool.log)
        entry.predictions
  /-- A prediction that was appended is in the log once, and is found at the
  index that was returned until an update replaces the list. -/
  placed :
    ∀ (owner : Owner) (client : Client) (key : String) (prediction : Prediction)
        (index : Nat), pool.clients[owner]? = some client ->
      client.operation = .append key prediction ->
      client.outcome? = some (.appended (.ok index)) ->
        ∃ commit later earlier, pool.log = later ++ commit :: earlier ∧
          Placed setting start owner key prediction index commit later earlier ∧
          ((∀ other ∈ later, other.key = key -> ¬other.operation.Replaces) ->
            ∃ entry stored,
              (pool.world.stores setting.store).find? key = some entry ∧
              entry.predictions[index]? = some stored ∧
              prediction.SameExecution stored)

variable
  {setting : Setting σ}
  {start : World σ}
  {pool : Pool σ}

namespace Serialized

/-- Before any client comes, nothing has to be put in order. -/
theorem ofWorld (setting : Setting σ) (start : World σ) :
    Serialized setting start (Pool.ofWorld start) where
  keys := rfl
  contents := rfl
  programs _ := rfl
  serialPrograms := by
    have same : SamePrograms setting start start := fun _ => rfl
    exact same.of_programs_eq rfl
  predictions key entry found := by
    have initial : setting.initial start key = entry.predictions := by
      unfold Setting.initial
      change (start.stores setting.store).find? key = some entry at found
      rw [found]
      rfl
    change Prediction.SameExecutions (setting.initial start key)
      entry.predictions
    rw [initial]
    exact .refl _
  standing owner client found := by
    simp [Pool.ofWorld] at found
  logged := List.forall_mem_nil _
  registered := List.forall_mem_nil _

/-- A move that writes nothing and changes no client but one keeps
the invariant. -/
theorem ofAside
    {world : World σ}
    {clients : List Client}
    (inv : Serialized setting start pool)
    (entries : (world.stores setting.store).entries =
      (pool.world.stores setting.store).entries)
    (programs : world.programs = pool.world.programs)
    (count : pool.clients.length ≤ clients.length)
    (standing : ∀ owner client, clients[owner]? = some client ->
      Standing setting start world pool.log owner client) :
    Serialized setting start ⟨world, clients, pool.log⟩ where
  keys := by
    rw [← inv.keys, Store.keys, Store.keys, entries]
  contents := by
    rw [← inv.contents]
    exact Store.contents_congr entries
  programs := inv.programs.of_programs_eq programs
  serialPrograms := inv.serialPrograms
  predictions key entry found := by
    apply inv.predictions key entry
    rw [Store.find?, ← entries]
    exact found
  standing := standing
  logged commit listed := Nat.lt_of_lt_of_le (inv.logged commit listed) count
  registered := inv.registered

/-- A new client leaves everything in order. -/
theorem begin
    (inv : Serialized setting start pool)
    (distinct : (start.stores setting.store).keys.Nodup)
    (operation : Operation) :
    Serialized setting start (pool.step setting (.begin operation)) := by
  apply inv.ofAside rfl rfl (by simp)
  intro owner client found
  rw [List.getElem?_append] at found
  split at found
  · exact inv.standing owner client found
  · rename_i absent
    obtain ⟨_, rfl⟩ := List.getElem?_eq_some_iff.mp found
    have fresh : ∀ commit ∈ pool.log, commit.client ≠ owner := by
      intro commit listed same
      have known := inv.logged commit listed
      rw [same] at known
      exact absent known
    rw [List.getElem_singleton]
    by_cases writes : ∀ key, operation ≠ .get key
    · have knows : Knows setting pool.world pool.log owner [] :=
        ⟨List.forall_mem_nil _, List.forall_mem_nil _, fresh⟩
      exact .rehearsing (.begin (paired_body distinct writes)) knows
    · obtain ⟨key, rfl⟩ : ∃ key, operation = .get key := by simpa using writes
      exact .getting (Nat.le_refl _) fresh

/-- A client that is dropped leaves everything in order. -/
theorem drop (inv : Serialized setting start pool) (owner : Owner) :
    Serialized setting start (pool.step setting (.drop owner)) := by
  have moves := Pool.moves_step setting pool (.drop owner)
  generalize pool.step setting (.drop owner) = after at moves ⊢
  cases moves with
  | absent => exact inv
  | dropped dropped found =>
      refine inv.ofAside rfl rfl (by simp) ?_
      intro other client at_
      obtain ⟨rfl, rfl⟩ | ⟨different, before⟩ := Pool.getElem?_set_cases at_
      · exact .dropped
      · refine (inv.standing other client before).aside
          ⟨?_, fun _ _ => rfl, .inl ⟨rfl, rfl⟩⟩
        exact fun key holds =>
          Store.isHolder_releaseAll holds (Ne.symm different)

/-- Everything stays in order as time goes on. -/
theorem tick (inv : Serialized setting start pool) (now : Timestamp) :
    Serialized setting start (pool.step setting (.tick now)) := by
  refine inv.ofAside rfl rfl (Nat.le_refl _) ?_
  intro owner client found
  exact (inv.standing owner client found).aside
    ⟨fun _ holds => holds, fun _ _ => rfl, .inl ⟨rfl, rfl⟩⟩

/-- A step of a client leaves everything in order. -/
theorem proceed
    (inv : Serialized setting start pool)
    (unlocked : (start.stores setting.store).Unlocked)
    (owner : Owner) :
    Serialized setting start (pool.step setting (.proceed owner)) := by
  have moves := Pool.moves_step setting pool (.proceed owner)
  generalize pool.step setting (.proceed owner) = after at moves ⊢
  cases moves with
  | idle => exact inv
  | proceeded operation since replies progress found =>
      obtain ⟨present, _⟩ := List.getElem?_eq_some_iff.mp found
      exact (inv.proceeds unlocked found).serialized inv present

/-- Every move keeps the invariant. -/
theorem step
    (inv : Serialized setting start pool)
    (unlocked : (start.stores setting.store).Unlocked)
    (distinct : (start.stores setting.store).keys.Nodup)
    (move : Move) :
    Serialized setting start (pool.step setting move) := by
  cases move with
  | begin operation => exact inv.begin distinct operation
  | proceed owner => exact inv.proceed unlocked owner
  | drop owner => exact inv.drop owner
  | tick now => exact inv.tick now

/-- Any moves leave everything in order. -/
theorem run
    (inv : Serialized setting start pool)
    (unlocked : (start.stores setting.store).Unlocked)
    (distinct : (start.stores setting.store).keys.Nodup)
    (moves : List Move) :
    Serialized setting start (pool.run setting moves) := by
  induction moves generalizing pool with
  | nil => exact inv
  | cons move moves inductionHypothesis =>
      exact inductionHypothesis (inv.step unlocked distinct move)

end Serialized

section Guarded

variable {owner : Owner} {key : String}

/-- How a client stands to a key that it had locked, given what was committed
since then: it holds the lock and nobody else has committed to the key, or it
is through. -/
inductive Guarded (setting : Setting σ) (owner : Owner) (key : String)
    (newer : List Commit)
    (pool : Pool σ) : Prop
  | holding
      (holds : (pool.world.stores setting.store).isHolder owner key = true)
      (own : ∀ commit ∈ newer, commit.key = key -> commit.client = owner)
  | through {client : Client}
      (found : pool.clients[owner]? = some client)
      (finished : client.Over setting)
      (ordered : newer.Pairwise fun later earlier =>
        later.client = owner -> later.key = key -> earlier.key = key ->
        earlier.client = owner)

/-- What the holder of a lock commits is not mixed with commits of others. -/
theorem Guarded.ordered {newer : List Commit}
    (guarded : Guarded setting owner key newer pool) :
    newer.Pairwise fun later earlier =>
      later.client = owner -> later.key = key -> earlier.key = key ->
      earlier.client = owner := by
  cases guarded with
  | holding holds own =>
      exact List.pairwise_of_forall_mem_list fun later _ earlier
          listed _ _ named =>
        own earlier listed named
  | through _ _ ordered => exact ordered

/-- A move may add to the log, and a client that was guarded still is. -/
def Guards (setting : Setting σ) (owner : Owner) (key : String)
    (newer : List Commit)
    (pool after : Pool σ) : Prop :=
  ∃ more, after.log = more ++ pool.log ∧
    Guarded setting owner key (more ++ newer) after

variable {newer : List Commit} {after : Pool σ}

/-- A move that adds nothing to the log. -/
theorem Guarded.quiet
    (guarded : Guarded setting owner key newer pool)
    (log : after.log = pool.log)
    (locks : (pool.world.stores setting.store).isHolder owner key = true ->
      (after.world.stores setting.store).isHolder owner key = true)
    (clients : ∀ client, pool.clients[owner]? = some client ->
      after.clients[owner]? = some client) :
    Guards setting owner key newer pool after := by
  refine ⟨[], log, ?_⟩
  cases guarded with
  | holding holds own => exact .holding (locks holds) own
  | through found finished ordered =>
      exact .through (clients _ found) finished ordered

/-- A step of another client commits elsewhere as long as the lock is held. -/
theorem Guarded.other
    {id : Owner}
    (guarded : Guarded setting owner key newer pool)
    (keys : (pool.world.stores setting.store).keys =
      (start.stores setting.store).keys)
    (different : owner ≠ id)
    (proceeds : Proceeds setting start pool id after) :
    Guards setting owner key newer pool after := by
  have aside := proceeds.aside keys different
  cases proceeds with
  | quiet =>
      refine guarded.quiet rfl (aside.holds key) fun client found => ?_
      dsimp only
      rw [List.getElem?_set_ne different.symm]
      exact found
  | @write _ _ commit _ _ _ _ locked client_eq key_eq =>
      have foreign : commit.client ≠ owner := by
        rw [client_eq]
        exact different.symm
      refine ⟨[commit], rfl, ?_⟩
      cases guarded with
      | holding holds own =>
          refine .holding (aside.holds key holds) fun other listed named => ?_
          obtain rfl | listed := List.mem_cons.mp listed
          · rw [← key_eq, named] at locked
            exact absurd (Store.holder_unique holds locked) different
          · exact own other listed named
      | through found finished ordered =>
          refine .through ?_ finished
            (.cons (fun _ _ same => absurd same foreign) ordered)
          rw [List.getElem?_set_ne different.symm]
          exact found

/-- A step of the client itself keeps the lock, or it is the first step of
letting go. -/
theorem Guarded.own
    (guarded : Guarded setting owner key newer pool)
    (holds : (pool.world.stores setting.store).isHolder owner key = true)
    (own : ∀ commit ∈ newer, commit.key = key -> commit.client = owner)
    (present : owner < pool.clients.length)
    (proceeds : Proceeds setting start pool owner after) :
    Guards setting owner key newer pool after := by
  cases proceeds with
  | quiet _ _ _ kept _ =>
      refine ⟨[], rfl, ?_⟩
      obtain kept | finished := kept
      · exact .holding (kept key holds) own
      · exact .through (by rw [List.getElem?_set_self present])
          finished guarded.ordered
  | @write _ _ commit _ _ _ _ _ client_eq _ _ _ store_eq =>
      refine ⟨[commit], rfl, .holding ?_ fun other listed named => ?_⟩
      · rw [store_eq, Store.isHolder_counting,
          Store.isHolder_of_locks_eq Store.locks_put]
        exact holds
      · obtain rfl | listed := List.mem_cons.mp listed
        · exact client_eq
        · exact own other listed named

/-- Who is through commits nothing more. -/
theorem guards_of_over
    {operation : Operation}
    {since : Nat}
    {replies : List Reply}
    {progress : Progress Response}
    (through : Client.Over setting ⟨operation, since, replies, some progress⟩)
    (ordered : newer.Pairwise fun later earlier =>
      later.client = owner -> later.key = key -> earlier.key = key ->
      earlier.client = owner)
    (present : owner < pool.clients.length) :
    Guards setting owner key newer pool
      (pool.proceed setting owner ⟨operation, since, replies, some progress⟩
        progress) := by
  obtain ⟨left, rfl, closed⟩ := through progress rfl
  cases closed with
  | done fits =>
      rw [Pool.proceed_done]
      refine ⟨[], rfl,
        .through (by rw [List.getElem?_set_self present]) ?_ ordered⟩
      intro progress same
      exact ⟨_, (Option.some.inj same).symm, .done trivial⟩
  | unlock resumed =>
      rw [Pool.proceed_look fun _ _ => rfl]
      refine ⟨[], rfl,
        .through (by rw [List.getElem?_set_self present]) ?_ ordered⟩
      intro progress same
      exact ⟨_, (Option.some.inj same).symm, resumed⟩

/-- No move of anybody brings a foreign commit between a client and its key. -/
theorem Guarded.step
    (guarded : Guarded setting owner key newer pool)
    (inv : Serialized setting start pool)
    (unlocked : (start.stores setting.store).Unlocked)
    (move : Move) :
    Guards setting owner key newer pool (pool.step setting move) := by
  have moves := Pool.moves_step setting pool move
  generalize pool.step setting move = after at moves ⊢
  cases moves with
  | begun operation =>
      refine guarded.quiet rfl (fun holds => holds) fun client found => ?_
      obtain ⟨present, _⟩ := List.getElem?_eq_some_iff.mp found
      rw [List.getElem?_append_left present]
      exact found
  | @proceeded id operation since replies progress found =>
      obtain ⟨present, _⟩ := List.getElem?_eq_some_iff.mp found
      have proceeds := inv.proceeds unlocked found
      by_cases different : owner = id
      case neg => exact guarded.other inv.keys different proceeds
      subst different
      cases guarded with
      | holding holds own =>
          exact (Guarded.holding holds own).own holds own present proceeds
      | through at_ finished ordered =>
          rw [found] at at_
          obtain rfl := Option.some.inj at_
          exact guards_of_over finished ordered present
  | @dropped id client found =>
      by_cases different : owner = id
      · subst different
        obtain ⟨present, _⟩ := List.getElem?_eq_some_iff.mp found
        have dropped : Client.Over setting { client with progress := none } :=
          nofun
        exact ⟨[], rfl,
          .through (by rw [List.getElem?_set_self present]) dropped
            guarded.ordered⟩
      · refine guarded.quiet rfl (fun holds => ?_) fun client at_ => ?_
        · exact Store.isHolder_releaseAll holds fun same => different same.symm
        · rw [List.getElem?_set_ne fun same => different same.symm]
          exact at_
  | _ => exact guarded.quiet rfl (fun holds => holds) fun _ found => found

/-- A lock guards its key until its holder lets go of it. -/
theorem Guarded.run
    (guarded : Guarded setting owner key newer pool)
    (inv : Serialized setting start pool)
    (unlocked : (start.stores setting.store).Unlocked)
    (distinct : (start.stores setting.store).keys.Nodup)
    (moves : List Move) :
    Guards setting owner key newer pool (pool.run setting moves) := by
  induction moves generalizing pool newer with
  | nil => exact ⟨[], rfl, guarded⟩
  | cons move moves inductionHypothesis =>
      obtain ⟨first, logFirst, guarded⟩ := guarded.step inv unlocked move
      obtain ⟨rest, logRest, guarded⟩ :=
        inductionHypothesis guarded (inv.step unlocked distinct move)
      refine ⟨rest ++ first, ?_, ?_⟩
      · rw [Pool.run_cons, logRest, logFirst, List.append_assoc]
      · rw [List.append_assoc]
        exact guarded

end Guarded

section Answers

variable {owner : Owner} {client : Client}

/-- Whatever a client is answered fits what is in the log, where nothing of it
is missing. -/
theorem Serialized.faithful
    {outcome : Response}
    (inv : Serialized setting start pool)
    (unlocked : (start.stores setting.store).Unlocked)
    (found : pool.clients[owner]? = some client)
    (answered : client.outcome? = some outcome) :
    Faithful setting start pool.log owner client.operation
      client.since outcome ∧
      Whole setting start pool.log owner := by
  have standing := inv.standing owner client found
  obtain ⟨operation, since, replies, progress⟩ := client
  have ended : progress = some (.active (.done outcome)) := by
    unfold Client.outcome? at answered
    split at answered
    · rename_i through
      obtain rfl := Option.some.inj answered
      exact through
    · contradiction
  subst ended
  cases standing with
  | rehearsing rehearsed knows =>
      obtain ⟨right, reached, rehearsal⟩ :=
        rehearsed.instantiate inv unlocked knows.has
      cases rehearsal.paired with
      | writing writing =>
          cases writing with
          | closed closed =>
              cases closed with
              | done plain => exact ⟨.ofPlain plain, .ofUnlogged knows.unlogged⟩
  | writing writing _ _ _ _ _ pending =>
      cases writing with
      | closed closed => exact absurd closed pending
  | spent closed whole =>
      cases closed with
      | done fits => exact ⟨fits, whole⟩

/-- An operation that does not replace predictions keeps them as its
first ones. -/
theorem Operation.isPrefix_records
    {operation : Operation}
    (kept : ¬operation.Replaces)
    (list : List Prediction) :
    list <+: operation.records list := by
  cases operation with
  | append key prediction => exact List.prefix_append list [prediction]
  | set key content =>
      cases replaced : content.predictions with
      | none =>
          simp only [records, replaced, Option.getD_none]
          exact List.prefix_rfl
      | some other => exact absurd ⟨key, content, other, rfl, replaced⟩ kept
  | attach key index reward => exact List.prefix_rfl
  | get key => exact List.prefix_rfl
  | optimize id key reward => exact List.prefix_rfl
  | finalize key => exact List.prefix_rfl
  | build id => exact List.prefix_rfl

/-- A list of predictions only grows while no update replaces it. -/
theorem isPrefix_recorded
    {initial : List Prediction}
    {key : String}
    {later : List Commit}
    (kept : ∀ other ∈ later, other.key = key -> ¬other.operation.Replaces)
    (earlier : List Commit) :
    recorded initial key earlier <+:
      recorded initial key (later ++ earlier) := by
  induction later with
  | nil => exact List.prefix_rfl
  | cons commit later inductionHypothesis =>
      have grows :=
        inductionHypothesis fun other listed => kept other (.tail _ listed)
      rw [List.cons_append, recorded]
      split
      · rename_i named
        exact grows.trans
          (Operation.isPrefix_records (kept commit List.mem_cons_self named) _)
      · exact grows

/-- The place of an appended prediction is kept until an update
replaces the list. -/
theorem exists_stored_of_placed
    {key : String}
    {prediction : Prediction}
    {index : Nat}
    {commit : Commit}
    {later earlier : List Commit}
    (inv : Serialized setting start pool)
    (split : pool.log = later ++ commit :: earlier)
    (placed :
      Placed setting start owner key prediction index commit later earlier)
    (kept : ∀ other ∈ later, other.key = key -> ¬other.operation.Replaces) :
    ∃ entry stored, (pool.world.stores setting.store).find? key = some entry ∧
      entry.predictions[index]? = some stored ∧
      prediction.SameExecution stored := by
  have listed : commit ∈ pool.log := by
    rw [split]
    exact List.mem_append_right _ List.mem_cons_self
  have registered := inv.registered commit listed
  rw [placed.named, ← inv.keys] at registered
  obtain ⟨entry, found, _⟩ := Store.has_of_mem_keys registered
  have same := inv.predictions key entry found
  have grows : recorded (setting.initial start key) key (commit :: earlier) <+:
      recorded (setting.initial start key) key (later ++ commit :: earlier) :=
    isPrefix_recorded kept (commit :: earlier)
  obtain ⟨rest, grown⟩ := grows
  rw [recorded, if_pos placed.named, placed.operation, Operation.records,
    ← split] at grown
  have counted := same.length_eq
  rw [← grown] at counted same
  have within : index < entry.predictions.length := by
    rw [placed.index, ← counted]
    simp
  have listed :
      index <
        (recorded (setting.initial start key) key earlier ++ [prediction] ++
          rest).length := counted.symm ▸ within
  have stored := same.get listed within
  refine ⟨entry, entry.predictions[index], found,
    List.getElem?_eq_getElem within, ?_⟩
  simpa [placed.index] using stored

end Answers

/-- Whoever commits holds the lock of the key. -/
theorem Serialized.locked
    {move : Move}
    {commit : Commit}
    (inv : Serialized setting start pool)
    (unlocked : (start.stores setting.store).Unlocked)
    (logged : (pool.step setting move).log = commit :: pool.log) :
    (pool.world.stores setting.store).isHolder commit.client commit.key =
      true := by
  have longer : pool.log ≠ commit :: pool.log := by
    intro same
    simpa using congrArg List.length same
  have moves := Pool.moves_step setting pool move
  generalize pool.step setting move = after at moves logged
  cases moves with
  | proceeded operation since replies progress found =>
      have proceeds := inv.proceeds unlocked found
      generalize pool.proceed setting _ _ progress = after at proceeds logged
      cases proceeds with
      | quiet => exact absurd logged longer
      | write has locked client_eq key_eq =>
          obtain ⟨rfl, _⟩ := List.cons.inj logged
          rw [client_eq, key_eq]
          exact locked
  | _ => exact absurd logged longer

/-- Clients of one store, however their steps are ordered and whoever is dropped
wherever it stands, do to the store what their operations do one after another,
in the order of their commits and on the same replies. What a client gets lies
between two commits, nobody overwrites what others write to a key during a pass
over it, and no appended prediction is lost or recorded twice. -/
theorem run_serializable
    (setting : Setting σ)
    {start : World σ}
    (unlocked : (start.stores setting.store).Unlocked)
    (distinct : (start.stores setting.store).keys.Nodup)
    (moves : List Move) :
    Serializable setting start ((Pool.ofWorld start).run setting moves) := by
  have inv :
      Serialized setting start ((Pool.ofWorld start).run setting moves) :=
    (Serialized.ofWorld setting start).run unlocked distinct moves
  generalize (Pool.ofWorld start).run setting moves = pool at inv
  refine ⟨inv.contents, ?_, ?_, fun _ _ => inv.locked unlocked, ?_,
    inv.predictions, ?_⟩
  · intro owner client outcome found answered
    exact (inv.faithful unlocked found answered).2
  · intro owner client key entry found asked answered
    obtain ⟨⟨again, later, earlier, same, split, come, seen⟩, _⟩ :=
      inv.faithful unlocked found answered
    rw [asked] at same
    obtain rfl := Operation.get.inj same
    exact ⟨later, earlier, split, come, seen⟩
  · intro owner key holds later
    have guarded : Guarded setting owner key [] pool :=
      .holding holds (List.forall_mem_nil _)
    obtain ⟨newer, logged, guarded⟩ := guarded.run inv unlocked distinct later
    rw [List.append_nil] at guarded
    exact ⟨newer, logged, guarded.ordered⟩
  · intro owner client key prediction index found asked answered
    obtain ⟨⟨again, other, commit, later, earlier, same, split, placed⟩, _⟩ :=
      inv.faithful unlocked found answered
    rw [asked] at same
    obtain ⟨rfl, rfl⟩ := Operation.append.inj same
    exact ⟨commit, later, earlier, split, placed,
      exists_stored_of_placed inv split placed⟩

/-- Two appends to one key, the second of which has to wait, and a reader
in between. -/
theorem run_serializable_of_waiting_append :
    let setting : Setting Unit :=
      ⟨⟨fun _ _ => 0, fun _ _ state => (.error (.response "busy"), state)⟩, 0,
        fun id => .standard id none⟩
    let start : World Unit :=
      ⟨fun _ => ⟨1, [Variable.create "qa" default], [], false, Nat.one_pos⟩,
        fun _ => none, (), ⟨[], []⟩,
        0, default⟩
    let moves : List Move :=
      [.begin (.append "qa" (.unscored [] [])),
        .begin (.append "qa" (.unscored [] [])), .begin (.get "qa"), .proceed 0,
        .proceed 1, .proceed 0, .proceed 2, .proceed 0, .proceed 1, .proceed 1,
        .proceed 1]
    let pool := (Pool.ofWorld start).run setting moves
    (start.stores setting.store).Unlocked ∧
      (start.stores setting.store).keys.Nodup ∧
      Serializable setting start pool ∧ pool.log.map (·.client) = [1, 0] := by
  intro setting start moves pool
  have unlocked : (start.stores setting.store).Unlocked := nofun
  have distinct : (start.stores setting.store).keys.Nodup := by decide +kernel
  have committed : pool.log.map (·.client) = [1, 0] := by decide +kernel
  exact ⟨unlocked, distinct, run_serializable setting unlocked distinct moves,
    committed⟩

end PromptTuning
