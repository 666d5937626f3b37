import PromptTuning.Proofs.Concurrency.Standing

/-!
# What a step of a client can be

The invariant of clients at work says that the store contains what their
operations would leave, run one after another, and where each client stands. A
step of a client writes nothing, or writes to one key under its lock just as the
operation would alone. The invariant follows from that, and so does what others
see of the step.
-/

namespace PromptTuning

variable {σ : Type}

namespace Client

/-- A client that is dropped or has only locks to let go of. -/
def Over (setting : Setting σ) (client : Client) : Prop :=
  ∀ progress, client.progress = some progress ->
    ∃ left, progress = .active left ∧ left.Closed setting.store fun _ => True

end Client

section Invariant

variable (setting : Setting σ) (start : World σ)

/-- What holds of clients at every moment. -/
structure Serialized (pool : Pool σ) : Prop where
  keys :
    (pool.world.stores setting.store).keys = (start.stores setting.store).keys
  contents : (pool.world.stores setting.store).contents =
    ((setting.serial start pool.log).stores setting.store).contents
  programs : SamePrograms setting start pool.world
  serialPrograms : SamePrograms setting start (setting.serial start pool.log)
  predictions :
    ∀ key entry, (pool.world.stores setting.store).find? key = some entry ->
      Prediction.SameExecutions
        (recorded (setting.initial start key) key pool.log)
        entry.predictions
  standing : ∀ owner client, pool.clients[owner]? = some client ->
    Standing setting start pool.world pool.log owner client
  logged : ∀ commit ∈ pool.log, commit.client < pool.clients.length
  registered :
    ∀ commit ∈ pool.log, commit.key ∈ (start.stores setting.store).keys

/-- What a step of a client can be: it writes nothing, or it writes to one
key under the lock of that key, and the operations run one after another
write the same. -/
inductive Proceeds (pool : Pool σ) (owner : Owner) : Pool σ -> Prop
  | quiet {world : World σ} {client : Client}
      (entries : (world.stores setting.store).entries =
        (pool.world.stores setting.store).entries)
      (programs : SamePrograms setting start world)
      (others : ∀ other key, other ≠ owner ->
        (pool.world.stores setting.store).isHolder other key = true ->
          (world.stores setting.store).isHolder other key = true)
      (own : (∀ key,
        (pool.world.stores setting.store).isHolder owner key = true ->
        (world.stores setting.store).isHolder owner key = true) ∨
        client.Over setting)
      (standing : Standing setting start world pool.log owner client) :
      Proceeds pool owner ⟨world, pool.clients.set owner client, pool.log⟩
  | write {world : World σ} {client : Client} {commit : Commit}
      {value written counted : Variable}
      (has : (pool.world.stores setting.store).Has value)
      (locked :
        (pool.world.stores setting.store).isHolder owner value.key = true)
      (client_eq : commit.client = owner)
      (key_eq : commit.key = value.key)
      (named : written.key = value.key)
      (leads : commit.operation.Leads value written)
      (store_eq : world.stores setting.store =
        ((pool.world.stores setting.store).put written).counting counted)
      (programs : SamePrograms setting start world)
      (serial : ((setting.serial start (commit :: pool.log)).stores
        setting.store).contents =
        ((pool.world.stores setting.store).put written).contents)
      (serialPrograms : SamePrograms setting start
        (setting.serial start (commit :: pool.log)))
      (standing :
        Standing setting start world (commit :: pool.log) owner client) :
      Proceeds pool owner
        ⟨world, pool.clients.set owner client, commit :: pool.log⟩

end Invariant

variable
  {setting : Setting σ}
  {start : World σ}
  {pool after : Pool σ}
  {owner : Owner}

theorem Operation.records_mono
    (operation : Operation)
    {before after : List Prediction}
    (same : Prediction.SameExecutions before after) :
    Prediction.SameExecutions (operation.records before)
      (operation.records after) := by
  cases operation with
  | append key prediction =>
      exact List.rel_append same (Prediction.SameExecutions.refl [prediction])
  | set key content =>
      cases replaced : content.predictions with
      | none =>
          simp only [records, replaced, Option.getD_none]
          exact same
      | some list =>
          simp only [records, replaced, Option.getD_some]
          exact .refl list
  | attach key index reward => exact same
  | get key => exact same
  | optimize id key reward => exact same
  | finalize key => exact same
  | build id => exact same

namespace Proceeds

/-- A step of a client leaves the others alone. -/
theorem aside
    (proceeds : Proceeds setting start pool owner after)
    (keys : (pool.world.stores setting.store).keys =
      (start.stores setting.store).keys)
    {other : Owner}
    (different : other ≠ owner) :
    Aside setting start pool.world after.world pool.log after.log other := by
  cases proceeds with
  | quiet entries _ others _ _ =>
      refine ⟨fun key holds => others other key different holds,
        fun key _ => ?_, .inl ⟨rfl, Store.contents_congr entries⟩⟩
      rw [Store.find?, Store.find?, entries]
  | @write _ _ _ value _ _ has locked client_eq key_eq named _ store_eq =>
      refine ⟨fun key holds => ?_, fun key holds => ?_,
        .inr ⟨_, rfl, ?_, ?_, ?_⟩⟩
      · rw [store_eq, Store.isHolder_counting,
          Store.isHolder_of_locks_eq Store.locks_put]
        exact holds
      · have elsewhere : key ≠ value.key := by
          rintro rfl
          exact different (Store.holder_unique holds locked)
        rw [store_eq]
        refine Store.find?_put_of_ne ?_ ?_
        · rw [named]
          exact has.contains
        · rw [named]
          exact elsewhere
      · rw [client_eq]
        exact different.symm
      · rw [key_eq, ← keys]
        exact has.mem_keys
      · rw [client_eq, key_eq]
        exact locked

/-- After a step of a client the invariant holds again. -/
theorem serialized
    (inv : Serialized setting start pool)
    (present : owner < pool.clients.length)
    (proceeds : Proceeds setting start pool owner after) :
    Serialized setting start after := by
  have standing : ∀ client,
      Standing setting start after.world after.log owner client ->
      after.clients = pool.clients.set owner client ->
      ∀ other found, after.clients[other]? = some found ->
        Standing setting start after.world after.log other found := by
    intro client own clients other found at_
    rw [clients] at at_
    obtain ⟨rfl, rfl⟩ | ⟨different, before⟩ := Pool.getElem?_set_cases at_
    · exact own
    · exact (inv.standing other found before).aside
        (proceeds.aside inv.keys different)
  cases proceeds with
  | quiet entries programs others own_ own =>
      refine ⟨?_, ?_, programs, inv.serialPrograms, ?_, standing _ own rfl,
        ?_, inv.registered⟩
      · rw [← inv.keys, Store.keys, Store.keys, entries]
      · rw [← inv.contents]
        exact Store.contents_congr entries
      · intro key entry found
        apply inv.predictions key entry
        rw [Store.find?, ← entries]
        exact found
      · intro commit listed
        rw [List.length_set]
        exact inv.logged commit listed
  | @write _ _ commit value written _ has locked client_eq key_eq named leads
      store_eq programs serial
      serialPrograms own =>
      have storedWritten :
          (pool.world.stores setting.store).contains written.key = true := by
        rw [named]
        exact has.contains
      refine ⟨?_, ?_, programs, serialPrograms, ?_, standing _ own rfl, ?_, ?_⟩
      · rw [store_eq, Store.keys_counting, Store.keys_put storedWritten]
        exact inv.keys
      · rw [store_eq, Store.contents_counting, serial]
      · intro key entry found
        rw [store_eq, Store.find?_counting] at found
        by_cases same : key = value.key
        · subst same
          rw [← named, Store.find?_put_self storedWritten] at found
          obtain rfl := Option.some.inj found
          obtain ⟨before, stored, undated⟩ := has
          have earlier := inv.predictions _ before stored
          rw [Variable.view_eq_of_undated_eq Variable.predictions (fun _ => rfl)
            undated] at earlier
          rw [recorded, if_pos key_eq]
          exact (commit.operation.records_mono earlier).trans leads
        · rw [Store.find?_put_of_ne storedWritten
            (by rw [named]; exact same)] at found
          rw [recorded,
            if_neg (by rw [key_eq]; exact fun equal => same equal.symm)]
          exact inv.predictions key entry found
      · intro listed among
        rw [List.length_set]
        obtain rfl | among := List.mem_cons.mp among
        · rw [client_eq]
          exact present
        · exact inv.logged listed among
      · intro listed among
        obtain rfl | among := List.mem_cons.mp among
        · rw [key_eq, ← inv.keys]
          exact has.mem_keys
        · exact inv.registered listed among

end Proceeds

section Serial

/-- Operations that run one after another leave no lock in use. -/
theorem unlocked_replayAll
    (unlocked : (start.stores setting.store).Unlocked)
    (operations : List Committed) :
    ((setting.replayAll start operations).stores setting.store).Unlocked := by
  induction operations with
  | nil => exact unlocked
  | cons committed operations inductionHypothesis =>
      exact Activity.unlocked_alone _ _ _ inductionHypothesis

/-- An operation may run alone wherever the operations before it have ended. -/
theorem Serialized.undisturbed
    (inv : Serialized setting start pool)
    (unlocked : (start.stores setting.store).Unlocked)
    (models : List Reply) :
    Undisturbed setting start []
      ((setting.serial start pool.log).withModels models) where
  keys := by
    rw [← inv.keys]
    exact (Store.keys_eq_of_contents_eq inv.contents).symm
  free key _ lock found :=
    unlocked_replayAll unlocked (Committed.grouped pool.log) lock
      (List.mem_of_find?_eq_some found)
  programs := inv.serialPrograms.of_programs_eq rfl

/-- Where an operation that stands here would stand if it ran alone after
the others. -/
theorem Rehearsed.instantiate
    {operation : Operation}
    {replies : List Reply}
    {known : List Variable}
    {left : Activity Response}
    (rehearsed : Rehearsed setting start owner operation replies known left)
    (inv : Serialized setting start pool)
    (unlocked : (start.stores setting.store).Unlocked)
    (has : ∀ value ∈ known, (pool.world.stores setting.store).Has value) :
    ∃ right reached, Rehearsal setting start owner operation known left right
      ((setting.serial start pool.log).withModels replies) reached [] :=
  rehearsed _ [] (inv.undisturbed unlocked replies)
    (fun value kept => (has value kept).of_contents_eq inv.contents)
    (List.append_nil _).symm

/-- An operation about to write for the first time replays what it rehearsed. -/
theorem Rehearsal.replays
    {operation : Operation}
    {replies : List Reply}
    {known : List Variable}
    {left right : Activity Response}
    {reached : World (List Reply)}
    (rehearsal : Rehearsal setting start owner operation known left right
      ((setting.serial start pool.log).withModels replies) reached [])
    (inv : Serialized setting start pool)
    (unlogged : ∀ commit ∈ pool.log, commit.client ≠ owner) :
    Replays setting start pool.world pool.log owner operation replies
      right reached where
  contents := by
    rw [inv.contents]
    exact Store.contents_congr rehearsal.entries
  programs := rehearsal.standing.programs
  first committed listed := by
    rw [Committed.opened_of_unlogged unlogged] at listed
    exact unlogged _ (Committed.last_mem_of_mem_grouped listed)
  same more := by
    rw [Committed.opened_of_unlogged unlogged, Nat.zero_add]
    exact rehearsal.same more

end Serial

namespace Replays

variable
  {operation : Operation}
  {replies : List Reply}
  {action : Action}
  {resume : action.Answer -> Activity Response}
  {reached : World (List Reply)}

/-- After a write that is logged here, and made alone, an operation
goes on alike. -/
theorem next
    {world : World σ}
    (replays : Replays setting start pool.world pool.log owner operation replies
      (.act action resume) reached)
    (writes : action.writes = true)
    (key : String)
    (contents : ((reached.perform owner action).2.stores
      setting.store).contents =
      (world.stores setting.store).contents)
    (programs : SamePrograms setting start (reached.perform owner action).2) :
    Replays setting start world (⟨owner, operation, replies, key⟩ :: pool.log)
      owner operation replies
      (resume (reached.perform owner action).1)
      (reached.perform owner action).2 where
  contents := contents
  programs := programs
  first committed listed := by
    let commit : Commit := ⟨owner, operation, replies, key⟩
    have own : commit.client = owner := rfl
    rw [Committed.opened_cons own] at listed
    exact replays.first committed listed
  same more := by
    let commit : Commit := ⟨owner, operation, replies, key⟩
    have own : commit.client = owner := rfl
    rw [Committed.opened_cons own, Nat.add_assoc, Nat.add_comm 1 more,
      replays.same (more + 1), Activity.alone_write writes]

theorem serial_write
    (replays : Replays setting start pool.world pool.log owner operation replies
      (.act action resume) reached)
    (writes : action.writes = true)
    (key : String) :
    setting.serial start (⟨owner, operation, replies, key⟩ :: pool.log) =
      (resume (reached.perform owner action).1).alone owner 0
        (reached.perform owner action).2 := by
  rw [← Activity.alone_write writes, ← replays.same (0 + 1)]
  rfl

/-- With its last write in the log, an operation is whole. -/
theorem whole
    {store : StoreId}
    {expected : Response -> Prop}
    (replays : Replays setting start pool.world pool.log owner operation replies
      (.act action resume) reached)
    (writes : action.writes = true)
    (closed : (resume (reached.perform owner action).1).Closed store expected)
    (key : String) :
    Whole setting start (⟨owner, operation, replies, key⟩ :: pool.log)
      owner := by
  intro later committed rest split own
  cases later with
  | nil =>
      obtain ⟨rfl, rfl⟩ := List.cons.inj split
      have replayed : ∀ more, (setting.body operation).alone owner
          ((Committed.opened owner (Committed.grouped pool.log)).1 + 1 + more)
          ((setting.replayAll start (Committed.opened owner
            (Committed.grouped pool.log)).2).withModels replies) =
          (resume (reached.perform owner action).1).alone owner 0
            (reached.perform owner action).2 := by
        intro more
        rw [Nat.add_assoc, Nat.add_comm 1 more, replays.same (more + 1),
          Activity.alone_write writes, closed.alone_eq]
      intro more
      exact (replayed more).trans (replayed 0).symm
  | cons latest later =>
      obtain ⟨_, split⟩ := List.cons.inj split
      refine absurd own (replays.first committed ?_)
      rw [split]
      exact List.mem_append_right _ List.mem_cons_self

end Replays

namespace Proceeds

section Write

variable
  {operation : Operation}
  {since : Nat}
  {replies : List Reply}
  {action : Action}
  {resume : action.Answer -> Activity Response}
  {reached : World (List Reply)}

/-- A write to a held key leaves the contents that it leaves alone. -/
theorem ofWrite
    {world : World σ}
    {client : Client}
    {value written again counted : Variable}
    (replays : Replays setting start pool.world pool.log owner operation replies
      (.act action resume) reached)
    (writes : action.writes = true)
    (has : (pool.world.stores setting.store).Has value)
    (locked : (pool.world.stores setting.store).isHolder owner value.key = true)
    (named : written.key = value.key)
    (leads : operation.Leads value written)
    (store_eq : world.stores setting.store =
      ((pool.world.stores setting.store).put written).counting counted)
    (programs : SamePrograms setting start world)
    (performed : (reached.perform owner action).2.stores setting.store =
      ((reached.stores setting.store).put again).counting counted)
    (undated : written.undated = again.undated)
    (ends : SamePrograms setting start
      ((resume (reached.perform owner action).1).alone owner 0
        (reached.perform owner action).2))
    (standing : Standing setting start world
      (⟨owner, operation, replies, value.key⟩ :: pool.log) owner client) :
    Proceeds setting start pool owner ⟨world, pool.clients.set owner client,
      ⟨owner, operation, replies, value.key⟩ :: pool.log⟩ := by
  have serial := replays.serial_write writes value.key
  have storedWritten :
      (pool.world.stores setting.store).contains written.key = true := by
    rw [named]
    exact has.contains
  refine .write has locked rfl rfl named leads store_eq programs ?_ ?_ standing
  · have unchanged := Activity.sameEntries_alone_zero owner
      (resume (reached.perform owner action).1)
      (reached.perform owner action).2 setting.store
    rw [serial, Store.contents_congr unchanged, performed]
    exact (Store.contents_put_eq replays.contents.symm undated
      storedWritten).symm
  · rw [serial]
    exact ends

/-- A commit of a variable whose lock is held. -/
theorem ofCommit
    {registered held : List String}
    {known : List Variable}
    {entry other : Variable}
    {left right : Unit -> Activity Response}
    {last : Option (Progress Response)}
    (inv : Serialized setting start pool)
    (registered_eq : registered = (start.stores setting.store).keys)
    (writing : Writing setting registered operation held known
      (.act (.commit setting.store entry) left)
      (.act (.commit setting.store other) right))
    (replays : Replays setting start pool.world pool.log owner operation replies
      (.act (.commit setting.store other) right) reached)
    (holds : ∀ key ∈ held,
      (pool.world.stores setting.store).isHolder owner key = true)
    (has : ∀ value ∈ known, (pool.world.stores setting.store).Has value)
    (within : ∀ value ∈ known, value.key ∈ held) :
    Proceeds setting start pool owner
      (pool.proceed setting owner ⟨operation, since, replies, last⟩
        (.active (.act (.commit setting.store entry) left))) := by
  subst registered_eq
  cases writing with
  | closed closed => cases closed
  | @commit _ later value _ _ _ _ kept named same leads fewer covers next =>
      obtain ⟨written, again, committed, performed, namedWritten, predictions,
        undated⟩ :=
        (has value kept).commit_both replays.contents.symm named same
          pool.world.now reached.now
      rw [← World.stores_commit _ owner] at committed performed
      have led : operation.Leads value written := by
        rw [Operation.Leads, predictions]
        exact leads
      have storedWritten :
          (pool.world.stores setting.store).contains written.key = true := by
        rw [namedWritten]
        exact (has value kept).contains
      have programs : SamePrograms setting start
          (reached.perform owner (.commit setting.store other)).2 :=
        replays.programs.of_programs_eq rfl
      rw [Pool.proceed_commit, named]
      refine ofWrite replays rfl (has value kept) (holds _ (within value kept))
        namedWritten led committed
        (inv.programs.of_programs_eq rfl) performed undated
        (programs.alone_writing next) ?_
      by_cases closed : (left ()).Closed setting.store Response.IsPlain
      · exact .spent (closed.imp fun _ => Faithful.ofPlain)
          (replays.whole rfl (next.closed_right closed) value.key)
      · have contents :
            ((reached.perform owner (.commit setting.store other)).2.stores
              setting.store).contents =
            ((pool.world.perform owner (.commit setting.store entry)).2.stores
              setting.store).contents := by
          rw [performed, committed, Store.contents_counting,
            Store.contents_counting]
          exact (Store.contents_put_eq replays.contents.symm undated
            storedWritten).symm
        refine .writing next (replays.next rfl value.key contents programs) ?_
          ?_ ?_ (covers.resolve_left closed)
          closed
        · intro key listed
          rw [committed, Store.isHolder_counting,
            Store.isHolder_of_locks_eq Store.locks_put]
          exact holds key listed
        · intro remaining listed
          obtain ⟨known, different⟩ := fewer remaining listed
          rw [committed]
          exact (has remaining known).put_of_ne storedWritten fun same =>
            different (same.trans namedWritten)
        · exact fun remaining listed =>
            within remaining (fewer remaining listed).1

/-- A client may say of its change what is in the log after it. -/
theorem faithful_of_reports
    {value changed : Variable}
    {outcome : Response}
    (inv : Serialized setting start pool)
    (unlogged : ∀ commit ∈ pool.log, commit.client ≠ owner)
    (has : (pool.world.stores setting.store).Has value)
    (leads : operation.Leads value changed)
    (reports : operation.Reports value.key (.ok changed) outcome) :
    Faithful setting start (⟨owner, operation, replies, value.key⟩ :: pool.log)
      owner operation since
      outcome := by
  obtain plain | ⟨index, rfl⟩ | ⟨entry, rfl⟩ := outcome.isPlain_or
  · exact .ofPlain plain
  · obtain ⟨prediction, _, rfl, equal, counted⟩ := reports
    obtain rfl := Except.ok.inj equal
    obtain ⟨stored, found, undated⟩ := has
    have length := (inv.predictions _ stored found).length_eq
    have lengthAfter := leads.length_eq
    rw [Variable.view_eq_of_undated_eq Variable.predictions (fun _ => rfl)
      undated] at length
    rw [Operation.records, List.length_append,
      List.length_singleton] at lengthAfter
    refine ⟨value.key, prediction, _, [], pool.log, rfl, rfl, rfl, rfl,
      rfl, unlogged, ?_⟩
    omega
  · exact reports.elim

/-- A change of a variable whose lock is held, before any other write. -/
theorem ofModify
    {value : Variable}
    {change : Change}
    {resume : Except StoreError Variable -> Activity Response}
    {last : Option (Progress Response)}
    (inv : Serialized setting start pool)
    (unlogged : ∀ commit ∈ pool.log, commit.client ≠ owner)
    (leads : ∀ stored changed, stored.undated = value.undated ->
      change.apply stored = .ok changed -> operation.Leads value changed)
    (ended : ∀ answer,
      (∀ changed, answer = .ok changed -> operation.Leads value changed) ->
      (resume answer).Closed setting.store (operation.Reports value.key answer))
    (replays : Replays setting start pool.world pool.log owner operation replies
      (.act (.modify setting.store value.key change) resume) reached)
    (locked : (pool.world.stores setting.store).isHolder owner value.key = true)
    (has : (pool.world.stores setting.store).Has value) :
    Proceeds setting start pool owner
      (pool.proceed setting owner ⟨operation, since, replies, last⟩
        (.active (.act (.modify setting.store value.key change) resume))) := by
  obtain ⟨reason, refused⟩ | ⟨stored, changed, undated, applied, modified⟩ :=
    has.modify_eq change pool.world.now
  · rw [Pool.proceed_modify_refused refused]
    refine .quiet (by rw [World.stores_setStore_self])
      (inv.programs.of_programs_eq rfl) ?_
      (.inl ?_)
      (.spent ((ended (.error reason) nofun).imp ?_) (.ofUnlogged unlogged))
    · intro other key _ holds
      rw [World.stores_setStore_self]
      exact holds
    · intro key holds
      rw [World.stores_setStore_self]
      exact holds
    · exact fun _ reports => .ofPlain (Operation.isPlain_of_reports reports)
  · let written : Variable := changed.touch pool.world.now
    have led : operation.Leads value written :=
      leads stored changed undated applied
    have named : written.key = value.key :=
      (Change.key_of_apply applied).trans
        (Variable.view_eq_of_undated_eq Variable.key (fun _ => rfl) undated)
    have hasAgain : (reached.stores setting.store).Has value :=
      has.of_contents_eq replays.contents.symm
    obtain ⟨again, modifiedAgain, undatedAgain⟩ :=
      hasAgain.modify_eq_of_apply undated applied reached.now
    have performed :
        (reached.perform owner
          (.modify setting.store value.key change)).2.stores
          setting.store =
          ((reached.stores setting.store).put again).counting changed := by
      rw [World.stores_modify, modifiedAgain]
    have sameWritten : written.undated = again.undated := by
      rw [undatedAgain]
      rfl
    have ledAgain : operation.Leads value again := by
      rw [Operation.Leads,
        ← Variable.view_eq_of_undated_eq Variable.predictions (fun _ => rfl)
          sameWritten]
      exact led
    have answered :
        (reached.perform owner (.modify setting.store value.key change)).1 =
          .ok again := congrArg Prod.fst modifiedAgain
    have programs : SamePrograms setting start
        (reached.perform owner (.modify setting.store value.key change)).2 :=
      replays.programs.of_programs_eq rfl
    have closed := ended (.ok again) fun other equal => by
      rw [← Except.ok.inj equal]
      exact ledAgain
    rw [← answered] at closed
    rw [Pool.proceed_modify modified]
    refine ofWrite replays rfl has locked named led
      (by rw [World.stores_setStore_self])
      (inv.programs.of_programs_eq rfl) performed sameWritten
      (programs.alone_closed closed)
      (.spent ?_ (replays.whole rfl closed value.key))
    · refine (ended (.ok written) fun other equal => ?_).imp fun outcome =>
        faithful_of_reports inv unlogged has led
      rw [← Except.ok.inj equal]
      exact led

end Write

section Quiet

variable
  {operation : Operation}
  {since : Nat}
  {replies : List Reply}
  {last : Option (Progress Response)}

/-- Who is through lets go of its locks. -/
theorem ofClosed
    {left : Activity Response}
    (inv : Serialized setting start pool)
    (closed : left.Closed setting.store
      (Faithful setting start pool.log owner operation since))
    (whole : Whole setting start pool.log owner) :
    Proceeds setting start pool owner
      (pool.proceed setting owner ⟨operation, since, replies, last⟩
        (.active left)) := by
  cases closed with
  | @done outcome fits =>
      rw [Pool.proceed_done]
      exact .quiet rfl inv.programs (fun _ _ _ holds => holds)
        (.inl fun _ holds => holds)
        (.spent (.done fits) whole)
  | @unlock key resume resumed =>
      have released : (pool.world.perform owner (.unlock setting.store key)).2 =
          pool.world.setStore setting.store
            ((pool.world.stores setting.store).releaseLock owner key) := rfl
      rw [Pool.proceed_look fun _ _ => rfl, released]
      refine .quiet (by rw [World.stores_setStore_self]; rfl)
        (inv.programs.of_programs_eq rfl) ?_
        (.inr ?_) (.spent resumed whole)
      · intro other key different holds
        rw [World.stores_setStore_self]
        exact Store.isHolder_releaseLock holds (.inl different.symm)
      · intro progress same
        exact ⟨resume (), (Option.some.inj same).symm,
          resumed.imp fun _ _ => trivial⟩

/-- Who has written nothing yet looks at something. -/
theorem ofLook
    {action : Action}
    {resume : action.Answer -> Activity Response}
    {known : List Variable}
    (inv : Serialized setting start pool)
    (unlocked : (start.stores setting.store).Unlocked)
    (rehearsed : Rehearsed setting start owner operation replies known
      (.act action resume))
    (looks : action.writes = false)
    (knows : Knows setting pool.world pool.log owner known) :
    Proceeds setting start pool owner
      (pool.proceed setting owner ⟨operation, since, replies, last⟩
        (.active (.act action resume))) := by
  by_cases closed : (Activity.act action resume).Closed setting.store
    Response.IsPlain
  · exact ofClosed inv (closed.imp fun _ => Faithful.ofPlain)
      (.ofUnlogged knows.unlogged)
  have next := rehearsed.look looks closed inv.keys knows.has inv.programs
  obtain ⟨right, reached, rehearsal⟩ :=
    rehearsed.instantiate inv unlocked knows.has
  have told :
      ∀ now answer, (Exchange.acted now action answer).written? = none := by
    intro now answer
    cases action <;> first | rfl | contradiction
  have performed : ∃ programs,
      (pool.world.perform owner action).2 =
        { pool.world with programs := programs } ∧
        SamePrograms setting start (pool.world.perform owner action).2 := by
    cases rehearsal.paired with
    | writing writing =>
        cases writing with
        | closed plain => exact absurd plain closed
        | commit => contradiction
    | modify => contradiction
    | keys => exact ⟨_, rfl, inv.programs⟩
    | read => exact ⟨_, rfl, inv.programs⟩
    | look => exact ⟨_, rfl, inv.programs⟩
    | @program _ id =>
        obtain ⟨programs, used⟩ :=
          pool.world.exists_useProgram_eq (setting.optimizer id)
        exact ⟨programs, used, inv.programs.useProgram id⟩
  obtain ⟨programs, after, same⟩ := performed
  rw [Pool.proceed_look told]
  rw [after] at same ⊢
  exact .quiet rfl same (fun _ _ _ locked => locked)
    (.inl fun _ locked => locked)
    (.rehearsing next ⟨knows.holds, knows.has, knows.unlogged⟩)

/-- Who has written nothing yet asks a language model. -/
theorem ofGenerate
    {model : LanguageModel}
    {request : GenerationRequest}
    {resume : Reply -> Activity Response}
    {known : List Variable}
    (inv : Serialized setting start pool)
    (rehearsed : Rehearsed setting start owner operation replies known
      (.generate model request resume))
    (knows : Knows setting pool.world pool.log owner known) :
    Proceeds setting start pool owner
      (pool.proceed setting owner ⟨operation, since, replies, last⟩
        (.active (.generate model request resume))) := by
  rw [Pool.proceed_generate]
  exact .quiet rfl (inv.programs.of_programs_eq rfl)
    (fun _ _ _ locked => locked)
    (.inl fun _ locked => locked)
    (.rehearsing (rehearsed.generate _)
      ⟨knows.holds, knows.has, knows.unlogged⟩)

/-- Who is granted a lock knows one variable more. -/
theorem standing_of_granted
    {world : World σ}
    {key : String}
    {resume : Except StoreError Unit -> Activity Response}
    {known : List Variable}
    (inv : Serialized setting start pool)
    (rehearsed : Rehearsed setting start owner operation replies known
      (.lock setting.store key resume))
    (registered : key ∈ (start.stores setting.store).keys)
    (knows : Knows setting pool.world pool.log owner known)
    (entries : (world.stores setting.store).entries =
      (pool.world.stores setting.store).entries)
    (own : ∀ other,
      (pool.world.stores setting.store).isHolder owner other = true ->
      (world.stores setting.store).isHolder owner other = true)
    (locked : (world.stores setting.store).isHolder owner key = true) :
    Standing setting start world pool.log owner
      ⟨operation, since, replies, some (.active (resume (.ok ())))⟩ := by
  rw [← inv.keys] at registered
  obtain ⟨value, _, named, has⟩ := Store.has_of_mem_keys registered
  have agrees := Store.contents_congr entries
  rw [inv.keys] at registered
  refine .rehearsing (rehearsed.lock named registered) ⟨?_, ?_, knows.unlogged⟩
  · intro other among
    obtain rfl | among := List.mem_cons.mp among
    · rw [named]
      exact locked
    · exact own _ (knows.holds other among)
  · intro other among
    obtain rfl | among := List.mem_cons.mp among
    · exact has.of_contents_eq agrees.symm
    · exact (knows.has other among).of_contents_eq agrees.symm

/-- Who waits for a lock takes it up once it has it. -/
theorem ofWaiting
    {key : String}
    {resume : Except StoreError Unit -> Activity Response}
    {known : List Variable}
    (inv : Serialized setting start pool)
    (rehearsed : Rehearsed setting start owner operation replies known
      (.lock setting.store key resume))
    (registered : key ∈ (start.stores setting.store).keys)
    (knows : Knows setting pool.world pool.log owner known) :
    Proceeds setting start pool owner
      (pool.proceed setting owner ⟨operation, since, replies, last⟩
        (.waiting setting.store key resume)) := by
  rw [Pool.proceed_waiting]
  refine .quiet rfl inv.programs (fun _ _ _ locked => locked)
    (.inl fun _ locked => locked) ?_
  by_cases locked : (pool.world.stores setting.store).isHolder owner key = true
  · rw [if_pos locked]
    exact standing_of_granted inv rehearsed registered knows rfl
      (fun _ holds => holds) locked
  · rw [if_neg locked]
    exact .waiting rehearsed registered knows

/-- Who has written nothing yet requests a lock. -/
theorem ofLock
    {store : StoreId}
    {key : String}
    {resume : Except StoreError Unit -> Activity Response}
    {known : List Variable}
    (inv : Serialized setting start pool)
    (unlocked : (start.stores setting.store).Unlocked)
    (rehearsed : Rehearsed setting start owner operation replies known
      (.lock store key resume))
    (knows : Knows setting pool.world pool.log owner known) :
    Proceeds setting start pool owner
      (pool.proceed setting owner ⟨operation, since, replies, last⟩
        (.active (.lock store key resume))) := by
  have paired :
      store = setting.store ∧ (key ∉ (start.stores setting.store).keys ->
        (resume (.error (.notFound key))).Closed setting.store
          Response.IsPlain) := by
    obtain ⟨right, reached, rehearsal⟩ :=
      rehearsed.instantiate inv unlocked knows.has
    cases rehearsal.paired with
    | writing writing =>
        cases writing with
        | closed closed => cases closed
    | lock fresh granted refused => exact ⟨rfl, refused⟩
  obtain ⟨rfl, refused⟩ := paired
  rw [Pool.proceed_lock]
  by_cases registered : key ∈ (start.stores setting.store).keys
  · have present : (pool.world.stores setting.store).contains key = true := by
      rw [Store.contains_iff_mem_keys, inv.keys]
      exact registered
    obtain ⟨after, requested⟩ := Store.requested_of_present present owner
    have entries :
        ((pool.world.setStore setting.store after).stores
          setting.store).entries =
          (pool.world.stores setting.store).entries := by
      rw [World.stores_setStore_self]
      exact requested.entries_eq
    have kept : ∀ (other : Owner) (name : String),
        (pool.world.stores setting.store).isHolder other name = true ->
          ((pool.world.setStore setting.store after).stores
            setting.store).isHolder other name =
            true := by
      intro other name holds
      rw [World.stores_setStore_self]
      exact requested.isHolder holds
    have programs :
        SamePrograms setting start (pool.world.setStore setting.store after) :=
      inv.programs.of_programs_eq rfl
    cases requested with
    | granted request =>
        rw [request]
        refine .quiet entries programs (fun other name _ => kept other name)
          (.inl (kept owner)) ?_
        apply standing_of_granted inv rehearsed registered knows
          entries (kept owner)
        rw [World.stores_setStore_self]
        exact Store.isHolder_of_granted request
    | queued _ request =>
        rw [request]
        refine .quiet entries programs (fun other name _ => kept other name)
          (.inl (kept owner)) ?_
        refine .waiting rehearsed registered ⟨?_, ?_, knows.unlogged⟩
        · exact fun value among => kept owner _ (knows.holds value among)
        · exact fun value among =>
            (knows.has value among).of_contents_eq
              (Store.contents_congr entries).symm
  · have absent : (pool.world.stores setting.store).requestLock owner key =
        .refused (.notFound key) := by
      rw [Store.requestLock, if_neg]
      rw [Store.contains_iff_mem_keys, inv.keys]
      exact registered
    rw [absent]
    exact .quiet rfl inv.programs (fun _ _ _ locked => locked)
      (.inl fun _ locked => locked)
      (.spent ((refused registered).imp fun _ => Faithful.ofPlain)
        (.ofUnlogged knows.unlogged))

end Quiet

/-- Who has written nothing yet takes its next step. -/
theorem ofRehearsed
    {operation : Operation}
    {since : Nat}
    {replies : List Reply}
    {last : Option (Progress Response)}
    {known : List Variable}
    {left : Activity Response}
    (inv : Serialized setting start pool)
    (unlocked : (start.stores setting.store).Unlocked)
    (rehearsed : Rehearsed setting start owner operation replies known left)
    (knows : Knows setting pool.world pool.log owner known) :
    Proceeds setting start pool owner
      (pool.proceed setting owner ⟨operation, since, replies, last⟩
        (.active left)) := by
  obtain ⟨right, reached, rehearsal⟩ :=
    rehearsed.instantiate inv unlocked knows.has
  have replays := rehearsal.replays inv knows.unlogged
  cases left with
  | done outcome =>
      cases rehearsal.paired with
      | writing writing =>
          cases writing with
          | closed closed =>
              exact ofClosed inv (closed.imp fun _ => Faithful.ofPlain)
                (.ofUnlogged knows.unlogged)
  | lock store key resume => exact ofLock inv unlocked rehearsed knows
  | generate model request resume => exact ofGenerate inv rehearsed knows
  | act action resume =>
      cases writes : action.writes with
      | false => exact ofLook inv unlocked rehearsed writes knows
      | true =>
          cases rehearsal.paired with
          | writing writing =>
              cases writing with
              | closed closed =>
                  cases closed
                  contradiction
              | commit kept named same leads fewer covers next =>
                  refine ofCommit inv rfl
                    (.commit kept named same leads fewer covers next) replays
                    ?_ knows.has fun value kept => List.mem_map_of_mem kept
                  intro key listed
                  obtain ⟨value, kept, rfl⟩ := List.mem_map.mp listed
                  exact knows.holds value kept
          | modify kept leads ended =>
              exact ofModify inv knows.unlogged leads ended replays
                (knows.holds _ kept)
                (knows.has _ kept)
          | keys => contradiction
          | read => contradiction
          | look => contradiction
          | program => contradiction

/-- Who gets a variable is answered what is stored. -/
theorem ofGet
    {key : String}
    {since : Nat}
    {replies : List Reply}
    {last : Option (Progress Response)}
    (inv : Serialized setting start pool)
    (come : since ≤ pool.log.length)
    (unlogged : ∀ commit ∈ pool.log, commit.client ≠ owner) :
    Proceeds setting start pool owner
      (pool.proceed setting owner ⟨.get key, since, replies, last⟩
        (.active (setting.body (.get key)))) := by
  rw [Setting.body, Pool.proceed_look fun _ _ => rfl]
  refine .quiet rfl inv.programs (fun _ _ _ holds => holds)
    (.inl fun _ holds => holds)
    (.spent (.done ?_) (.ofUnlogged unlogged))
  exact ⟨key, [], pool.log, rfl, rfl, come,
    Store.find?_undated_eq inv.contents key⟩

end Proceeds

/-- Every step of a client is one that the invariant allows. -/
theorem Serialized.proceeds
    {operation : Operation}
    {since : Nat}
    {replies : List Reply}
    {progress : Progress Response}
    (inv : Serialized setting start pool)
    (unlocked : (start.stores setting.store).Unlocked)
    (found :
      pool.clients[owner]? = some ⟨operation, since, replies, some progress⟩) :
    Proceeds setting start pool owner
      (pool.proceed setting owner ⟨operation, since, replies, some progress⟩
        progress) := by
  cases inv.standing owner _ found with
  | getting come unlogged => exact .ofGet inv come unlogged
  | rehearsing rehearsed knows =>
      exact .ofRehearsed inv unlocked rehearsed knows
  | waiting rehearsed registered knows =>
      exact .ofWaiting inv rehearsed registered knows
  | writing writing replays holds has within covers pending =>
      cases writing with
      | closed closed => exact absurd closed pending
      | commit kept named same leads fewer alone next =>
          exact .ofCommit inv rfl
            (.commit kept named same leads fewer alone next) replays holds
            has within
  | spent closed whole => exact .ofClosed inv closed whole

end PromptTuning
