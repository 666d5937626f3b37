import Mathlib.Data.List.Induction
import PromptTuning.Proofs.Concurrency.Guarding

/-!
# Passes on variables that are dropped meanwhile

A pass commits a copy of the variable it read. While its key stays stored nobody
else writes to it, so that the commit replaces the very variable that was read
and touches nothing else. But registering other variables may drop the key under
the lock of the pass, and it may be registered anew. Then the store is full, and
the commit stores the key again: it drops the oldest variable, or it overwrites
the one that was registered meanwhile.
-/

namespace PromptTuning

variable {σ : Type}

namespace StoreView

variable {before after : StoreView} {entry : Variable} {key : String}

/-- Whether storing one more key drops the oldest. -/
def Full (view : StoreView) : Prop :=
  view.capacity ≤ view.count

namespace Wrote

/-- A store that is full stays full. -/
theorem full (wrote : Wrote before entry after) (full : before.Full) :
    after.Full := by
  have capacity := wrote.capacity
  unfold Full at full ⊢
  cases wrote.placed with
  | kept _ _ count _ => omega
  | appended _ _ _ count _ => omega
  | displaced _ _ _ _ _ _ count _ _ => omega

/-- A write under another key leaves the variable of a key alone, or it drops it
from a store that is full. -/
theorem find?_of_ne (wrote : Wrote before entry after)
    (different : key ≠ entry.key) :
    after.find? key = before.find? key ∨
    after.find? key = none ∧ after.Full := by
  have capacity := wrote.capacity
  cases wrote.placed with
  | kept _ _ _ others => exact .inl (others key different)
  | appended _ _ _ _ others => exact .inl (others key different)
  | displaced oldest _ _ full _ _ count gone others =>
      by_cases dropped : key = oldest
      · refine .inr ⟨dropped ▸ gone, ?_⟩
        unfold Full
        omega
      · exact .inl (others key dropped different)

/-- A write under a present key touches nothing else. -/
theorem spares (wrote : Wrote before entry after)
    (present : entry.key ∈ before.keys) :
    after.keys = before.keys ∧
      ∀ other, other ≠ entry.key -> after.find? other = before.find? other := by
  cases wrote.placed with
  | kept _ keys _ others => exact ⟨keys, others⟩
  | appended absent => exact absurd present absent
  | displaced _ _ absent => exact absurd present absent

/-- A write under an absent key drops the oldest from a store that is full. -/
theorem drops (wrote : Wrote before entry after)
    (absent : entry.key ∉ before.keys) (full : before.Full) :
    ∃ oldest rest, before.keys = oldest :: rest ∧
      after.keys = rest ++ [entry.key] ∧
      after.find? oldest = none := by
  cases wrote.placed with
  | kept present => exact absurd present absent
  | appended _ room => exact absurd full (Nat.not_le.mpr room)
  | displaced oldest rest _ _ front keys _ gone _ =>
      exact ⟨oldest, rest, front, keys, gone⟩

end Wrote
end StoreView

/-- A commit is a write under the key of its variable. -/
theorem Store.wrote_commit {store : Store} (inStep : store.view.Consistent)
    (entry : Variable) (now : Timestamp) :
    ∃ written : Variable, written.key = entry.key ∧
      store.view.Wrote written (store.commit entry now).view := by
  unfold commit
  cases store.find? entry.key with
  | none =>
      exact ⟨entry.touch now, rfl, view_insert store _ ▸ wrote_put inStep _⟩
  | some stored =>
      exact ⟨({ entry with version := stored.version } : Variable).touch now,
        rfl, view_insert store _ ▸ wrote_put inStep _⟩

/-- An action that only looks leaves every store as it is. -/
theorem World.stores_perform_of_looks
    {action : Action}
    (looks : action.looks = true)
    (world : World σ)
    (owner : Owner)
    (id : StoreId) :
    (world.perform owner action).2.stores id = world.stores id := by
  cases action with
  | program optimizer => exact congrFun (world.stores_useProgram optimizer) id
  | keys store => rfl
  | read store key => rfl
  | notify event => rfl
  | _ => contradiction

/-- The key of an operation that is a pass over a stored variable. -/
def Operation.pass? : Operation -> Option String
  | .optimize _ key _ | .finalize key => some key
  | _ => none

/-- What a client does for an operation once it has its first lock. -/
def Setting.underLock (setting : Setting σ) (operation : Operation) :
    Activity Response :=
  match setting.body operation with
  | .lock _ _ resume => resume (.ok ())
  | other => other

/-- An activity that looks, and then commits a variable under a key or only lets
go of locks. -/
inductive Activity.Settles {α : Type} (store : StoreId) (key : String) :
    Activity α -> Prop
  | closed {rest : Activity α} (closed : rest.Closed store fun _ => True) :
      Settles store key rest
  | look {action : Action} {resume : action.Answer -> Activity α}
      (looks : action.looks = true)
      (resumed : ∀ answer, Settles store key (resume answer)) :
      Settles store key (.act action resume)
  | generate {model : LanguageModel} {request : GenerationRequest}
      {resume : Reply -> Activity α}
      (resumed : ∀ reply, Settles store key (resume reply)) :
      Settles store key (.generate model request resume)
  | commit {entry : Variable} {resume : Unit -> Activity α}
      (named : entry.key = key)
      (closed : (resume ()).Closed store fun _ => True) :
      Settles store key (.act (.commit store entry) resume)

namespace Activity.Settles

variable {α β γ : Type} {store : StoreId} {key : String}

theorem ofAlike
    {uses : Optimizer -> Prop}
    {related : α -> γ -> Prop}
    {activity : Activity α}
    {other : Activity γ}
    {next : α -> Activity β}
    (alike : Activity.Alike uses related activity other)
    (continued :
      ∀ first second, related first second -> (next first).Settles store key) :
    (activity.bind next).Settles store key := by
  induction alike with
  | done results => exact continued _ _ results
  | read _ inductionHypothesis =>
      exact .look rfl fun answer => inductionHypothesis answer answer
  | program _ _ inductionHypothesis => exact .look rfl inductionHypothesis
  | generate _ inductionHypothesis => exact .generate inductionHypothesis

end Activity.Settles

/-- A pass that has its lock reads the variable, and only with that
it commits. -/
theorem Setting.underLock_of_pass?
    (setting : Setting σ)
    {operation : Operation}
    {key : String}
    (pass : operation.pass? = some key) :
    ∃ resume,
      setting.underLock operation = .act (.read setting.store key) resume ∧
      (resume none).Closed setting.store (fun _ => True) ∧
      ∀ entry : Variable, entry.key = key ->
        (resume (some entry)).Settles setting.store key := by
  cases operation with
  | finalize name =>
      obtain rfl := Option.some.inj pass
      exact ⟨_, rfl, .unlock (.done trivial), fun entry named =>
        .commit named (.unlock (.done trivial))⟩
  | optimize id name reward =>
      obtain rfl := Option.some.inj pass
      refine ⟨fun found =>
        ((setting.optimizer id).afterRead setting.store name reward found).bind
          fun result => .done (.optimized result), ?_,
        .unlock (.done trivial), ?_⟩
      · rw [underLock, body, Optimizer.optimizeStored_eq]
        rfl
      · intro entry named
        change (((setting.optimizer id).optimize entry reward).bind _
          |>.bind _).Settles _ _
        rw [Activity.bind_assoc]
        refine .ofAlike
          ((setting.optimizer id).alike_optimize (Eq.refl entry.undated) reward)
          ?_
        intro result _ passed
        unfold Optimizer.settle
        split
        · exact .commit (passed.resultFirst.key_eq.trans named)
            (.unlock (.done trivial))
        · exact .closed (.unlock (.done trivial))
  | _ => contradiction

namespace Pool

variable {setting : Setting σ} {reading : Pool σ} {owner : Owner} {key : String}
  {before : Variable} {turns : List Turn} {turn : Turn}

/-- The variable under a key in the store of the clients. -/
def find? (setting : Setting σ) (key : String) (pool : Pool σ) :
    Option Variable :=
  (pool.world.stores setting.store).find? key

/-- What became of a variable some turns after it was read. -/
inductive Fate (setting : Setting σ) (key : String) (before : Variable)
    (reading : Pool σ)
    (turns : List Turn) : Prop
  /-- It stayed as it was. -/
  | kept
      (stayed : ∀ passed, passed <+: turns ->
        (reading.serve setting passed).find? setting key = some before)
  /-- It was dropped, and its key is not stored. -/
  | dropped
      (absent : (reading.serve setting turns).find? setting key = none)
      (full :
        ((reading.serve setting turns).world.stores setting.store).view.Full)
  /-- It was dropped, and its key was registered anew. -/
  | anew
      (passed rest : List Turn)
      (initial : Option Instructions)
      (split : turns = passed ++ .register key initial :: rest)
      (absent : (reading.serve setting passed).find? setting key = none)
      (stored : (reading.serve setting turns).find? setting key =
        some (.registered key initial (reading.serve setting passed).world.now))
      (full :
        ((reading.serve setting turns).world.stores setting.store).view.Full)

namespace Fate

/-- A turn after which the key shows the same changes no fate. -/
theorem extend
    (fate : Fate setting key before reading turns)
    (shown : (reading.serve setting (turns ++ [turn])).find? setting key =
      (reading.serve setting turns).find? setting key)
    (stays : ((reading.serve setting turns).world.stores
      setting.store).view.Full ->
      ((reading.serve setting (turns ++ [turn])).world.stores
        setting.store).view.Full) :
    Fate setting key before reading (turns ++ [turn]) := by
  cases fate with
  | kept stayed =>
      refine .kept fun passed first => ?_
      obtain rfl | earlier := List.prefix_concat_iff.mp first
      · exact shown.trans (stayed turns (List.prefix_refl turns))
      · exact stayed passed earlier
  | dropped absent full => exact .dropped (shown.trans absent) (stays full)
  | anew passed rest initial split absent stored full =>
      refine .anew passed (rest ++ [turn]) initial ?_ absent
        (shown.trans stored) (stays full)
      rw [split, List.append_assoc, List.cons_append]

/-- Where others write, the variable stays, is dropped or is registered anew. -/
theorem of_wrote
    (fate : Fate setting key before reading turns)
    {entry : Variable}
    (wrote : StoreView.Wrote
      ((reading.serve setting turns).world.stores setting.store).view entry
      ((reading.serve setting (turns ++ [turn])).world.stores
        setting.store).view)
    (foreign : entry.key ≠ key ∨
      (reading.serve setting turns).find? setting key = none ∧
      ∃ initial, turn = .register key initial ∧
        entry =
          .registered key initial (reading.serve setting turns).world.now) :
    Fate setting key before reading (turns ++ [turn]) := by
  obtain different | ⟨absent, initial, rfl, rfl⟩ := foreign
  · obtain same | ⟨gone, full⟩ := wrote.find?_of_ne (Ne.symm different)
    · exact fate.extend same wrote.full
    · exact .dropped gone full
  · have full :
        ((reading.serve setting turns).world.stores
          setting.store).view.Full := by
      cases fate with
      | kept stayed =>
          have stored := stayed turns (List.prefix_refl turns)
          rw [absent] at stored
          contradiction
      | dropped _ full => exact full
      | anew _ _ _ _ _ _ full => exact full
    exact .anew turns [] initial rfl absent wrote.stored (wrote.full full)

/-- A write to a variable that stayed stored replaces it and touches
nothing else. -/
theorem spares
    (fate : Fate setting key before reading turns)
    {entry : Variable}
    {after : StoreView}
    (wrote : StoreView.Wrote
      ((reading.serve setting turns).world.stores setting.store).view
      entry after)
    (named : entry.key = key)
    (stays : ∀ passed, passed <+: turns ->
      (reading.serve setting passed).find? setting key ≠ none) :
    (reading.serve setting turns).find? setting key = some before ∧
      after.keys =
        ((reading.serve setting turns).world.stores setting.store).keys ∧
      ∀ other, other ≠ key ->
        after.find? other =
          (reading.serve setting turns).find? setting other := by
  subst named
  cases fate with
  | anew passed rest initial split absent =>
      exact absurd absent (stays passed (split ▸ List.prefix_append passed _))
  | dropped absent => exact absurd absent (stays turns (List.prefix_refl turns))
  | kept stayed =>
      have stored := stayed turns (List.prefix_refl turns)
      have present :=
        Store.contains_iff_mem_keys.mp (Store.contains_of_find? stored)
      exact ⟨stored, wrote.spares present⟩

/-- A write to a variable that was missing meanwhile drops the oldest one, or it
overwrites the one that took its key. -/
theorem drops_or_overwrites
    (fate : Fate setting key before reading turns)
    {entry : Variable}
    {after : StoreView}
    (wrote : StoreView.Wrote
      ((reading.serve setting turns).world.stores setting.store).view
      entry after)
    (named : entry.key = key)
    (missing : ∃ passed, passed <+: turns ∧
      (reading.serve setting passed).find? setting key = none) :
    ((reading.serve setting turns).find? setting key = none ∧ ∃ oldest rest,
        ((reading.serve setting turns).world.stores setting.store).keys =
          oldest :: rest ∧
        after.keys = rest ++ [key] ∧ after.find? oldest = none) ∨
      ∃ passed rest initial, turns = passed ++ .register key initial :: rest ∧
        (reading.serve setting passed).find? setting key = none ∧
        (reading.serve setting turns).find? setting key =
          some (.registered key initial
            (reading.serve setting passed).world.now) := by
  subst named
  cases fate with
  | kept stayed =>
      obtain ⟨passed, first, absent⟩ := missing
      rw [stayed passed first] at absent
      contradiction
  | anew passed rest initial split absent stored full =>
      exact .inr ⟨passed, rest, initial, split, absent, stored⟩
  | dropped absent full =>
      exact .inl ⟨absent, wrote.drops (Store.find?_eq_none_iff.mp absent) full⟩

end Fate

/-- Whoever is not concerned stands where it stood. -/
theorem clients_take
    {pool : Pool σ}
    {client : Client}
    (found : pool.clients[owner]? = some client)
    (others : turn.client? ≠ some owner) :
    (pool.take setting turn).clients[owner]? = some client := by
  have takes := takes_take setting pool turn
  generalize pool.take setting turn = after at takes ⊢
  cases takes with
  | moved moves =>
      cases moves with
      | begun operation =>
          rw [List.getElem?_append_left (List.getElem?_eq_some_iff.mp found).1]
          exact found
      | proceeded operation since replies progress there =>
          exact (List.getElem?_set_ne fun same =>
            others (congrArg some same)).trans found
      | dropped dropped there =>
          exact (List.getElem?_set_ne fun same =>
            others (congrArg some same)).trans found
      | _ => exact found
  | _ => exact found

/-- Who goes on takes a step of its own. -/
theorem take_proceed
    {pool : Pool σ}
    {client : Client}
    {progress : Progress Response}
    (found : pool.clients[owner]? = some client)
    (working : client.progress = some progress) :
    (pool.take setting (.move (.proceed owner))).world =
        (progress.step setting.host owner pool.world).2 ∧
      ∃ later,
        (pool.take setting (.move (.proceed owner))).clients[owner]? =
          some later ∧
        later.progress =
          some (progress.step setting.host owner pool.world).1 := by
  obtain ⟨operation, since, replies, last⟩ := client
  obtain rfl : last = some progress := working
  have steps : pool.take setting (.move (.proceed owner)) =
      pool.proceed setting owner ⟨operation, since, replies, some progress⟩
        progress := by
    simp [take, step, found]
  rw [steps]
  exact ⟨rfl, _, List.getElem?_set_self (List.getElem?_eq_some_iff.mp found).1,
    rfl⟩

/-- Who is about to commit a variable commits it as of that moment. -/
theorem stores_take_of_commit
    {pool : Pool σ}
    {client : Client}
    {entry : Variable}
    {next : Unit -> Activity Response}
    (found : pool.clients[owner]? = some client)
    (working : client.progress =
      some (.active (.act (.commit setting.store entry) next))) :
    (pool.take setting (.move (.proceed owner))).world.stores setting.store =
      (pool.world.stores setting.store).commit entry pool.world.now := by
  obtain ⟨world, _⟩ := @take_proceed σ setting owner _ client _ found working
  rw [world]
  exact World.stores_setStore_self _ _ _

/-- Where a pass stands some turns after it read its variable: it may still
commit, or it is through but for its lock. -/
inductive Pending (setting : Setting σ) (owner : Owner) (key : String)
    (before : Variable) (reading : Pool σ)
    (turns : List Turn) : Prop
  | deciding
      (client : Client)
      (rest : Activity Response)
      (read : reading.find? setting key = some before)
      (found : (reading.serve setting turns).clients[owner]? = some client)
      (working : client.progress = some (.active rest))
      (settles : rest.Settles setting.store key)
      (holds : ((reading.serve setting turns).world.stores
        setting.store).isHolder owner key = true)
      (fate : Fate setting key before reading turns)
  | gone
      (client : Client)
      (found : (reading.serve setting turns).clients[owner]? = some client)
      (ended : ∀ progress ∈ client.progress, ∃ rest, progress = .active rest ∧
        rest.Closed setting.store fun _ => True)

namespace Pending

variable {client : Client} {rest : Activity Response}

theorem gone_of_progress
    {progress : Progress Response}
    (found : (reading.serve setting turns).clients[owner]? = some client)
    (working : client.progress = some progress)
    (ended : ∃ rest,
      progress = .active rest ∧ rest.Closed setting.store fun _ => True) :
    Pending setting owner key before reading turns := by
  refine .gone client found ?_
  rw [working]
  rintro _ ⟨⟩
  exact ended

/-- Who is through but for its lock stays so. -/
theorem proceed_closed
    (found : (reading.serve setting turns).clients[owner]? = some client)
    (working : client.progress = some (.active rest))
    (closed : rest.Closed setting.store fun _ => True) :
    Pending setting owner key before reading
      (turns ++ [.move (.proceed owner)]) := by
  obtain ⟨_, later, foundLater, working⟩ :=
    @take_proceed σ setting owner _ client _ found working
  rw [← serve_concat] at foundLater
  refine gone_of_progress foundLater working ?_
  cases closed with
  | done fits => exact ⟨_, rfl, .done fits⟩
  | unlock resumed => exact ⟨_, rfl, resumed⟩

/-- A pass that goes on looks, or it commits and is through. -/
theorem proceed
    (read : reading.find? setting key = some before)
    (found : (reading.serve setting turns).clients[owner]? = some client)
    (working : client.progress = some (.active rest))
    (settles : rest.Settles setting.store key)
    (holds : ((reading.serve setting turns).world.stores setting.store).isHolder
      owner key = true)
    (fate : Fate setting key before reading turns) :
    Pending setting owner key before reading
      (turns ++ [.move (.proceed owner)]) := by
  obtain ⟨world, later, foundLater, workingLater⟩ :=
    @take_proceed σ setting owner _ client _ found working
  rw [← serve_concat] at foundLater world
  have looked
      (same :
        ((reading.serve setting
          (turns ++ [.move (.proceed owner)])).world.stores
          setting.store) =
          (reading.serve setting turns).world.stores setting.store)
      {next : Activity Response}
      (went : later.progress = some (.active next))
      (settles : next.Settles setting.store key) :
      Pending setting owner key before reading
        (turns ++ [.move (.proceed owner)]) := by
    refine .deciding later next read foundLater went settles (same ▸ holds)
      (fate.extend ?_ ?_)
    · rw [find?, find?, same]
    · rw [same]
      exact id
  cases settles with
  | closed closed => exact proceed_closed found working closed
  | commit named closed =>
      exact gone_of_progress foundLater workingLater ⟨_, rfl, closed⟩
  | generate resumed =>
      refine looked ?_ workingLater (resumed _)
      rw [world]
      rfl
  | @look action resume looks resumed =>
      refine looked ?_ workingLater (resumed _)
      rw [world]
      exact World.stores_perform_of_looks looks _ _ _

/-- What others do leaves a pass where it stands. -/
theorem aside
    (pending : Pending setting owner key before reading turns)
    (guarded : (reading.serve setting turns).Guarded setting)
    (inStep : ((reading.serve setting turns).world.stores
      setting.store).view.Consistent)
    (respects : turn.respectsLocks = true)
    (others : turn.client? ≠ some owner) :
    Pending setting owner key before reading (turns ++ [turn]) := by
  have written := written_take inStep turn
  rw [← serve_concat] at written
  cases pending with
  | gone client found ended =>
      refine .gone client ?_ ended
      rw [serve_concat]
      exact clients_take found others
  | deciding client rest read found working settles holds fate =>
      refine .deciding client rest read ?_ working settles ?_ ?_
      · rw [serve_concat]
        exact clients_take found others
      · rw [serve_concat]
        exact isHolder_take holds others
      · obtain nothing | ⟨entry, single, foreign⟩ :=
          guarded.writes_cases inStep holds respects others
        · rw [nothing] at written
          have same := written.eq_of_nil
          refine fate.extend (congrFun (congrArg StoreView.find? same) key) ?_
          rw [same]
          exact id
        · rw [single] at written
          exact fate.of_wrote written.wrote_of_single foreign

theorem drop
    (found : (reading.serve setting turns).clients[owner]? = some client) :
    Pending setting owner key before reading
      (turns ++ [.move (.drop owner)]) := by
  refine .gone { client with progress := none } ?_ nofun
  have dropped :
      (reading.serve setting (turns ++ [.move (.drop owner)])).clients =
        (reading.serve setting turns).clients.set owner
          { client with progress := none } := by
    simp [serve_concat, take, step, found]
  rw [dropped]
  exact List.getElem?_set_self (List.getElem?_eq_some_iff.mp found).1

/-- A turn leaves a pass that may still commit, or one that is through. -/
theorem extend
    (pending : Pending setting owner key before reading turns)
    (guarded : (reading.serve setting turns).Guarded setting)
    (inStep : ((reading.serve setting turns).world.stores
      setting.store).view.Consistent)
    (respects : turn.respectsLocks = true) :
    Pending setting owner key before reading (turns ++ [turn]) := by
  by_cases others : turn.client? = some owner
  case neg => exact pending.aside guarded inStep respects others
  obtain rfl | rfl := Turn.cases_of_client? others
  · cases pending with
    | deciding client rest read found working settles holds fate =>
        exact proceed read found working settles holds fate
    | gone client found ended =>
        cases working : client.progress with
        | none =>
            refine .gone client ?_ ended
            rw [serve_concat]
            obtain ⟨operation, since, replies, progress⟩ := client
            obtain rfl : progress = none := working
            simp [take, step, found]
        | some progress =>
            obtain ⟨rest, rfl, closed⟩ := ended progress working
            exact proceed_closed found working closed
  · cases pending with
    | deciding client rest read found => exact drop found
    | gone client found => exact drop found

/-- Where a pass stands after any turns that respect locks. -/
theorem extendAll
    (pending : Pending setting owner key before reading [])
    (guarded : reading.Guarded setting)
    (inStep : (reading.world.stores setting.store).view.Consistent)
    (respects : ∀ turn ∈ turns, turn.respectsLocks = true) :
    Pending setting owner key before reading turns := by
  induction turns using List.reverseRecOn with
  | nil => exact pending
  | append_singleton turns turn inductionHypothesis =>
      obtain ⟨earlier, last⟩ := List.forall_mem_append.mp respects
      exact (inductionHypothesis earlier).extend (guarded.serve turns)
        (consistent_serve inStep turns)
        (last turn (List.mem_singleton_self turn))

/-- A pass that has its lock reads, and with what it read it may commit. -/
theorem of_underLock
    {pool : Pool σ}
    {operation : Operation}
    (pass : operation.pass? = some key)
    (holds : (pool.world.stores setting.store).isHolder owner key = true)
    (found : pool.clients[owner]? = some client)
    (working : client.progress = some (.active (setting.underLock operation))) :
    ∃ before, Pending setting owner key before
      (pool.take setting (.move (.proceed owner))) [] := by
  obtain ⟨resume, locked, refused, granted⟩ := setting.underLock_of_pass? pass
  rw [locked] at working
  obtain ⟨world, reader, foundReader, reads⟩ :=
    @take_proceed σ setting owner _ client _ found working
  have same : (pool.take setting (.move (.proceed owner))).world = pool.world :=
    world
  change reader.progress =
    some (.active (resume ((pool.world.stores setting.store).find? key)))
    at reads
  cases stored : (pool.world.stores setting.store).find? key with
  | none =>
      rw [stored] at reads
      exact ⟨.create key default,
        gone_of_progress foundReader reads ⟨_, rfl, refused⟩⟩
  | some before =>
      rw [stored] at reads
      have read :
          (pool.take setting (.move (.proceed owner))).find? setting key =
            some before := by
        rw [find?, same]
        exact stored
      refine ⟨before, .deciding reader _ read foundReader reads
        (granted before (Store.key_of_find? stored)) ?_
        (.kept fun passed first => ?_)⟩
      · change ((pool.take setting (.move (.proceed owner))).world.stores
          _).isHolder _ _ = true
        rw [same]
        exact holds
      · obtain rfl := List.prefix_nil.mp first
        exact read

/-- A pass that is about to commit does so under its key. -/
theorem commits
    (pending : Pending setting owner key before reading turns)
    {entry : Variable}
    {next : Unit -> Activity Response}
    (found : (reading.serve setting turns).clients[owner]? = some client)
    (working : client.progress =
      some (.active (.act (.commit setting.store entry) next))) :
    entry.key = key ∧ reading.find? setting key = some before ∧
      Fate setting key before reading turns := by
  cases pending with
  | gone same pendingFound ended =>
      rw [found] at pendingFound
      obtain rfl := Option.some.inj pendingFound
      obtain ⟨rest, same, closed⟩ := ended _ working
      obtain rfl := Progress.active.inj same
      cases closed
  | deciding same rest read pendingFound pendingWorking settles holds fate =>
      rw [found] at pendingFound
      obtain rfl := Option.some.inj pendingFound
      rw [working] at pendingWorking
      obtain rfl := Progress.active.inj (Option.some.inj pendingWorking)
      cases settles with
      | closed closed => cases closed
      | look looks resumed => contradiction
      | commit named closed => exact ⟨named, read, fate⟩

end Pending

end Pool

namespace Setting

theorem guarded_serving (setting : Setting σ) (start : World σ) (capacity : Nat)
    (turns : List Turn) :
    (setting.serving start capacity turns).Guarded setting := by
  refine Pool.Guarded.serve ?_ turns
  intro owner client found
  contradiction

/-- A pass that read its variable under the lock of its key commits to that key
alone. If the key stayed stored, the commit replaces the very variable that was
read, and no other variable is changed or dropped. Otherwise it drops the
oldest variable of a full store, or it overwrites one that was registered after
the reading. -/
theorem commit_spares_others_while_stored
    (setting : Setting σ)
    (start : World σ)
    (capacity : Nat)
    {earlier later : List Turn}
    {owner : Owner}
    {operation : Operation}
    {key : String}
    {entry : Variable}
    {next : Unit -> Activity Response}
    (respects : ∀ turn ∈ later, turn.respectsLocks = true)
    (pass : operation.pass? = some key)
    (holds : (setting.reached start capacity earlier).isHolder owner key = true)
    (reads : ∃ client,
      (setting.serving start capacity earlier).clients[owner]? = some client ∧
      client.progress = some (.active (setting.underLock operation)))
    (commits : ∃ client,
      (setting.serving start capacity
        (earlier ++ .move (.proceed owner) :: later)).clients[owner]? =
        some client ∧
      client.progress =
        some (.active (.act (.commit setting.store entry) next))) :
    let reading :=
      setting.serving start capacity (earlier ++ [.move (.proceed owner)])
    let store := setting.reached start capacity
      (earlier ++ .move (.proceed owner) :: later)
    let after := setting.reached start capacity
      (earlier ++ .move (.proceed owner) :: later ++ [.move (.proceed owner)])
    ∃ before, reading.find? setting key = some before ∧ entry.key = key ∧
      ((∀ passed, passed <+: later ->
        (reading.serve setting passed).find? setting key ≠ none) ->
        store.find? key = some before ∧ after.keys = store.keys ∧
          ∀ other, other ≠ key -> after.find? other = store.find? other) ∧
      ((∃ passed, passed <+: later ∧
        (reading.serve setting passed).find? setting key = none) ->
        (store.find? key = none ∧ ∃ oldest rest, store.keys = oldest :: rest ∧
            after.keys = rest ++ [key] ∧ after.find? oldest = none) ∨
          ∃ passed rest initial,
            later = passed ++ .register key initial :: rest ∧
            (reading.serve setting passed).find? setting key = none ∧
            store.find? key =
              some (.registered key initial
                (reading.serve setting passed).world.now)) := by
  intro reading store after
  obtain ⟨client, found, working⟩ := reads
  obtain ⟨committer, there, committing⟩ := commits
  have guarded := setting.guarded_serving start capacity
    (earlier ++ [.move (.proceed owner)])
  have inStep := setting.consistent_reached start capacity
    (earlier ++ [.move (.proceed owner)])
  have began : reading = (setting.serving start capacity earlier).take setting
      (.move (.proceed owner)) := Pool.serve_concat setting earlier _ _
  have went :
      setting.serving start capacity
        (earlier ++ .move (.proceed owner) :: later) =
        reading.serve setting later := by
    rw [List.append_cons]
    exact List.foldl_append
  have reached :
      store = (reading.serve setting later).world.stores setting.store := by
    simp only [store, Setting.reached, went]
  have ended :
      after = store.commit entry (reading.serve setting later).world.now := by
    simp only [after, Setting.reached, Setting.serving, Pool.serve_concat]
    rw [reached, ← went]
    exact Pool.stores_take_of_commit there committing
  obtain ⟨before, pending⟩ := Pool.Pending.of_underLock pass holds found working
  rw [← began] at pending
  rw [went] at there
  obtain ⟨named, read, fate⟩ :=
    (pending.extendAll guarded inStep respects).commits there committing
  have inStepLater : store.view.Consistent :=
    setting.consistent_reached start capacity _
  obtain ⟨written, own, wrote⟩ :=
    Store.wrote_commit inStepLater entry (reading.serve setting later).world.now
  rw [← ended, reached] at wrote
  rw [reached]
  exact ⟨before, read, named, fate.spares wrote (own.trans named),
    fate.drops_or_overwrites wrote (own.trans named)⟩

/-- A variable that is registered while another is finalized is left alone where
there is room for both. -/
theorem commit_spares_others_while_stored_of_room :
    let earlier : List Turn :=
      [.register "a" none, .move (.begin (.finalize "a")), .move (.proceed 0)]
    let later : List Turn := [.register "b" none]
    let store :=
      refusing.reached .fresh 2 (earlier ++ .move (.proceed 0) :: later)
    let after := refusing.reached .fresh 2
      (earlier ++ .move (.proceed 0) :: later ++ [.move (.proceed 0)])
    (refusing.reached .fresh 2 earlier).isHolder 0 "a" = true ∧
      store.keys = ["a", "b"] ∧
      after.keys = store.keys ∧ after.find? "b" = store.find? "b" := by
  intro earlier later
  have holds : (refusing.reached .fresh 2 earlier).isHolder 0 "a" = true := by
    decide +kernel
  have keys :
      (refusing.reached .fresh 2
        (earlier ++ .move (.proceed 0) :: later)).keys =
        ["a", "b"] := by decide +kernel
  obtain ⟨_, _, _, spares, _⟩ :=
    @commit_spares_others_while_stored Unit refusing .fresh 2 earlier later 0
      (.finalize "a") "a" _ _
      (by decide) rfl holds ⟨_, rfl, rfl⟩ ⟨_, rfl, rfl⟩
  have stays : ∀ passed, passed <+: later ->
      ((refusing.serving .fresh 2 (earlier ++ [.move (.proceed 0)])).serve
        refusing passed).find?
        refusing "a" ≠ none := by
    intro passed first
    obtain rfl | ⟨rest, rfl, nothing⟩ := List.prefix_cons_iff.mp first
    · exact Option.isSome_iff_ne_none.mp (by decide +kernel)
    · obtain rfl := List.prefix_nil.mp nothing
      exact Option.isSome_iff_ne_none.mp (by decide +kernel)
  obtain ⟨_, same, others⟩ := spares stays
  exact ⟨holds, keys, same, others "b" (by decide)⟩

/-- Where there is room for one variable only, finalizing one that was
dropped drops the one that took its place, and it overwrites one that was
registered anew. -/
theorem commit_of_dropped_variable :
    let passing : List Turn :=
      [.register "a" none, .move (.begin (.finalize "a")), .move (.proceed 0),
        .move (.proceed 0)]
    let displaced := passing ++ [.register "b" none]
    let renewed := displaced ++ [.register "a" (some (.ofLines ["be brief"]))]
    let instructions (turns : List Turn) :=
      ((refusing.reached .fresh 1 turns).find? "a").bind fun entry =>
        entry.instructions.map Instructions.instructions
    (refusing.reached .fresh 1 displaced).isHolder 0 "a" = true ∧
      (refusing.reached .fresh 1 displaced).keys = ["b"] ∧
      (refusing.reached .fresh 1 (displaced ++ [.move (.proceed 0)])).keys =
        ["a"] ∧
      instructions renewed = some ["be brief"] ∧
      (refusing.reached .fresh 1 (renewed ++ [.move (.proceed 0)])).keys =
        ["a"] ∧
      instructions (renewed ++ [.move (.proceed 0)]) = none := by
  decide +kernel

end Setting
end PromptTuning
