import PromptTuning.Proofs.Concurrency.Service
import PromptTuning.Proofs.Optimizer.Building
import PromptTuning.Proofs.Optimizer.Commitment

/-!
# Guarded writes

Every operation of a client writes to a key only while it holds its lock.
Nothing that others do takes the lock from it, not even dropping the variable: a
lock that is held or awaited stays in the table of locks. So nobody else writes
to a key whose lock a client holds, except that variables are registered,
committed whole and restored without any lock.
-/

namespace PromptTuning

variable {σ : Type}

namespace Store

variable {store : Store} {owner : Owner} {key : String}

/-- Pruning takes no lock away from its holder. -/
theorem isHolder_pruneLocks (holds : store.isHolder owner key = true) :
    store.pruneLocks.isHolder owner key = true := by
  obtain ⟨lock, found, held⟩ := isHolder_iff.mp holds
  refine isHolder_iff.mpr ⟨lock, ?_, held⟩
  have used : (store.contains lock.key || lock.inUse) = true := by
    simp [Lock.inUse, held]
  obtain ⟨named, earlier, later, split, others⟩ :=
    List.find?_eq_some_iff_append.mp found
  change (store.locks.filter _).find? _ = some lock
  rw [split, List.filter_append, List.filter_cons, if_pos used]
  refine List.find?_eq_some_iff_append.mpr
    ⟨named, _, _, rfl, fun other listed => ?_⟩
  exact others other (List.mem_filter.mp listed).1

/-- Storing a variable takes no lock from its holder. -/
theorem isHolder_put (entry : Variable) :
    (store.put entry).isHolder owner key = store.isHolder owner key :=
  isHolder_of_locks_eq locks_put

/-- An insertion takes no lock from its holder, whatever it drops. -/
theorem isHolder_insert (holds : store.isHolder owner key = true)
    (entry : Variable) :
    (store.insert entry).isHolder owner key = true := by
  have put : (store.put entry).isHolder owner key = true :=
    (isHolder_put entry).trans holds
  unfold insert
  split
  · exact isHolder_pruneLocks put
  · exact put

/-- A registration takes no lock from its holder. -/
theorem isHolder_register (holds : store.isHolder owner key = true)
    (name : String) (initial : Option Instructions) (now : Timestamp) :
    (store.register name initial now).2.isHolder owner key = true := by
  unfold register
  split
  · exact holds
  · exact isHolder_insert holds _

/-- A change in place takes no lock from its holder. -/
theorem isHolder_modify (name : String) (change : Change) (now : Timestamp) :
    (store.modify name change now).2.isHolder owner key =
      store.isHolder owner key := by
  unfold modify
  cases store.find? name with
  | none => rfl
  | some entry =>
      cases applied : change.apply entry with
      | error reason => simp only [applied]
      | ok changed =>
          simp only [applied]
          exact isHolder_put _

/-- A restoration takes no lock from its holder. -/
theorem isHolder_restoreAll (holds : store.isHolder owner key = true)
    (entries : List Variable) :
    (store.restoreAll entries).isHolder owner key = true := by
  refine isHolder_pruneLocks ?_
  induction entries generalizing store with
  | nil => exact holds
  | cons entry entries inductionHypothesis =>
      exact inductionHypothesis ((isHolder_put entry).trans holds)

end Store

namespace Action

/-- Whether an action changes neither variables nor locks. -/
def looks : Action -> Bool
  | .keys _ | .read _ _ | .program _ | .notify _ => true
  | _ => false

/-- Whether what is read under a key goes by that key. -/
def Names : (action : Action) -> action.Answer -> Prop
  | .read _ key, answer => ∀ entry ∈ answer, entry.key = key
  | _, _ => True

end Action

namespace World

variable {world : World σ} {id : StoreId} {owner other : Owner} {key : String}

/-- An action is answered with the variable of the key that it names. -/
theorem names_perform (world : World σ) (owner : Owner) (action : Action) :
    action.Names (world.perform owner action).1 := by
  cases action with
  | read store key => exact fun _ found => Store.key_of_find? found
  | _ => trivial

/-- A holder keeps its lock in a world if it does so in the store that
is replaced. -/
theorem isHolder_setStore
    {store : StoreId}
    {after : Store}
    (holds : (world.stores id).isHolder owner key = true)
    (kept : id = store -> after.isHolder owner key = true) :
    ((world.setStore store after).stores id).isHolder owner key = true := by
  by_cases same : id = store
  · subst same
    rw [stores_setStore_self]
    exact kept rfl
  · rw [stores_setStore_of_ne world same]
    exact holds

/-- Nothing but letting go of it takes a lock away from its holder. -/
theorem isHolder_perform
    {action : Action}
    (holds : (world.stores id).isHolder owner key = true)
    (elsewhere : other ≠ owner ∨ action ≠ .unlock id key) :
    ((world.perform other action).2.stores id).isHolder owner key = true := by
  cases action with
  | keys store => exact holds
  | read store name => exact holds
  | notify event => exact holds
  | program optimizer =>
      change ((world.useProgram optimizer).2.stores id).isHolder owner key =
        true
      rw [stores_useProgram]
      exact holds
  | register store name initial =>
      refine isHolder_setStore holds ?_
      rintro rfl
      exact Store.isHolder_register holds name initial world.now
  | modify store name change =>
      refine isHolder_setStore holds ?_
      rintro rfl
      exact (Store.isHolder_modify name change world.now).trans holds
  | commit store entry =>
      refine isHolder_setStore holds ?_
      rintro rfl
      exact Store.isHolder_insert holds _
  | unlock store name =>
      refine isHolder_setStore holds ?_
      rintro rfl
      refine Store.isHolder_releaseLock holds
        (elsewhere.imp_right fun different same => ?_)
      exact different (same ▸ rfl)

end World

/-- An activity that takes locks of one store only and writes to a key of it
only while it holds its lock; those of the keys given it has. -/
inductive Activity.Guarded {α : Type} (store : StoreId) :
    List String -> Activity α -> Prop
  | done {held : List String} {result : α} : Guarded store held (.done result)
  | look {held : List String} {action : Action}
      {resume : action.Answer -> Activity α} (looks : action.looks = true)
      (resumed :
        ∀ answer, action.Names answer -> Guarded store held (resume answer)) :
      Guarded store held (.act action resume)
  | modify {held : List String} {key : String} {change : Change}
      {resume : Except StoreError Variable -> Activity α}
      (holds : key ∈ held)
      (resumed : ∀ answer, Guarded store held (resume answer)) :
      Guarded store held (.act (.modify store key change) resume)
  | commit {held : List String} {entry : Variable} {resume : Unit -> Activity α}
      (holds : entry.key ∈ held)
      (resumed : Guarded store held (resume ())) :
      Guarded store held (.act (.commit store entry) resume)
  | unlock {held : List String} {key : String} {resume : Unit -> Activity α}
      (resumed : Guarded store (held.filter (· != key)) (resume ())) :
      Guarded store held (.act (.unlock store key) resume)
  | lock {held : List String} {key : String}
      {resume : Except StoreError Unit -> Activity α}
      (granted : Guarded store (key :: held) (resume (.ok ())))
      (refused : ∀ reason, Guarded store held (resume (.error reason))) :
      Guarded store held (.lock store key resume)
  | generate {held : List String} {model : LanguageModel}
      {request : GenerationRequest} {resume : Reply -> Activity α}
      (resumed : ∀ reply, Guarded store held (resume reply)) :
      Guarded store held (.generate model request resume)

namespace Activity.Guarded

variable {α β γ : Type} {store : StoreId} {held : List String}

/-- What only looks needs no lock. -/
theorem ofAlike
    {uses : Optimizer -> Prop}
    {related : α -> γ -> Prop}
    {activity : Activity α}
    {other : Activity γ}
    {next : α -> Activity β}
    (alike : Activity.Alike uses related activity other)
    (continued : ∀ first second,
      related first second -> (next first).Guarded store held) :
    (activity.bind next).Guarded store held := by
  induction alike with
  | done results => exact continued _ _ results
  | read _ inductionHypothesis =>
      exact .look rfl fun answer _ => inductionHypothesis answer answer
  | program _ _ inductionHypothesis =>
      exact .look rfl fun answer _ => inductionHypothesis answer
  | generate _ inductionHypothesis => exact .generate inductionHypothesis

/-- A change under the lock of its key. -/
theorem ofModify
    {key : String}
    {change : Change}
    {next : Except StoreError Variable -> Activity β}
    (ended : ∀ answer held, (next answer).Guarded store held) :
    ((Activity.modify store key change).bind next).Guarded store held :=
  .lock (.modify List.mem_cons_self fun answer =>
    .unlock (ended answer _)) fun _ => ended _ _

end Activity.Guarded

namespace Optimizer

variable {store : StoreId} {key : String} {held : List String} {β : Type}

/-- Finalizing writes only under the lock of its key. -/
theorem guarded_finalizeStored
    {next : Except OptimizationError Unit -> Activity β}
    (ended : ∀ answer held, (next answer).Guarded store held) :
    ((finalizeStored store key).bind next).Guarded store held := by
  refine .lock (.look rfl fun found named => ?_) fun _ => ended _ _
  cases found with
  | none => exact .unlock (ended _ _)
  | some entry =>
      refine .commit ?_ (.unlock (ended _ _))
      have own : entry.finalized.key = key := named entry rfl
      exact own ▸ List.mem_cons_self

/-- A stored pass writes only under the lock of its key. -/
theorem guarded_optimizeStored
    (optimizer : Optimizer)
    {reward : Double}
    {next : Except OptimizationError OptimizeReport -> Activity β}
    (ended : ∀ answer held, (next answer).Guarded store held) :
    ((optimizer.optimizeStored store key reward).bind next).Guarded
      store held := by
  rw [optimizeStored_eq]
  refine .lock (.look rfl fun found named => ?_) fun _ => ended _ _
  cases found with
  | none => exact .unlock (ended _ _)
  | some entry =>
      change (((optimizer.optimize entry reward).bind _).bind next).Guarded _ _
      rw [Activity.bind_assoc]
      refine .ofAlike (optimizer.alike_optimize (Eq.refl entry.undated) reward)
        ?_
      intro result _ passed
      unfold settle
      split
      · refine .commit ?_ (.unlock (ended _ _))
        have own : result.2.key = key :=
          passed.resultFirst.key_eq.trans (named entry rfl)
        exact own ▸ List.mem_cons_self
      · exact .unlock (ended _ _)

/-- What is read one by one is read under the lock of its key. -/
theorem guarded_lockAndRead
    {keys : List String}
    {next : List String × List Variable -> Activity β}
    (continued : ∀ locked entries later, held ⊆ later ->
      (∀ entry ∈ entries, entry.key ∈ later) ->
      (next (locked, entries)).Guarded store later) :
    ((lockAndRead store keys).bind next).Guarded store held := by
  induction keys generalizing next held with
  | nil =>
      exact continued [] [] held (List.Subset.refl held) (List.forall_mem_nil _)
  | cons key keys inductionHypothesis =>
      refine .lock (.look rfl fun found named => ?_) fun _ =>
        inductionHypothesis continued
      change (((lockAndRead store keys).bind fun read =>
        .done (key :: read.1, found.toList ++ read.2)).bind next).Guarded _ _
      rw [Activity.bind_assoc]
      refine inductionHypothesis fun locked entries later more within => ?_
      obtain ⟨own, before⟩ := List.cons_subset.mp more
      refine continued _ _ later before fun entry listed => ?_
      obtain read | others := List.mem_append.mp listed
      · have same : entry.key = key := named entry (Option.mem_toList.mp read)
        exact same ▸ own
      · exact within entry others

/-- Letting go of locks writes nothing. -/
theorem guarded_unlockAll
    {keys : List String}
    {next : Unit -> Activity β}
    (ended : ∀ held, (next ()).Guarded store held) :
    ((unlockAll store keys).bind next).Guarded store held := by
  induction keys generalizing held with
  | nil => exact ended held
  | cons key keys inductionHypothesis => exact .unlock inductionHypothesis

/-- Variables are committed one by one, each under the lock of its key. -/
theorem guarded_commitAll
    {entries : List Variable}
    {next : Unit -> Activity β}
    (holds : ∀ entry ∈ entries, entry.key ∈ held)
    (ended : (next ()).Guarded store held) :
    ((commitAll store entries).bind next).Guarded store held := by
  induction entries with
  | nil => exact ended
  | cons entry entries inductionHypothesis =>
      obtain ⟨first, others⟩ := List.forall_mem_cons.mp holds
      exact .commit first (inductionHypothesis others)

/-- Building writes only under the locks of its keys. -/
theorem guarded_buildStored
    (optimizer : Optimizer)
    {next : Except OptimizationError Unit -> Activity β}
    (ended : ∀ answer held, (next answer).Guarded store held) :
    ((optimizer.buildStored store).bind next).Guarded store held := by
  rw [buildStored_eq]
  refine .look rfl fun keys _ => ?_
  rw [Activity.bind_assoc]
  refine guarded_lockAndRead fun locked entries held _ within =>
    .look rfl fun answer _ => ?_
  cases answer with
  | error cause =>
      dsimp only
      rw [Activity.bind_assoc]
      exact guarded_unlockAll fun _ => ended _ _
  | ok program =>
      dsimp only
      rw [Activity.bind_assoc]
      refine guarded_commitAll (List.forall_mem_map.mpr fun entry listed => ?_)
        ?_
      · rw [Variable.key_built]
        exact within entry listed
      · rw [Activity.bind_assoc]
        exact guarded_unlockAll fun _ => ended _ _

end Optimizer

/-- Whatever a client asks for, it writes only under locks. -/
theorem Setting.guarded_body (setting : Setting σ) (operation : Operation) :
    (setting.body operation).Guarded setting.store [] := by
  cases operation with
  | append key prediction =>
      rw [setting.body_append]
      exact .ofModify fun _ _ => .done
  | attach key index reward =>
      by_cases admitted : isValidReward reward = true
      · rw [setting.body_attach_of_valid key index admitted]
        exact .ofModify fun _ _ => .done
      · rw [setting.body_attach_of_invalid key index
          (Bool.eq_false_iff.mpr admitted)]
        exact .done
  | set key content => exact .ofModify fun _ _ => .done
  | get key => exact .look rfl fun _ _ => .done
  | optimize id key reward =>
      exact Optimizer.guarded_optimizeStored _ fun _ _ => .done
  | finalize key => exact Optimizer.guarded_finalizeStored fun _ _ => .done
  | build id => exact Optimizer.guarded_buildStored _ fun _ _ => .done

namespace Progress

variable {α : Type} {world : World σ} {store : StoreId} {held : List String}
  {owner other : Owner} {key : String} {progress : Progress α}

/-- What is left of an activity that writes only under locks. -/
def Guarded (store : StoreId) (held : List String) : Progress α -> Prop
  | .active rest => rest.Guarded store held
  | .waiting id key resume =>
      id = store ∧ (resume (.ok ())).Guarded store (key :: held)

/-- A step takes no lock away from others. -/
theorem isHolder_step
    (holds : (world.stores store).isHolder owner key = true)
    (host : ModelHost σ)
    (progress : Progress α)
    (different : other ≠ owner) :
    ((progress.step host other world).2.stores store).isHolder owner key =
      true := by
  have requested {id : StoreId} {name : String} {after : Store}
      (request : (world.stores id).requestLock other name = .granted after ∨
        (world.stores id).requestLock other name = .queued after) :
      ((world.setStore id after).stores store).isHolder owner key = true := by
    refine World.isHolder_setStore holds ?_
    rintro rfl
    exact (Store.requested_of_requestLock request).isHolder holds
  have goes := progress.goesOn_step host other world
  generalize progress.step host other world = next at goes ⊢
  cases goes with
  | acted action resume => exact World.isHolder_perform holds (.inl different)
  | granted after request => exact requested (.inl request)
  | queued after request => exact requested (.inr request)
  | _ => exact holds

/-- After a step an activity has the locks that it still goes by. -/
theorem guarded_step
    (guarded : progress.Guarded store held)
    (holds : ∀ key ∈ held, (world.stores store).isHolder owner key = true)
    (host : ModelHost σ) :
    ∃ later, (progress.step host owner world).1.Guarded store later ∧
      ∀ key ∈ later,
        ((progress.step host owner world).2.stores store).isHolder owner key =
          true := by
  have goes := progress.goesOn_step host owner world
  generalize progress.step host owner world = next at goes ⊢
  cases goes with
  | through => exact ⟨held, guarded, holds⟩
  | replied =>
      cases guarded with
      | generate resumed => exact ⟨held, resumed _, holds⟩
  | resumed granted =>
      obtain ⟨rfl, resumed⟩ := guarded
      exact ⟨_, resumed, List.forall_mem_cons.mpr ⟨granted, holds⟩⟩
  | waits => exact ⟨held, guarded, holds⟩
  | refused reason request =>
      cases guarded with
      | lock granted refused => exact ⟨held, refused reason, holds⟩
  | granted after request =>
      cases guarded with
      | lock granted refused =>
          rw [World.stores_setStore_self]
          have kept := Store.requested_of_requestLock (.inl request)
          exact ⟨_, granted,
            List.forall_mem_cons.mpr ⟨Store.isHolder_of_granted request,
              fun key listed => kept.isHolder (holds key listed)⟩⟩
  | queued after request =>
      cases guarded with
      | lock granted refused =>
          rw [World.stores_setStore_self]
          have kept := Store.requested_of_requestLock (.inr request)
          exact ⟨held, ⟨rfl, granted⟩,
            fun key listed => kept.isHolder (holds key listed)⟩
  | acted action resume =>
      cases guarded with
      | look looks resumed =>
          refine ⟨held, resumed _ (world.names_perform owner action),
            fun key listed => ?_⟩
          refine World.isHolder_perform (holds key listed) (.inr ?_)
          rintro rfl
          contradiction
      | modify within resumed =>
          exact ⟨held, resumed _, fun key listed =>
            World.isHolder_perform (holds key listed) (.inr (by rintro ⟨⟩))⟩
      | commit within resumed =>
          exact ⟨held, resumed, fun key listed =>
            World.isHolder_perform (holds key listed) (.inr (by rintro ⟨⟩))⟩
      | unlock resumed =>
          refine ⟨_, resumed, fun key listed => ?_⟩
          obtain ⟨before, different⟩ := List.mem_filter.mp listed
          refine World.isHolder_perform (holds key before) (.inr fun same => ?_)
          obtain ⟨_, rfl⟩ := Action.unlock.inj same
          exact (bne_iff_ne.mp different) rfl

/-- A step writes one variable at most, and only under the lock of its key. -/
theorem writes_of_guarded
    (guarded : progress.Guarded store held)
    (inStep : (world.stores store).view.Consistent) :
    progress.writes world store = [] ∨
      ∃ entry, progress.writes world store = [entry] ∧ entry.key ∈ held := by
  cases progress with
  | waiting id name resume => exact .inl rfl
  | active rest =>
      cases guarded with
      | done => exact .inl rfl
      | generate resumed => exact .inl rfl
      | @look _ action resume looks resumed =>
          cases action <;> first | exact .inl rfl | contradiction
      | unlock resumed => exact .inl rfl
      | lock granted refused => exact .inl rfl
      | @modify _ name change resume within resumed =>
          have changed := StoreView.change_cases inStep world.now name change
          simp only [writes, World.writes, if_true]
          obtain ⟨reason, refused⟩ | ⟨_, written, _, named, answered⟩ := changed
          · exact .inl (by rw [refused])
          · exact .inr ⟨written, by rw [answered], named ▸ within⟩
      | @commit _ entry resume within resumed =>
          have about : (StoreCall.replace entry).key? = some entry.key := rfl
          simp only [writes, World.writes, if_true]
          obtain nothing | ⟨written, same, named⟩ :=
            StoreView.writes_of_key? inStep world.now about
          · exact .inl nothing
          · exact .inr ⟨written, same, named ▸ within⟩

end Progress

/-- What is stored of a variable that is registered. -/
def Variable.registered (key : String) (initial : Option Instructions)
    (now : Timestamp) :
    Variable :=
  ({ create key now with instructions := initial } : Variable).touch now

/-- The client whom a turn concerns: the one who goes on or is dropped. -/
def Turn.client? : Turn -> Option Owner
  | .move (.proceed owner) | .move (.drop owner) => some owner
  | _ => none

/-- A turn that concerns a client is a step of it or its end. -/
theorem Turn.cases_of_client? {turn : Turn} {owner : Owner}
    (concerns : turn.client? = some owner) :
    turn = .move (.proceed owner) ∨ turn = .move (.drop owner) := by
  unfold client? at concerns
  split at concerns
  · exact .inl (Option.some.inj concerns ▸ rfl)
  · exact .inr (Option.some.inj concerns ▸ rfl)
  · contradiction

/-- Whether a turn writes to keys that are stored only under their locks. -/
def Turn.respectsLocks : Turn -> Bool
  | .move _ | .register _ _ => true
  | .replace _ | .restore _ => false

namespace Pool

variable {setting : Setting σ} {pool : Pool σ} {owner : Owner} {key : String}

/-- Every client has the locks that it goes by. -/
def Guarded (setting : Setting σ) (pool : Pool σ) : Prop :=
  ∀ owner client, pool.clients[owner]? = some client ->
    ∀ progress ∈ client.progress,
      ∃ held, progress.Guarded setting.store held ∧
        ∀ key ∈ held,
          (pool.world.stores setting.store).isHolder owner key = true

/-- Whoever is not concerned keeps the locks that it holds. -/
theorem isHolder_take
    (holds : (pool.world.stores setting.store).isHolder owner key = true)
    {turn : Turn}
    (others : turn.client? ≠ some owner) :
    ((pool.take setting turn).world.stores setting.store).isHolder owner key =
      true := by
  have stored {after : Store} (kept : after.isHolder owner key = true) :
      ((pool.withStore setting after).world.stores setting.store).isHolder owner
        key = true :=
    World.isHolder_setStore holds fun _ => kept
  have takes := takes_take setting pool turn
  generalize pool.take setting turn = after at takes ⊢
  cases takes with
  | registered name initial =>
      exact stored (Store.isHolder_register holds name initial _)
  | replaced entry => exact stored (Store.isHolder_insert holds _)
  | restored entries read =>
      exact stored (Store.isHolder_restoreAll holds entries)
  | refused => exact holds
  | moved moves =>
      cases moves with
      | proceeded operation since replies progress found =>
          exact progress.isHolder_step holds setting.host fun same =>
            others (congrArg some same)
      | dropped client found =>
          exact Store.isHolder_releaseAll holds fun same =>
            others (congrArg some same)
      | _ => exact holds

namespace Guarded

/-- Clients that are there before a turn and not concerned have their
locks after it. -/
theorem of_not_concerned
    (guarded : pool.Guarded setting)
    {turn : Turn}
    {client : Client}
    (before : pool.clients[owner]? = some client)
    (others : turn.client? ≠ some owner) :
    ∀ progress ∈ client.progress,
      ∃ held, progress.Guarded setting.store held ∧ ∀ key ∈ held,
        ((pool.take setting turn).world.stores setting.store).isHolder owner
          key = true := by
  intro progress working
  obtain ⟨held, own, holds⟩ := guarded owner client before progress working
  exact ⟨held, own, fun key listed => isHolder_take (holds key listed) others⟩

/-- Every turn leaves clients that have the locks they go by. -/
theorem take (guarded : pool.Guarded setting) (turn : Turn) :
    (pool.take setting turn).Guarded setting := by
  have takes := takes_take setting pool turn
  have aside {owner : Owner} {client : Client} :=
    @of_not_concerned σ setting pool owner guarded turn client
  generalize pool.take setting turn = after at takes aside ⊢
  intro owner client found
  cases takes with
  | moved moves =>
      cases moves with
      | begun operation =>
          rw [List.getElem?_append] at found
          split at found
          · exact aside found nofun
          · obtain rfl := List.mem_singleton.mp (List.mem_of_getElem? found)
            rintro progress ⟨⟩
            exact ⟨[], setting.guarded_body operation, List.forall_mem_nil _⟩
      | proceeded operation since replies progress there =>
          obtain ⟨rfl, rfl⟩ | ⟨different, before⟩ := getElem?_set_cases found
          · rintro left ⟨⟩
            obtain ⟨held, own, holds⟩ := guarded _ _ there _ rfl
            exact Progress.guarded_step own holds setting.host
          · exact aside before fun same => different (Option.some.inj same).symm
      | dropped dropped there =>
          obtain ⟨rfl, rfl⟩ | ⟨different, before⟩ := getElem?_set_cases found
          · rintro progress ⟨⟩
          · exact aside before fun same => different (Option.some.inj same).symm
      | ticked now => exact aside found nofun
      | _ => exact guarded owner client found
  | refused => exact guarded owner client found
  | _ => exact aside found nofun

/-- However many turns a store has served, its clients write only
under locks. -/
theorem serve (guarded : pool.Guarded setting) (turns : List Turn) :
    (pool.serve setting turns).Guarded setting := by
  induction turns generalizing pool with
  | nil => exact guarded
  | cons turn turns inductionHypothesis =>
      exact inductionHypothesis (guarded.take turn)

/-- While a client holds the lock of a key, others write to that key only by
registering it where it is not stored. -/
theorem writes_cases
    (guarded : pool.Guarded setting)
    (inStep : (pool.world.stores setting.store).view.Consistent)
    (holds : (pool.world.stores setting.store).isHolder owner key = true)
    {turn : Turn}
    (respects : turn.respectsLocks = true)
    (others : turn.client? ≠ some owner) :
    pool.writes setting turn = [] ∨
      ∃ entry, pool.writes setting turn = [entry] ∧
        (entry.key ≠ key ∨
          (pool.world.stores setting.store).find? key = none ∧ ∃ initial,
            turn = .register key initial ∧
            entry = .registered key initial pool.world.now) := by
  cases turn with
  | replace entry => contradiction
  | restore document => contradiction
  | register name initial =>
      cases stored : (pool.world.stores setting.store).find? name with
      | some entry => exact .inl (by simp [writes, StoreView.respond, stored])
      | none =>
          have written : pool.writes setting (.register name initial) =
              [.registered name initial pool.world.now] := by
            simp only [writes, StoreView.respond, Store.view_find?, stored]
            rfl
          refine .inr ⟨_, written, ?_⟩
          by_cases same : name = key
          · subst same
            exact .inr ⟨stored, initial, rfl, rfl⟩
          · exact .inl same
  | move move =>
      cases move with
      | begin operation => exact .inl rfl
      | tick now => exact .inl rfl
      | drop other => exact .inl rfl
      | proceed other =>
          have different : other ≠ owner := fun same =>
            others (congrArg some same)
          cases found : pool.clients[other]? with
          | none => exact .inl (by simp [writes, found])
          | some client =>
              cases working : client.progress with
              | none => exact .inl (by simp [writes, found, working])
              | some progress =>
                  have same : pool.writes setting (.move (.proceed other)) =
                      progress.writes pool.world setting.store := by
                    simp [writes, found, working]
                  obtain ⟨held, own, otherHolds⟩ :=
                    guarded other client found progress working
                  rw [same]
                  refine (Progress.writes_of_guarded own inStep).imp_right ?_
                  rintro ⟨entry, written, within⟩
                  refine ⟨entry, written, .inl ?_⟩
                  rintro rfl
                  exact different
                    (Store.holder_unique (otherHolds _ within) holds)

end Guarded

end Pool
end PromptTuning
