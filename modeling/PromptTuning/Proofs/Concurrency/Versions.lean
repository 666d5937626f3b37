import PromptTuning.Proofs.Concurrency.Overflow
import PromptTuning.Proofs.Concurrency.Upkeep
import PromptTuning.Proofs.Store.Restoration

/-!
# Versions count on

A committed write gives a stored variable the next version. Versions are words,
and nothing looks at them before counting on, so the write to a variable with
the largest version overflows. A variable that is committed whole under an
absent key and those of a snapshot bring in the versions they have. From each of
these, and from zero, the store counts on by one with each write. So versions
grow strictly until the largest word is reached, and unless a version close to
it is brought in that takes as many turns as there are words.
-/

namespace PromptTuning

variable {σ : Type}

/-- A version that is reached from zero or an origin by counting on at most so
many times. -/
def CountedFrom (origins : List UInt64) (limit : Nat) (version : UInt64) :
    Prop :=
  ∃ origin ∈ 0 :: origins, ∃ count ≤ limit,
    version = origin + UInt64.ofNat count

namespace CountedFrom

variable {origins : List UInt64} {limit : Nat} {version : UInt64}

/-- A version that was brought in, and zero, has been counted from no
write at all. -/
theorem of_mem (among : version ∈ 0 :: origins) :
    CountedFrom origins limit version :=
  ⟨version, among, 0, Nat.zero_le limit, (UInt64.add_zero version).symm⟩

/-- A version that is reached by few writes is reached by as many or more. -/
theorem mono {larger : Nat} (within : limit ≤ larger)
    (counted : CountedFrom origins limit version) :
    CountedFrom origins larger version := by
  obtain ⟨origin, among, count, few, same⟩ := counted
  exact ⟨origin, among, count, few.trans within, same⟩

/-- One more write reaches the next version. -/
theorem next (counted : CountedFrom origins limit version) :
    CountedFrom origins (limit + 1) (version + 1) := by
  obtain ⟨origin, among, count, few, rfl⟩ := counted
  refine ⟨origin, among, count + 1, Nat.succ_le_succ few, ?_⟩
  rw [UInt64.ofNat_add, ← UInt64.add_assoc]
  rfl

/-- A version is not far from one that is brought in. -/
theorem exists_toNat_le (counted : CountedFrom origins limit version) :
    ∃ origin ∈ 0 :: origins, version.toNat ≤ origin.toNat + limit := by
  obtain ⟨origin, among, count, few, rfl⟩ := counted
  refine ⟨origin, among, ?_⟩
  rw [UInt64.toNat_add, UInt64.toNat_ofNat']
  have sum := Nat.mod_le (origin.toNat + count % 2 ^ 64) (2 ^ 64)
  have part := Nat.mod_le count (2 ^ 64)
  omega

end CountedFrom

namespace Variable

/-- Building a variable leaves its version alone. -/
theorem version_built (entry : Variable) :
    entry.built.version = entry.version := by
  unfold built
  split <;> rfl

/-- A change leaves counting to the write. -/
theorem version_of_apply
    {change : Change}
    {entry changed : Variable}
    (applied : change.apply entry = .ok changed) :
    changed.version = entry.version := by
  cases change with
  | append prediction =>
      obtain rfl := Except.ok.inj applied
      rfl
  | attach index reward =>
      rw [Change.apply] at applied
      split at applied
      · obtain rfl := Except.ok.inj applied
        rfl
      · contradiction
  | update content =>
      obtain rfl := Except.ok.inj applied
      rfl

end Variable

/-- What is shown after writes was shown before or is written. -/
theorem StoreView.Written.find?_or_mem
    {before after : StoreView}
    {entries : List Variable}
    (written : Written before entries after)
    {key : String}
    {found : Variable}
    (shown : after.find? key = some found) :
    before.find? key = some found ∨ found ∈ entries := by
  have last := written.or_eq_of_find? shown
  rw [Option.or_eq_some_iff] at last
  obtain listed | ⟨_, before⟩ := last
  · exact .inr (List.mem_reverse.mp (List.mem_of_find?_eq_some listed))
  · exact .inl before

/-- What is written to a store in one go: nothing, the next version of a
stored variable, or a variable under an absent key with the version after one
that counts. -/
inductive Store.Continues (store : Store) (counts : UInt64 -> Prop) :
    List Variable -> Prop
  | nothing : Continues store counts []
  | onto {written stored : Variable}
      (found : store.find? written.key = some stored)
      (next : written.version = stored.version + 1) :
      Continues store counts [written]
  | fresh {written : Variable} {last : UInt64}
      (absent : store.find? written.key = none)
      (known : counts last)
      (next : written.version = last + 1) :
      Continues store counts [written]

namespace Store

variable {store : Store} {counts : UInt64 -> Prop}

/-- The versions of all stored variables count. -/
def VersionsIn (counts : UInt64 -> Prop) (store : Store) : Prop :=
  ∀ key entry, store.find? key = some entry -> counts entry.version

/-- Whatever is written over a stored variable is all that is written, and
it counts on. -/
theorem Continues.onto_of_mem
    {entries : List Variable}
    {written stored : Variable}
    (continues : store.Continues counts entries)
    (writes : written ∈ entries)
    (found : store.find? written.key = some stored) :
    entries = [written] ∧ written.version = stored.version + 1 := by
  cases continues with
  | nothing => contradiction
  | onto earlier next =>
      obtain rfl := List.mem_singleton.mp writes
      rw [found] at earlier
      obtain rfl := Option.some.inj earlier
      exact ⟨rfl, next⟩
  | fresh absent =>
      obtain rfl := List.mem_singleton.mp writes
      rw [found] at absent
      contradiction

/-- A version that is written over known ones follows a known one. -/
theorem Continues.version_of_mem
    {entries : List Variable}
    {written : Variable}
    {later : UInt64 -> Prop}
    (continues : store.Continues counts entries)
    (known : store.VersionsIn counts)
    (follows : ∀ version, counts version -> later (version + 1))
    (writes : written ∈ entries) :
    later written.version := by
  cases continues with
  | nothing => contradiction
  | onto found next =>
      obtain rfl := List.mem_singleton.mp writes
      exact next ▸ follows _ (known _ _ found)
  | fresh _ last next =>
      obtain rfl := List.mem_singleton.mp writes
      exact next ▸ follows _ last

/-- A change goes on from the version that is stored. -/
theorem continues_change (now : Timestamp) (key : String) (change : Change) :
    store.Continues counts (store.view.change now key change).2 := by
  cases found : store.find? key with
  | none =>
      simp only [StoreView.change, view_find?, found]
      exact .nothing
  | some stored =>
      cases applied : change.apply stored with
      | error reason =>
          simp only [StoreView.change, view_find?, found, applied]
          exact .nothing
      | ok changed =>
          simp only [StoreView.change, view_find?, found, applied]
          have named : changed.key = key :=
            (Change.key_of_apply applied).trans (key_of_find? found)
          have version := Variable.version_of_apply applied
          exact .onto (named.symm ▸ found) (congrArg (· + 1) version)

/-- A commit goes on from the version that is stored, or from the one
that it brings. -/
theorem continues_replace (now : Timestamp) {entry : Variable}
    (known : counts entry.version) :
    store.Continues counts (store.view.respond now (.replace entry)).2 := by
  cases found : store.find? entry.key with
  | none =>
      simp only [StoreView.respond, view_find?, found]
      exact .fresh found known rfl
  | some stored =>
      simp only [StoreView.respond, view_find?, found]
      exact .onto found rfl

/-- A registration counts from zero. -/
theorem continues_register (now : Timestamp) (key : String)
    (initial : Option Instructions) (zero : counts 0) :
    store.Continues counts
      (store.view.respond now (.register key initial)).2 := by
  cases found : store.find? key with
  | none =>
      simp only [StoreView.respond, view_find?, found]
      exact .fresh found zero rfl
  | some stored =>
      simp only [StoreView.respond, view_find?, found]
      exact .nothing

end Store

namespace Action

/-- Whether the version of a variable that an action commits counts. -/
def Continues (counts : UInt64 -> Prop) : Action -> Prop
  | .commit _ entry => counts entry.version
  | _ => True

end Action

/-- An activity that commits only variables whose versions count, as long as
those of the variables that it reads do. -/
inductive Activity.Continues {α : Type} (id : StoreId) (counts : UInt64 -> Prop)
    (post : α -> Prop) : Activity α -> Prop
  | done {result : α} (fits : post result) :
      Continues id counts post (.done result)
  | act
      {action : Action}
      {resume : action.Answer -> Activity α}
      (continues : action.Continues counts)
      (resumed : ∀ answer,
        action.Tells id (fun entry => counts entry.version) answer ->
        Continues id counts post (resume answer)) :
      Continues id counts post (.act action resume)
  | lock
      {store : StoreId}
      {key : String}
      {resume : Except StoreError Unit -> Activity α}
      (resumed : ∀ outcome, Continues id counts post (resume outcome)) :
      Continues id counts post (.lock store key resume)
  | generate
      {model : LanguageModel}
      {request : GenerationRequest}
      {resume : Except LanguageModelError Value -> Activity α}
      (resumed : ∀ reply, Continues id counts post (resume reply)) :
      Continues id counts post (.generate model request resume)

namespace Activity.Continues

variable {α β : Type} {id : StoreId} {counts : UInt64 -> Prop}
  {post : α -> Prop} {onward : β -> Prop}

/-- What goes on from known versions does so when it is followed
by what does. -/
theorem bind
    {activity : Activity α}
    {next : α -> Activity β}
    (continues : activity.Continues id counts post)
    (continued :
      ∀ result, post result -> (next result).Continues id counts onward) :
    (activity.bind next).Continues id counts onward := by
  induction continues with
  | done fits => exact continued _ fits
  | act continues _ inductionHypothesis =>
      exact .act continues inductionHypothesis
  | lock _ inductionHypothesis => exact .lock inductionHypothesis
  | generate _ inductionHypothesis => exact .generate inductionHypothesis

/-- What only looks commits nothing. -/
theorem ofAlike
    {uses : Optimizer -> Prop}
    {related : α -> β -> Prop}
    {activity : Activity α}
    {other : Activity β}
    (alike : Activity.Alike uses related activity other)
    (fits : ∀ first second, related first second -> post first) :
    activity.Continues id counts post := by
  induction alike with
  | done results => exact .done (fits _ _ results)
  | read _ inductionHypothesis =>
      exact .act trivial fun answer _ => inductionHypothesis answer answer
  | program _ _ inductionHypothesis =>
      exact .act trivial fun answer _ => inductionHypothesis answer
  | generate _ inductionHypothesis => exact .generate inductionHypothesis

/-- The lock around an activity commits nothing. -/
theorem withLock
    {ε : Type}
    {store : StoreId}
    {key : String}
    {refusal : StoreError -> ε}
    {body : Activity (Except ε α)}
    (continues : body.Continues id counts fun _ => True) :
    (Activity.withLock store key refusal body).Continues id
      counts fun _ => True := by
  refine .lock fun outcome => ?_
  cases outcome with
  | error reason => exact .done trivial
  | ok _ =>
      exact continues.bind fun _ _ => .act trivial fun _ _ => .done trivial

/-- A change under its lock counts on from what is stored. -/
theorem modify
    {store : StoreId}
    {key : String}
    {change : Change}
    {next : Except StoreError Variable -> Activity β}
    (continued : ∀ answer, (next answer).Continues id counts onward) :
    ((Activity.modify store key change).bind next).Continues id
      counts onward := by
  have changes :
      (Activity.modify store key change).Continues id counts fun _ => True :=
    withLock (.act trivial fun _ _ => .done trivial)
  exact changes.bind fun answer _ => continued answer

end Activity.Continues

namespace Optimizer

variable {counts : UInt64 -> Prop} {store : StoreId} {key : String}
  {reward : Double}

/-- A pass leaves the version of the variable that it is given. -/
theorem continues_optimize (optimizer : Optimizer) {id : StoreId}
    (entry : Variable) :
    (optimizer.optimize entry reward).Continues id counts
      fun result => result.2.version = entry.version :=
  .ofAlike (optimizer.alike_optimize (Eq.refl entry.undated) reward)
    fun _ _ passed => passed.resultFirst.version_eq

/-- A stored pass commits its variable with the version that it has read. -/
theorem continues_optimizeStored (optimizer : Optimizer) :
    (optimizer.optimizeStored store key reward).Continues store
      counts fun _ => True := by
  rw [optimizeStored_eq]
  refine .lock fun granted => ?_
  cases granted with
  | error reason => exact .done trivial
  | ok _ =>
      refine .act trivial fun found told => ?_
      cases found with
      | none => exact .act trivial fun _ _ => .done trivial
      | some entry =>
          refine (optimizer.continues_optimize entry).bind fun ended kept => ?_
          have known : counts ended.2.version := kept ▸ told rfl entry rfl
          unfold settle
          split
          · exact .act known fun _ _ => .act trivial fun _ _ => .done trivial
          · exact .act trivial fun _ _ => .done trivial

/-- Finalizing commits a variable with the version that it has read. -/
theorem continues_finalizeStored :
    (finalizeStored store key).Continues store counts fun _ => True := by
  refine .withLock (.act trivial fun found told => ?_)
  cases found with
  | none => exact .done trivial
  | some entry => exact .act (told rfl entry rfl) fun _ _ => .done trivial

/-- Variables are read with the versions that are stored. -/
theorem continues_lockAndRead (keys : List String) :
    (lockAndRead store keys).Continues store counts
      fun read => ∀ entry ∈ read.2, counts entry.version := by
  induction keys with
  | nil => exact .done (List.forall_mem_nil _)
  | cons key keys inductionHypothesis =>
      refine .lock fun granted => ?_
      cases granted with
      | error reason => exact inductionHypothesis
      | ok _ =>
          refine .act trivial fun found told =>
            inductionHypothesis.bind fun read known => .done ?_
          intro entry listed
          obtain own | others := List.mem_append.mp listed
          · exact told rfl entry (Option.mem_toList.mp own)
          · exact known entry others

/-- Variables with known versions are committed with these. -/
theorem continues_commitAll {entries : List Variable}
    (known : ∀ entry ∈ entries, counts entry.version) :
    (commitAll store entries).Continues store counts fun _ => True := by
  induction entries with
  | nil => exact .done trivial
  | cons entry entries inductionHypothesis =>
      obtain ⟨first, others⟩ := List.forall_mem_cons.mp known
      exact .act first fun _ _ => inductionHypothesis others

/-- Letting go of locks writes nothing. -/
theorem continues_unlockAll (keys : List String) :
    (unlockAll store keys).Continues store counts fun _ => True := by
  induction keys with
  | nil => exact .done trivial
  | cons key keys inductionHypothesis =>
      exact .act trivial fun _ _ => inductionHypothesis

/-- Building commits the variables with the versions that it has read. -/
theorem continues_buildStored (optimizer : Optimizer) :
    (optimizer.buildStored store).Continues store counts fun _ => True := by
  rw [buildStored_eq]
  refine .act trivial fun keys _ =>
    (continues_lockAndRead keys).bind fun read known => ?_
  refine .act trivial fun answer _ => ?_
  cases answer with
  | error cause =>
      exact (continues_unlockAll read.1).bind fun _ _ => .done trivial
  | ok program =>
      refine (continues_commitAll
        (List.forall_mem_map.mpr fun entry listed => ?_)).bind fun _ _ =>
        (continues_unlockAll read.1).bind fun _ _ => .done trivial
      rw [entry.version_built]
      exact known entry listed

end Optimizer

namespace Setting

open Optimizer

variable {setting : Setting σ} {counts : UInt64 -> Prop}

/-- Whatever clients ask for, they commit only variables whose versions
they have read. -/
theorem continues_body (operation : Operation) :
    (setting.body operation).Continues setting.store counts fun _ => True := by
  cases operation with
  | append key prediction =>
      rw [setting.body_append]
      exact .modify fun _ => .done trivial
  | attach key index reward =>
      by_cases admitted : isValidReward reward = true
      · rw [setting.body_attach_of_valid key index admitted]
        exact .modify fun _ => .done trivial
      · rw [setting.body_attach_of_invalid key index
          (Bool.eq_false_iff.mpr admitted)]
        exact .done trivial
  | set key content => exact .modify fun _ => .done trivial
  | get key => exact .act trivial fun _ _ => .done trivial
  | optimize id key reward =>
      exact (continues_optimizeStored _).bind fun _ _ => .done trivial
  | finalize key => exact continues_finalizeStored.bind fun _ _ => .done trivial
  | build id => exact (continues_buildStored _).bind fun _ _ => .done trivial

end Setting

namespace Progress

variable {α : Type} {id : StoreId} {counts : UInt64 -> Prop}

/-- What is left of an activity that commits only variables whose
versions count. -/
def Continues (id : StoreId) (counts : UInt64 -> Prop) : Progress α -> Prop
  | .active rest => rest.Continues id counts fun _ => True
  | .waiting _ _ resume =>
      ∀ outcome, (resume outcome).Continues id counts fun _ => True

/-- After a step an activity still goes on from known versions. -/
theorem Continues.step
    {world : World σ}
    {progress : Progress α}
    (continues : progress.Continues id counts)
    (known : (world.stores id).VersionsIn counts)
    (host : ModelHost σ)
    (owner : Owner) :
    (progress.step host owner world).1.Continues id counts := by
  have goes := progress.goesOn_step host owner world
  generalize progress.step host owner world = next at goes ⊢
  cases goes with
  | through | waits => exact continues
  | resumed => exact continues _
  | replied =>
      cases continues with
      | generate resumed => exact resumed _
  | refused | granted =>
      cases continues with
      | lock resumed => exact resumed _
  | queued =>
      cases continues with
      | lock resumed => exact resumed
  | acted action resume =>
      cases continues with
      | act _ resumed =>
          refine resumed _ ?_
          cases action with
          | read store key =>
              rintro rfl entry found
              exact known key entry found
          | _ => trivial

/-- A step writes at most one variable, and it counts on. -/
theorem Continues.writes
    {world : World σ}
    {progress : Progress α}
    (continues : progress.Continues id counts)
    (zero : counts 0) :
    (world.stores id).Continues counts (progress.writes world id) := by
  cases progress with
  | waiting store key resume => exact .nothing
  | active rest =>
      cases continues with
      | done | generate | lock => exact .nothing
      | @act action resume continues _ =>
          cases action with
          | register store key initial =>
              simp only [Progress.writes, World.writes]
              split
              · exact Store.continues_register world.now key initial zero
              · exact .nothing
          | modify store key change =>
              simp only [Progress.writes, World.writes]
              split
              · exact Store.continues_change world.now key change
              · exact .nothing
          | commit store entry =>
              simp only [Progress.writes, World.writes]
              split
              · exact Store.continues_replace world.now continues
              · exact .nothing
          | _ => exact .nothing

end Progress

namespace Turn

/-- The versions that a turn brings in as they are. -/
def versions : Turn -> List UInt64
  | .replace entry => [entry.version]
  | .restore document =>
      match Store.readSnapshot document with
      | .error _ => []
      | .ok entries => entries.map (·.version)
  | _ => []

/-- A turn brings in none but the versions that all turns bring in. -/
theorem versions_subset {turn : Turn} {turns : List Turn}
    (taken : turn ∈ turns) :
    turn.versions ⊆ turns.flatMap versions :=
  fun _ brought => List.mem_flatMap_of_mem taken brought

end Turn

namespace Pool

variable {setting : Setting σ} {pool : Pool σ} {origins : List UInt64}
  {limit : Nat}

/-- A restoration brings in the versions of the variables that it writes. -/
theorem version_mem_of_restore {document : Json} {written : Variable}
    (listed : written ∈ pool.writes setting (.restore document)) :
    written.version ∈ (Turn.restore document).versions := by
  cases read : Store.readSnapshot document with
  | error reason => simp [Pool.writes, StoreView.respond, read] at listed
  | ok entries =>
      simp only [Pool.writes, StoreView.respond, read] at listed
      simp only [Turn.versions, read]
      exact List.mem_map_of_mem listed

/-- The stored versions are counted from origins, and so are those that the
clients commit, now and later. -/
structure Counting (setting : Setting σ) (origins : List UInt64) (limit : Nat)
    (pool : Pool σ) : Prop where
  stored : (pool.world.stores setting.store).VersionsIn
    (CountedFrom origins limit)
  -- A client commits what it has read, however far the others have counted by
  -- then.
  working :
    ∀ client ∈ pool.clients, ∀ progress ∈ client.progress,
      ∀ later, limit ≤ later ->
        progress.Continues setting.store (CountedFrom origins later)

namespace Counting

/-- Any turn but a restoration writes at most one variable, and it counts on. -/
theorem writes (counted : pool.Counting setting origins limit) {turn : Turn}
    (committed : turn.isRestoration = false)
    (brought : turn.versions ⊆ origins) :
    (pool.world.stores setting.store).Continues (CountedFrom origins limit)
      (pool.writes setting turn) := by
  have zero : CountedFrom origins limit 0 := .of_mem List.mem_cons_self
  cases turn with
  | move move =>
      cases move with
      | proceed owner =>
          cases working : pool.clients[owner]?.bind (·.progress) with
          | none =>
              simp only [Pool.writes, working]
              exact .nothing
          | some progress =>
              simp only [Pool.writes, working]
              obtain ⟨client, found, own⟩ := Option.bind_eq_some_iff.mp working
              exact (counted.working client (List.mem_of_getElem? found)
                progress own limit (Nat.le_refl limit)).writes zero
      | _ => exact .nothing
  | register key initial => exact Store.continues_register _ key initial zero
  | replace entry =>
      exact Store.continues_replace _ (.of_mem (List.mem_cons_of_mem 0
        (brought List.mem_cons_self)))
  | restore document => contradiction

/-- Whatever is written, the stored versions stay counted. -/
theorem stored_take (counted : pool.Counting setting origins limit)
    (inStep : (pool.world.stores setting.store).view.Consistent)
    {turn : Turn}
    (brought : turn.versions ⊆ origins) :
    ((pool.take setting turn).world.stores setting.store).VersionsIn
      (CountedFrom origins (limit + 1)) := by
  intro key entry found
  obtain before | listed := (Pool.written_take inStep turn).find?_or_mem found
  · exact (counted.stored key entry before).mono (Nat.le_succ limit)
  · cases turn with
    | restore document =>
        exact .of_mem
          (List.mem_cons_of_mem 0 (brought (version_mem_of_restore listed)))
    | _ =>
        exact (counted.writes rfl brought).version_of_mem counted.stored
          (fun _ known => known.next) listed

/-- Whatever a client does next, it commits only what counts. -/
theorem working_take (counted : pool.Counting setting origins limit)
    (turn : Turn) :
    ∀ client ∈ (pool.take setting turn).clients,
      ∀ progress ∈ client.progress, ∀ later,
        limit ≤ later ->
          progress.Continues setting.store (CountedFrom origins later) := by
  refine (Pool.takes_take setting pool turn).working counted.working ?_ ?_
  · intro operation _ later _
    exact Setting.continues_body operation
  · intro owner progress own later enough
    exact (own later enough).step
      (fun key entry found => (counted.stored key entry found).mono enough)
      setting.host owner

/-- One turn counts on by one at most. -/
theorem take (counted : pool.Counting setting origins limit)
    (inStep : (pool.world.stores setting.store).view.Consistent)
    {turn : Turn}
    (brought : turn.versions ⊆ origins) :
    (pool.take setting turn).Counting setting origins (limit + 1) where
  stored := counted.stored_take inStep brought
  working client listed progress own later enough :=
    counted.working_take turn client listed progress own later
      ((Nat.le_succ limit).trans enough)

/-- Several turns count on by one each at most. -/
theorem serve (counted : pool.Counting setting origins limit)
    (inStep : (pool.world.stores setting.store).view.Consistent)
    {turns : List Turn}
    (brought : ∀ turn ∈ turns, turn.versions ⊆ origins) :
    (pool.serve setting turns).Counting setting origins
      (limit + turns.length) := by
  induction turns generalizing pool limit with
  | nil => exact counted
  | cons turn turns inductionHypothesis =>
      obtain ⟨first, others⟩ := List.forall_mem_cons.mp brought
      have later := inductionHypothesis (counted.take inStep first)
        ((Pool.written_take inStep turn).consistent inStep) others
      rw [List.length_cons, Nat.add_comm turns.length, ← Nat.add_assoc]
      exact later

end Counting
end Pool

namespace Setting

section Counting

variable (setting : Setting σ) (start : World σ) (capacity : Nat)
  (turns : List Turn)

/-- Turns are served one after another. -/
theorem serving_concat (turn : Turn) :
    setting.serving start capacity (turns ++ [turn]) =
      (setting.serving start capacity turns).take setting turn :=
  Pool.serve_concat setting turns turn _

/-- Whatever turns are served, all versions are counted from those
brought in. -/
theorem counting_serving {origins : List UInt64}
    (brought : ∀ turn ∈ turns, turn.versions ⊆ origins) :
    (setting.serving start capacity turns).Counting setting origins
      turns.length := by
  have fresh :
      (start.setStore setting.store (.withCapacity capacity)).stores
        setting.store =
        .withCapacity capacity := World.stores_setStore_self ..
  have counting :
      (Pool.ofWorld
        (start.setStore setting.store (.withCapacity capacity))).Counting
        setting origins 0 := by
    refine ⟨?_, List.forall_mem_nil _⟩
    rw [Pool.ofWorld, fresh]
    rintro key entry ⟨⟩
  rw [← Nat.zero_add turns.length]
  refine counting.serve ?_ brought
  rw [Pool.ofWorld, fresh]
  exact Store.consistent_withCapacity capacity

end Counting

/-- A write to a stored variable is the only one of its turn. -/
theorem writes_eq_singleton
    {setting : Setting σ}
    {start : World σ}
    {capacity : Nat}
    {turns : List Turn}
    {turn : Turn}
    (committed : turn.isRestoration = false)
    {written stored : Variable}
    (writes :
      written ∈ (setting.serving start capacity turns).writes setting turn)
    (found :
      (setting.reached start capacity turns).find? written.key = some stored) :
    (setting.serving start capacity turns).writes setting turn = [written] ∧
      written.version = stored.version + 1 := by
  -- For the write itself, what the last turn brings in counts as well.
  have continues : (setting.reached start capacity turns).Continues
      (CountedFrom ((turns ++ [turn]).flatMap Turn.versions) turns.length)
      ((setting.serving start capacity turns).writes setting turn) := by
    refine (setting.counting_serving start capacity
      turns fun earlier taken => ?_).writes committed
      (Turn.versions_subset (List.mem_append_right _ List.mem_cons_self))
    exact Turn.versions_subset (List.mem_append_left _ taken)
  exact continues.onto_of_mem writes found

/-- A committed write to a stored variable makes its version the next one. That
is larger as long as the store has not overflowed, which it does exactly if the
stored version is the largest word. The stored version was counted on, by one
for each turn at most, from zero or from a version that a turn has brought in.
So as long as none of these is close to the largest word, a committed write
makes the version strictly larger and the store does not overflow. -/
theorem versions_grow_until_exhausted
    {setting : Setting σ}
    {start : World σ}
    {capacity : Nat}
    {turns : List Turn}
    {turn : Turn}
    (committed : turn.isRestoration = false)
    {written stored : Variable}
    (writes :
      written ∈ (setting.serving start capacity turns).writes setting turn)
    (found :
      (setting.reached start capacity turns).find? written.key = some stored) :
    let before := setting.reached start capacity turns
    let after := setting.reached start capacity (turns ++ [turn])
    after.find? written.key = some written ∧
      written.version = stored.version + 1 ∧
      (after.overflowed = false -> stored.version < written.version) ∧
      (after.overflowed = true ↔
        before.overflowed = true ∨ stored.version.toNat + 1 = UInt64.size) ∧
      (stored.version < written.version ↔
        stored.version.toNat + 1 < UInt64.size) ∧
      CountedFrom (turns.flatMap Turn.versions) turns.length stored.version ∧
      ((∀ origin ∈ 0 :: turns.flatMap Turn.versions,
          origin.toNat + turns.length + 1 < UInt64.size) ->
        stored.version < written.version ∧
        after.overflowed = before.overflowed) := by
  intro before after
  have counted :
      CountedFrom (turns.flatMap Turn.versions) turns.length stored.version :=
    (setting.counting_serving start capacity turns fun _ =>
      Turn.versions_subset).stored
      _ _ found
  obtain ⟨single, next⟩ := writes_eq_singleton committed writes found
  have taken :=
    Pool.written_take (setting.consistent_reached start capacity turns) turn
  rw [← serving_concat, single] at taken
  have exhausted : written.isWrapped = stored.isExhausted := by
    rw [← stored.isWrapped_touch written.updatedAt]
    exact congrArg (· == 0) next
  have overflowed :
      after.overflowed = (before.overflowed || stored.isExhausted) := by
    have noted :=
      (setting.serving start capacity turns).overflowed_take setting turn
    rw [Pool.overflows, committed, single, List.any_cons, List.any_nil,
      Bool.or_false, Bool.not_false, Bool.true_and, exhausted,
      ← serving_concat] at noted
    exact noted
  have largest :
      stored.isExhausted = true ↔ stored.version.toNat + 1 = UInt64.size := by
    rw [Variable.isExhausted, beq_iff_eq]
  have grows :
      stored.version < written.version ↔ stored.isExhausted = false := by
    rw [next, Variable.isExhausted_eq_false_iff]
  have bounded : stored.version.toNat + 1 ≤ UInt64.size :=
    stored.version.toNat_lt
  refine ⟨taken.wrote_of_single.stored, next, ?_, ?_, ?_,
    counted, fun far => ?_⟩
  · intro running
    rw [overflowed, Bool.or_eq_false_iff] at running
    exact grows.mpr running.2
  · rw [overflowed, Bool.or_eq_true, largest]
  · rw [grows, ← Bool.not_eq_true, largest]
    omega
  · obtain ⟨origin, among, near⟩ := counted.exists_toNat_le
    have enough := far origin among
    have room : stored.isExhausted = false := by
      rw [← Bool.not_eq_true, largest]
      omega
    exact ⟨grows.mpr room, by rw [overflowed, room, Bool.or_false]⟩

/-- The second write to a variable that was registered and to which one
prediction is appended. -/
theorem versions_grow_until_exhausted_of_append :
    let turns : List Turn :=
      [.register "a" none, .move (.begin (.append "a" (.unscored [] []))),
        .move (.proceed 0)]
    let turn : Turn := .move (.proceed 0)
    ∃ written stored : Variable,
      turn.isRestoration = false ∧
        written ∈ (refusing.serving .fresh 1 turns).writes refusing turn ∧
        (refusing.reached .fresh 1 turns).find? written.key = some stored ∧
        (refusing.reached .fresh 1 (turns ++ [turn])).find? written.key =
          some written ∧
        stored.version = 1 ∧ written.version = 2 ∧
        stored.version < written.version ∧
        (refusing.reached .fresh 1 (turns ++ [turn])).overflowed = false := by
  intro turns turn
  have writes : ⟨"a", [.unscored [] []], none, [], .unbuilt, 2, default⟩ ∈
      (refusing.serving .fresh 1 turns).writes refusing turn :=
    List.mem_singleton.mpr rfl
  have found : (refusing.reached .fresh 1 turns).find? "a" =
      some ⟨"a", [], none, [], .unbuilt, 1, default⟩ := rfl
  have far : ∀ origin ∈ 0 :: turns.flatMap Turn.versions,
      origin.toNat + turns.length + 1 < UInt64.size :=
    List.forall_mem_singleton.mpr (by simp [turns, UInt64.size])
  obtain ⟨stays, _, _, _, _, _, grows⟩ :=
    versions_grow_until_exhausted rfl writes found
  exact ⟨_, _, rfl, writes, found, stays, rfl, rfl,
    (grows far).1, (grows far).2⟩

/-- A snapshot brings in the largest version and a prediction is appended:
counting the write overflows, and the version does not grow. -/
theorem append_overflows_after_largest :
    let turns : List Turn :=
      [.restore (.object [("variables", .array [.object [("key", .string "a"),
          ("version", .number (.ofWord 18446744073709551615)),
          ("updated_at", .string "2024-01-01T00:00:00Z")]])]),
        .move (.begin (.append "a" (.unscored [] []))), .move (.proceed 0)]
    let turn : Turn := .move (.proceed 0)
    turn.isRestoration = false ∧
      ((refusing.serving .fresh 1 turns).writes refusing turn).map (·.key) =
        ["a"] ∧
      (refusing.reached .fresh 1 turns).overflowed = false ∧
      (refusing.reached .fresh 1 (turns ++ [turn])).overflowed = true ∧
      ∃ stored written : Variable,
        (refusing.reached .fresh 1 turns).find? "a" = some stored ∧
          (refusing.reached .fresh 1 (turns ++ [turn])).find? "a" =
            some written ∧
          stored.version.toNat + 1 = UInt64.size ∧
          ¬ stored.version < written.version := by
  intro turns turn
  have before : ((refusing.reached .fresh 1 turns).find? "a").map (·.version) =
      some 18446744073709551615 := by decide +kernel
  have after :
      ((refusing.reached .fresh 1 (turns ++ [turn])).find? "a").map
        (·.version) =
        some 0 := by decide +kernel
  obtain ⟨stored, found, largest⟩ := Option.map_eq_some_iff.mp before
  obtain ⟨written, stays, zero⟩ := Option.map_eq_some_iff.mp after
  refine ⟨rfl, by decide +kernel, by decide +kernel, by decide +kernel,
    stored, written, found,
    stays, ?_, ?_⟩
  · rw [largest]
    rfl
  · rw [zero]
    exact UInt64.not_lt_zero

end Setting
end PromptTuning
