import PromptTuning.Optimizer.Lifecycle
import PromptTuning.Proofs.Concurrency.Service
import PromptTuning.Proofs.Concurrency.Upkeep
import PromptTuning.Proofs.Optimizer.Building

/-!
# The order of phases

Through all undertakings a stored variable is unbuilt exactly until the first
building after its registration, only idle variables have candidates, and each
of those has a valid reward. Passes that are dropped wherever they stand, and
registrations that drop the oldest variable, change nothing about this.
-/

namespace PromptTuning

variable {σ : Type}

namespace Setting

variable (setting : Setting σ) (owner : Owner)

/-- Whether an undertaking registers a key. -/
def Registers (world : World σ) (key : String) : Undertaking -> Prop
  | .register name _ =>
      name = key ∧ (world.stores setting.store).contains key = false
  | _ => False

/-- Whether an undertaking builds the variable of a key. -/
def Builds (world : World σ) (key : String) : Undertaking -> Prop
  | .build id =>
      (world.stores setting.store).contains key = true ∧
        (((setting.optimizer id).buildStored setting.store).run setting.host
          owner world.clock world).1
          = some (.ok ())
  | _ => False

/-- Whether a key has been built since it was last registered. -/
def BuiltSince (start : World σ) (key : String) :
    List (Timestamp × Undertaking) -> Prop
  | [] => False
  | (now, undertaking) :: earlier =>
      setting.Builds owner ((setting.after owner start earlier).onDate now)
        key undertaking ∨
        BuiltSince start key earlier ∧
          ¬setting.Registers (setting.after owner start earlier) key undertaking

end Setting

/-- What is orderly about a variable that only goes through undertakings. -/
structure Variable.Orderly (entry : Variable) : Prop where
  settled : entry.phase ≠ .optimizing
  pooled : entry.candidates ≠ [] -> entry.phase = .idle
  scored :
    ∀ candidate ∈ entry.candidates, ∃ reward, candidate.reward = some reward ∧
      isValidReward reward = true

namespace Variable

/-- A variable is orderly when it is registered. -/
theorem orderly_create (key : String) (initial : Option Instructions)
    (now : Timestamp) :
    (({ create key now with instructions := initial } : Variable).touch
      now).Orderly :=
  ⟨nofun, fun pooled => absurd rfl pooled, List.forall_mem_nil _⟩

/-- What is superseded at a valid reward is a candidate with that reward. -/
theorem Orderly.scoredAt {entry : Variable} {reward : Double}
    (orderly : entry.Orderly) (valid : isValidReward reward = true) :
    (entry.scoredAt reward).Orderly := by
  refine ⟨nofun, fun _ => rfl, fun candidate listed => ?_⟩
  obtain before | archived := List.mem_append.mp listed
  · exact orderly.scored candidate before
  · obtain ⟨active, _, rfl⟩ :=
      Option.map_eq_some_iff.mp (Option.mem_toList.mp archived)
    exact ⟨reward, rfl, valid⟩

/-- Whatever is done to an orderly variable leaves it orderly. -/
theorem upheld_orderly : Upheld Orderly where
  redated _ _ orderly := ⟨orderly.settled, orderly.pooled, orderly.scored⟩
  built := by
    intro entry orderly
    unfold built
    split
    · exact ⟨nofun, fun _ => rfl, orderly.scored⟩
    · exact orderly
  finalized := by
    intro entry orderly
    refine ⟨?_, fun pooled => absurd rfl pooled, List.forall_mem_nil _⟩
    change (if entry.phase.isBuilt then Phase.finalized else entry.phase) ≠
      .optimizing
    split
    · exact nofun
    · exact orderly.settled
  passed := by
    intro entry reward result valid orderly passed
    cases passed with
    | refused => exact orderly
    | idled => exact ⟨nofun, fun _ => rfl, orderly.scored⟩
    | asked outcome =>
        have scored := orderly.scoredAt valid
        cases outcome with
        | error reason => exact scored
        | ok lines => exact ⟨scored.settled, scored.pooled, scored.scored⟩

end Variable

/-- A new prediction changes neither the phase nor the candidates. -/
theorem Change.phase_of_append {prediction : Prediction}
    {stored changed : Variable}
    (applied : (Change.append prediction).apply stored = .ok changed) :
    changed.phase = stored.phase ∧ changed.candidates = stored.candidates := by
  obtain rfl := Except.ok.inj applied
  exact ⟨rfl, rfl⟩

/-- A new reward changes neither the phase nor the candidates. -/
theorem Change.phase_of_attach {index : Nat} {reward : Double}
    {stored changed : Variable}
    (applied : (Change.attach index reward).apply stored = .ok changed) :
    changed.phase = stored.phase ∧ changed.candidates = stored.candidates := by
  rw [apply] at applied
  split at applied
  · obtain rfl := Except.ok.inj applied
    exact ⟨rfl, rfl⟩
  · contradiction

/-- An activity that is through takes no more steps. -/
theorem Progress.steps_done {α : Type} (host : ModelHost σ) (owner : Owner)
    (count : Nat) (result : α) (world : World σ) :
    Progress.steps host owner count (.active (.done result)) world =
      (.active (.done result), world) := by
  induction count with
  | zero => rfl
  | succ count inductionHypothesis => exact inductionHypothesis

/-- A variable that is built counts as built. -/
theorem Variable.isBuilt_built (entry : Variable) :
    entry.built.phase.isBuilt = true := by
  by_cases unbuilt : entry.phase = .unbuilt
  · rw [built, if_pos unbuilt]
    rfl
  · rw [built, if_neg unbuilt]
    simp [Phase.isBuilt, unbuilt]

/-- Finalizing builds nothing. -/
theorem Variable.isBuilt_finalized (entry : Variable) :
    entry.finalized.phase.isBuilt = entry.phase.isBuilt := by
  change (if entry.phase.isBuilt then Phase.finalized
    else entry.phase).isBuilt = _
  cases built : entry.phase.isBuilt with
  | true => rfl
  | false => exact built

/-- A change that leaves phase and candidates alone leaves a
variable orderly. -/
theorem Variable.Orderly.of_eq {stored changed : Variable}
    (orderly : stored.Orderly)
    (same :
      changed.phase = stored.phase ∧ changed.candidates = stored.candidates) :
    changed.Orderly :=
  ⟨same.1 ▸ orderly.settled, by rw [same.1, same.2]; exact orderly.pooled,
    same.2 ▸ orderly.scored⟩

namespace StoreView

/-- Whether the variable under a key has been built, if there is one. -/
def isBuilt? (view : StoreView) (key : String) : Option Bool :=
  (view.find? key).map (·.phase.isBuilt)

variable {before after : StoreView}

/-- A write that keeps whether its variable is built keeps it for
all variables. -/
theorem Wrote.isBuilt?_eq
    {entry stored : Variable}
    (wrote : Wrote before entry after)
    (inStep : before.Consistent)
    (found : before.find? entry.key = some stored)
    (same : entry.phase.isBuilt = stored.phase.isBuilt) :
    after.isBuilt? = before.isBuilt? := by
  funext key
  by_cases own : key = entry.key
  · subst own
    simp [isBuilt?, wrote.stored, found, same]
  · have present : entry.key ∈ before.keys :=
      (inStep.listed _).mpr ⟨stored, found⟩
    cases wrote.placed with
    | kept _ _ _ others => rw [isBuilt?, others key own, isBuilt?]
    | appended absent => exact absurd present absent
    | displaced _ _ absent => exact absurd present absent

/-- A change that keeps phases keeps which variables are built. -/
theorem isBuilt?_of_change
    {now : Timestamp}
    {key : String}
    {change : Change}
    (inStep : before.Consistent)
    (keeps : ∀ stored changed,
      change.apply stored = .ok changed -> changed.phase = stored.phase)
    (written : Written before (before.change now key change).2 after) :
    after.isBuilt? = before.isBuilt? := by
  unfold StoreView.change at written
  cases found : before.find? key with
  | none =>
      simp only [found] at written
      rw [written.eq_of_nil]
  | some stored =>
      cases applied : change.apply stored with
      | error reason =>
          simp only [found, applied] at written
          rw [written.eq_of_nil]
      | ok changed =>
          simp only [found, applied] at written
          have named : changed.key = key :=
            (Change.key_of_apply applied).trans (inStep.named key stored found)
          refine written.wrote_of_single.isBuilt?_eq inStep ?_
            (congrArg Phase.isBuilt (keeps stored changed applied))
          change before.find? changed.key = some stored
          rw [named, found]

end StoreView

/-- Which variables are built depends on the variables alone. -/
theorem Store.isBuilt?_congr {store other : Store}
    (same : other.entries = store.entries) :
    other.view.isBuilt? = store.view.isBuilt? := by
  funext key
  rw [StoreView.isBuilt?, StoreView.isBuilt?, view_find?, view_find?, find?,
    find?, same]

namespace Optimizer

variable {store : StoreId} {key : String} {reward : Double} {before : Variable}

/-- A variable that is not built is refused without any action. -/
theorem exists_optimize_eq_of_unbuilt (optimizer : Optimizer) (reward : Double)
    (unbuilt : before.phase = .unbuilt) :
    ∃ reason,
      optimizer.optimize before reward = .done (.error reason, before) := by
  by_cases valid : isValidReward reward = true
  · exact ⟨_, optimizer.optimize_of_unbuilt valid unbuilt⟩
  · exact ⟨_,
      optimizer.optimize_of_invalid before (Bool.eq_false_iff.mpr valid)⟩

/-- A pass leaves the phase alone or ends idle. -/
theorem PassResult.phase_eq_or
    {result : Except OptimizationError OptimizeReport × Variable}
    (passed : PassResult before reward result) :
    result.2.phase = before.phase ∨ result.2.phase = .idle := by
  cases passed with
  | refused => exact .inl rfl
  | idled => exact .inr rfl
  | asked outcome => cases outcome <;> exact .inr rfl

/-- A settled pass leaves a variable that is built exactly if it was before. -/
theorem Settled.isBuilt_eq
    {optimizer : Optimizer}
    {events : List Exchange}
    {outcome : Except OptimizationError OptimizeReport}
    {after : Variable}
    {stored : Option Variable}
    (settled :
      Settled optimizer store before reward events outcome after stored) :
    stored.map (·.phase.isBuilt) = some before.phase.isBuilt := by
  cases commit : commits before after outcome with
  | false => rw [settled.left commit, Option.map_some]
  | true =>
      obtain ⟨now, _, rfl⟩ := settled.committed commit
      rw [Option.map_some]
      congr 1
      change after.phase.isBuilt = before.phase.isBuilt
      by_cases unbuilt : before.phase = .unbuilt
      · obtain ⟨reason, refused⟩ :=
          exists_optimize_eq_of_unbuilt optimizer reward unbuilt
        obtain ⟨_, inner, _, _, responds⟩ := settled.own
        rw [refused] at responds
        obtain ⟨_, rfl⟩ := Prod.mk.inj (Activity.done.inj responds.of_done.2)
        rfl
      · obtain same | idle := settled.passed.phase_eq_or
        · rw [same]
        · have idle : after.phase = .idle := idle
          have built : before.phase.isBuilt = true := by
            simp [Phase.isBuilt, unbuilt]
          rw [idle, built]
          rfl

/-- Whatever a pass has done to its variable, it is built exactly if it
was before. -/
theorem Stage.isBuilt_eq
    {optimizer : Optimizer}
    {events : List Exchange}
    {progress : Progress (Except OptimizationError OptimizeReport)}
    {world : World σ}
    (stage : Stage optimizer store key reward before events progress world) :
    ((world.stores store).find? key).map (·.phase.isBuilt) =
      some before.phase.isBuilt := by
  cases stage with
  | locking stored => rw [stored, Option.map_some]
  | waiting stored => rw [stored, Option.map_some]
  | reading stored => rw [stored, Option.map_some]
  | passing stored => rw [stored, Option.map_some]
  | releasing settled => exact settled.isBuilt_eq
  | finished settled => exact settled.isBuilt_eq

/-- However far a pass has come, the same variables are built. -/
theorem isBuilt?_steps_optimizeStored
    (host : ModelHost σ)
    (owner : Owner)
    (optimizer : Optimizer)
    (store : StoreId)
    (key : String)
    (reward : Double)
    (count : Nat)
    (world : World σ) :
    ((Progress.steps host owner count
        (.active (optimizer.optimizeStored store key reward)) world).2.stores
      store).view.isBuilt? =
      (world.stores store).view.isBuilt? := by
  cases stored : (world.stores store).find? key with
  | none =>
      have absent : (world.stores store).contains key = false := by
        rw [Bool.eq_false_iff, ne_eq, Store.contains_iff_mem_keys]
        exact Store.find?_eq_none_iff.mp stored
      cases count with
      | zero => rfl
      | succ count =>
          rw [Progress.steps_succ, optimizeStored_eq]
          simp only [Progress.step, Store.requestLock, absent, underLock]
          exact congrArg
            (fun last : _ × World σ => (last.2.stores store).view.isBuilt?)
            (Progress.steps_done host owner count _ world)
  | some before =>
      have began : Stage optimizer store key reward before []
          (.active (optimizer.optimizeStored store key reward)) world := by
        rw [optimizeStored_eq]
        exact .locking stored
      obtain ⟨⟨later, stage⟩, spared⟩ := began.steps host owner count
      funext name
      by_cases own : name = key
      · subst own
        change Option.map _ (Store.find? _ _) = Option.map _ (Store.find? _ _)
        rw [stage.isBuilt_eq, stored, Option.map_some]
      · exact congrArg (Option.map _) (spared.others store name (.inr own))

/-- A pass over a variable that is built is not refused for want of building. -/
theorem keeps_afterRead_built
    (optimizer : Optimizer)
    (store : StoreId)
    (key : String)
    (id : StoreId)
    (valid : isValidReward reward = true)
    (built : before.phase ≠ .unbuilt) :
    (optimizer.afterRead store key reward (some before)).Keeps id
      (fun _ => True) fun outcome =>
        ∀ name, outcome ≠ .error (.notBuilt name) := by
  have settles {ended : Except OptimizationError OptimizeReport × Variable}
      (other : ∀ name, ended.1 ≠ .error (.notBuilt name)) :
      (settle store key before ended).Keeps id (fun _ => True) fun outcome =>
        ∀ name, outcome ≠ .error (.notBuilt name) := by
    unfold settle
    split
    · exact .act (fun _ _ => trivial) fun _ _ =>
        .act trivial fun _ _ => .done other
    · exact .act trivial fun _ _ => .done other
  rw [afterRead, optimizer.optimize_of_built valid built]
  refine .act trivial fun answer _ => ?_
  cases answer with
  | error cause => exact settles (by rintro _ ⟨⟩)
  | ok program =>
      by_cases scored : before.unscoredCount = 0
      · rw [proceed, if_pos scored]
        exact settles (by rintro _ ⟨⟩)
      · rw [proceed, if_neg scored, Activity.bind_assoc]
        refine (optimizer.keeps_generate program _).bind fun outcome lost => ?_
        cases outcome with
        | ok lines => exact settles (by rintro _ ⟨⟩)
        | error reason =>
            refine settles fun name refused => ?_
            obtain rfl := Except.error.inj refused
            exact Bool.false_ne_true (lost _ rfl)

end Optimizer

namespace Setting

variable {setting : Setting σ} {owner : Owner} {world : World σ} {key : String}

/-- What holds of the store between undertakings: nobody is left with a lock,
order and contents are in step, and all variables are orderly. -/
structure AtRest (setting : Setting σ) (world : World σ) : Prop where
  unlocked : (world.stores setting.store).Unlocked
  consistent : (world.stores setting.store).view.Consistent
  orderly : (world.stores setting.store).All Variable.Orderly

namespace AtRest

/-- Nothing is under way on another date either. -/
theorem onDate (rest : setting.AtRest world) (now : Timestamp) :
    setting.AtRest (world.onDate now) :=
  ⟨rest.unlocked, rest.consistent, rest.orderly⟩

/-- An activity that runs alone and then lets go of everything. -/
theorem ofRun
    {α : Type}
    {activity : Activity α}
    (rest : setting.AtRest world)
    (owner : Owner)
    (limit : Nat)
    (keeps : activity.Keeps setting.store Variable.Orderly fun _ => True) :
    setting.AtRest
      ((activity.run setting.host owner limit world).2.abandon owner) where
  unlocked :=
    activity.usedBy_run setting.host limit (rest.unlocked.usedBy owner)
  consistent := activity.consistent_run setting.host owner limit rest.consistent
  orderly := (keeps.run setting.host owner limit rest.orderly).2

/-- Nothing is under way after a call that leaves variables orderly. -/
theorem ofCall
    (rest : setting.AtRest world)
    (owner : Owner)
    (limit : Nat)
    (call : StoreCall)
    (orderly : ((call.run setting.host owner limit setting.store world).2.stores
      setting.store).All Variable.Orderly) :
    setting.AtRest
      (call.run setting.host owner limit setting.store world).2 := by
  obtain ⟨after, ran, written, unlocked⟩ :=
    StoreCall.answered_run setting.host owner limit rest.consistent
      rest.unlocked call
  rw [ran] at orderly ⊢
  refine ⟨?_, ?_, orderly⟩ <;> rw [World.stores_setStore_self]
  · exact unlocked
  · exact written.consistent rest.consistent

/-- Every undertaking leaves the store at rest. -/
theorem undertake (rest : setting.AtRest world) (owner : Owner)
    (undertaking : Undertaking) :
    setting.AtRest (setting.undertake owner world undertaking) := by
  cases undertaking with
  | register key initial =>
      refine rest.ofCall owner _ _ ?_
      change ((world.setStore _ _).stores setting.store).All _
      rw [World.stores_setStore_self]
      exact rest.orderly.register
        (Variable.orderly_create key initial world.now)
  | append key prediction =>
      have keeps :
          (Activity.append setting.store key prediction).Keeps setting.store
            Variable.Orderly fun _ => True :=
        .modify Variable.upheld_orderly
          (fun _ _ orderly applied =>
            orderly.of_eq (Change.phase_of_append applied))
          fun _ => .done trivial
      exact rest.ofCall owner _ _
        (keeps.run setting.host owner _ rest.orderly).2
  | attach key index reward =>
      have keeps :
          (Activity.attach setting.store key index reward).Keeps setting.store
            Variable.Orderly fun _ => True := by
        unfold Activity.attach
        split
        · exact .modify Variable.upheld_orderly
            (fun _ _ orderly applied =>
              orderly.of_eq (Change.phase_of_attach applied))
            fun _ => .done trivial
        · exact .done trivial
      exact rest.ofCall owner _ _
        (keeps.run setting.host owner _ rest.orderly).2
  | build id =>
      exact rest.ofRun owner _
        (Optimizer.keeps_buildStored _ Variable.upheld_orderly)
  | optimize id key reward steps =>
      exact ⟨Progress.unlocked_steps setting.host owner steps _ rest.unlocked,
        Progress.consistent_steps setting.host owner steps _ rest.consistent,
        Progress.all_steps setting.host owner steps rest.orderly
          ((setting.optimizer id).keeps_optimizeStored Variable.upheld_orderly)⟩
  | finalize key =>
      exact rest.ofRun owner _
        (Optimizer.keeps_finalizeStored Variable.upheld_orderly)

end AtRest

/-- What an undertaking makes of a key that is stored after it: a new variable,
or one that is built exactly if it was before or is built now. -/
inductive Leads (setting : Setting σ) (owner : Owner) (world : World σ)
    (key : String)
    (undertaking : Undertaking) : Bool -> Prop
  | registered (new : setting.Registers world key undertaking)
      (only : ¬setting.Builds owner world key undertaking) :
      Leads setting owner world key undertaking false
  | kept {isBuilt before : Bool}
      (old : ¬setting.Registers world key undertaking)
      (stored : (world.stores setting.store).view.isBuilt? key = some before)
      (built : isBuilt = true ↔
        setting.Builds owner world key undertaking ∨ before = true) :
      Leads setting owner world key undertaking isBuilt

namespace Leads

variable {undertaking : Undertaking} {isBuilt : Bool} {view : StoreView}

/-- Where neither anything is registered nor built. -/
theorem ofSame
    (old : ¬setting.Registers world key undertaking)
    (other : ¬setting.Builds owner world key undertaking)
    (same : view.isBuilt? = (world.stores setting.store).view.isBuilt?)
    (found : view.isBuilt? key = some isBuilt) :
    setting.Leads owner world key undertaking isBuilt :=
  .kept old (same ▸ found) ⟨.inr, fun either => either.resolve_left other⟩

/-- A call that changes the variable under a key, but not its phase. -/
theorem ofChange
    {name : String}
    {change : Change}
    (rest : setting.AtRest world)
    (old : ¬setting.Registers world key undertaking)
    (other : ¬setting.Builds owner world key undertaking)
    (keeps : ∀ stored changed,
      change.apply stored = .ok changed -> changed.phase = stored.phase)
    (written : StoreView.Written (world.stores setting.store).view
      ((world.stores setting.store).view.change world.now name change).2 view)
    (found : view.isBuilt? key = some isBuilt) :
    setting.Leads owner world key undertaking isBuilt :=
  ofSame old other (StoreView.isBuilt?_of_change rest.consistent keeps written)
    found

/-- A registration of one key builds no other variable, and its own only where
it is absent. -/
theorem register
    {name : String}
    {initial : Option Instructions}
    (written : StoreView.Written (world.stores setting.store).view
      ((world.stores setting.store).view.respond world.now
        (.register name initial)).2 view)
    (found : view.isBuilt? key = some isBuilt) :
    setting.Leads owner world key (.register name initial) isBuilt := by
  cases present : (world.stores setting.store).find? name with
  | some stored =>
      simp only [StoreView.respond, Store.view_find?, present] at written
      refine .ofSame ?_ not_false (congrArg _ written.eq_of_nil) found
      rintro ⟨rfl, absent⟩
      rw [Store.contains_of_find? present] at absent
      contradiction
  | none =>
      simp only [StoreView.respond, Store.view_find?, present] at written
      obtain ⟨stored, shown, rfl⟩ := Option.map_eq_some_iff.mp found
      obtain ⟨rfl, rfl⟩ | ⟨different, before⟩ :=
        written.wrote_of_single.find?_cases shown
      · refine .registered ⟨rfl, ?_⟩ not_false
        rw [Bool.eq_false_iff, ne_eq, Store.contains_iff_mem_keys]
        exact Store.find?_eq_none_iff.mp present
      · refine .kept (fun new => different new.1.symm)
          (Option.map_eq_some_iff.mpr ⟨stored, before, rfl⟩) ?_
        exact ⟨.inr, fun either => either.resolve_left not_false⟩

end Leads

/-- Finalizing leaves the same variables built. -/
theorem AtRest.isBuilt?_finalize
    (rest : setting.AtRest world)
    (owner : Owner)
    (name : String) :
    ((setting.undertake owner world (.finalize name)).stores
      setting.store).view.isBuilt? =
      (world.stores setting.store).view.isBuilt? := by
  change (((Activity.run _ _ _ _ _).2.stores setting.store).releaseAll
    owner).view.isBuilt? = _
  cases stored : (world.stores setting.store).find? name with
  | none =>
      have absent : (world.stores setting.store).contains name = false := by
        rw [Bool.eq_false_iff, ne_eq, Store.contains_iff_mem_keys]
        exact Store.find?_eq_none_iff.mp stored
      rw [Optimizer.run_finalizeStored_of_absent setting.host owner _ absent]
      rfl
  | some entry =>
      obtain ⟨after, entries, _, ran⟩ :=
        Optimizer.run_finalizeStored setting.host owner world.clock
          rest.unlocked stored
      have written :=
        Store.written_commit rest.consistent entry.finalized world.now
      have named :
          (world.stores setting.store).find? entry.finalized.key =
            some entry := by
        change (world.stores setting.store).find? entry.key = some entry
        rw [Store.key_of_find? stored]
        exact stored
      simp only [StoreView.respond, Store.view_find?, named] at written
      have same := written.wrote_of_single.isBuilt?_eq rest.consistent named
        entry.isBuilt_finalized
      rw [ran, World.stores_setStore_self]
      exact (Store.isBuilt?_congr entries).trans same

/-- Building leaves the variables as they are or builds all of them. -/
theorem AtRest.leads_build
    (rest : setting.AtRest world)
    (owner : Owner)
    (id : OptimizerId)
    {isBuilt : Bool}
    (found : ((setting.undertake owner world (.build id)).stores
      setting.store).view.isBuilt? key =
      some isBuilt) :
    setting.Leads owner world key (.build id) isBuilt := by
  obtain ⟨answer, after, ran, _, ended⟩ :=
    Optimizer.run_buildStored setting.host owner world.clock
      (setting.optimizer id) rest.unlocked rest.consistent.distinct
  change (((Activity.run _ _ _ _ _).2.stores setting.store).releaseAll
    owner).view.isBuilt? key = _
    at found
  rw [ran, World.stores_setStore_self] at found
  cases used : (world.useProgram (setting.optimizer id)).1 with
  | error cause =>
      rw [used] at ended
      obtain ⟨rfl, entries⟩ := ended
      refine .ofSame not_false (fun builds => ?_)
        (Store.isBuilt?_congr entries) found
      have refused := builds.2
      rw [ran] at refused
      exact nomatch Option.some.inj refused
  | ok program =>
      rw [used] at ended
      obtain ⟨rfl, entries⟩ := ended
      have forms :
          (after.find? key) = ((world.stores setting.store).find? key).map
            fun entry => entry.built.touch world.now := by
        have matching : (fun entry : Variable => entry.key == key) ∘
            (fun entry : Variable => entry.built.touch world.now) =
              fun entry => entry.key == key := by
          funext entry
          change (entry.built.key == key) = (entry.key == key)
          rw [entry.key_built]
        rw [Store.find?, entries, List.find?_map, matching]
        rfl
      obtain ⟨stored, shown, rfl⟩ := Option.map_eq_some_iff.mp found
      change after.find? key = some stored at shown
      rw [forms] at shown
      obtain ⟨before, foundBefore, rfl⟩ := Option.map_eq_some_iff.mp shown
      refine .kept not_false
        (Option.map_eq_some_iff.mpr ⟨before, foundBefore, rfl⟩) ?_
      refine ⟨fun _ => .inl ⟨Store.contains_of_find? foundBefore, by rw [ran]⟩,
        fun _ => ?_⟩
      exact before.isBuilt_built

/-- Every undertaking leads every key that is stored after it. -/
theorem AtRest.leads
    (rest : setting.AtRest world)
    (owner : Owner)
    {undertaking : Undertaking}
    {isBuilt : Bool}
    (found : ((setting.undertake owner world undertaking).stores
      setting.store).view.isBuilt? key =
      some isBuilt) :
    setting.Leads owner world key undertaking isBuilt := by
  have answered (call : StoreCall) := StoreCall.answered_run setting.host
    owner world.clock rest.consistent
    rest.unlocked call
  cases undertaking with
  | register name initial =>
      obtain ⟨after, ran, written, _⟩ := answered (.register name initial)
      change ((StoreCall.run _ _ _ _ _ (.register name initial)).2.stores
        _).view.isBuilt? key = _
        at found
      rw [ran, World.stores_setStore_self] at found
      exact .register written found
  | append name prediction =>
      obtain ⟨after, ran, written, _⟩ := answered (.append name prediction)
      change ((StoreCall.run _ _ _ _ _ (.append name prediction)).2.stores
        _).view.isBuilt? key = _
        at found
      rw [ran, World.stores_setStore_self] at found
      exact .ofChange rest not_false not_false
        (fun _ _ applied => (Change.phase_of_append applied).1) written found
  | attach name index reward =>
      obtain ⟨after, ran, written, _⟩ := answered (.attach name index reward)
      change ((StoreCall.run _ _ _ _ _ (.attach name index reward)).2.stores
        _).view.isBuilt? key =
        _ at found
      rw [ran, World.stores_setStore_self] at found
      rw [StoreView.respond] at written
      split at written
      · exact .ofChange rest not_false not_false
          (fun _ _ applied => (Change.phase_of_attach applied).1) written found
      · exact .ofSame not_false not_false (congrArg _ written.eq_of_nil) found
  | build id => exact rest.leads_build owner id found
  | optimize id name reward steps =>
      exact .ofSame not_false not_false
        (Optimizer.isBuilt?_steps_optimizeStored setting.host owner
          (setting.optimizer id) setting.store name reward steps world) found
  | finalize name =>
      exact .ofSame not_false not_false (rest.isBuilt?_finalize owner name)
        found

/-- After any history a store that was empty is at rest, and a stored variable
has been built exactly if its key was since it was last registered. -/
theorem atRest_after
    (setting : Setting σ)
    (owner : Owner)
    (start : World σ)
    (capacity : Nat)
    (history : List (Timestamp × Undertaking)) :
    let empty := start.setStore setting.store (.withCapacity capacity)
    setting.AtRest (setting.after owner empty history) ∧
      ∀ key isBuilt,
        ((setting.after owner empty history).stores setting.store).view.isBuilt?
          key =
            some isBuilt ->
          (isBuilt = true ↔ setting.BuiltSince owner empty key history) := by
  intro empty
  induction history with
  | nil =>
      have stored : empty.stores setting.store = .withCapacity capacity :=
        start.stores_setStore_self setting.store _
      change setting.AtRest empty ∧ _
      refine ⟨⟨?_, ?_, ?_⟩, fun key isBuilt found => ?_⟩
      · rw [stored]
        exact List.forall_mem_nil _
      · rw [stored]
        exact Store.consistent_withCapacity capacity
      · rw [stored]
        exact .withCapacity capacity
      · change (empty.stores setting.store).view.isBuilt? key =
          some isBuilt at found
        rw [stored] at found
        contradiction
  | cons latest earlier inductionHypothesis =>
      obtain ⟨now, undertaking⟩ := latest
      obtain ⟨rest, before⟩ := inductionHypothesis
      have dated := rest.onDate now
      refine ⟨dated.undertake owner undertaking, fun key isBuilt found => ?_⟩
      change _ ↔
        setting.Builds owner _ key undertaking ∨
        _ ∧ ¬setting.Registers _ key undertaking
      cases dated.leads owner found with
      | registered new only =>
          exact ⟨nofun,
            fun either => (either.elim only fun since => since.2 new).elim⟩
      | kept old stored built =>
          rw [built, before key _ stored]
          exact or_congr_right ⟨fun since => ⟨since, old⟩, And.left⟩

/-- A pass alone is refused for want of building exactly if the variable
is not built. -/
theorem AtRest.notBuilt_iff
    (rest : setting.AtRest world)
    (owner : Owner)
    (limit : Nat)
    (id : OptimizerId)
    {entry : Variable}
    (stored : (world.stores setting.store).find? key = some entry)
    {reward : Double}
    (valid : isValidReward reward = true) :
    (((setting.optimizer id).optimizeStored setting.store key reward).run
        setting.host owner limit
        world).1 = some (.error (.notBuilt key)) ↔
      entry.phase = .unbuilt := by
  have free : (world.stores setting.store).IsFree key := fun lock found =>
    rest.unlocked lock (List.mem_of_find?_eq_some found)
  obtain ⟨locked, granted, entries, _⟩ :=
    Store.requestLock_of_isFree (Store.contains_of_find? stored) free owner
  have found :
      ((world.setStore setting.store locked).stores setting.store).find? key =
        some entry := by
    rw [World.stores_setStore_self, Store.find?, entries]
    exact stored
  have ran :
      ((setting.optimizer id).optimizeStored setting.store key reward).run
        setting.host owner limit
        world =
        ((setting.optimizer id).afterRead setting.store key reward
          (some entry)).run
          setting.host owner limit (world.setStore setting.store locked) := by
    rw [Optimizer.optimizeStored_eq]
    simp only [Activity.run, granted, Optimizer.underLock, World.perform, found]
  rw [ran]
  have named : entry.key = key := Store.key_of_find? stored
  constructor
  · intro refused
    by_contra built
    have keeps := (setting.optimizer id).keeps_afterRead_built setting.store
      key setting.store valid
      built
    have all :
        ((world.setStore setting.store locked).stores
          setting.store).All fun _ => True :=
      fun _ _ => trivial
    exact (keeps.run setting.host owner limit all).1 _ refused key rfl
  · intro unbuilt
    rw [Optimizer.afterRead,
      (setting.optimizer id).optimize_of_unbuilt valid unbuilt, named]
    rfl

/-- Through any history of a store that was empty, no stored variable is left
while it is optimized, and none that was built since its registration is unbuilt
again. A pass with a valid reward is refused for want of building exactly if
there was no building since. Only idle variables have candidates, and every
candidate has a valid reward. -/
theorem stored_variables_stay_in_order
    (setting : Setting σ)
    (owner : Owner)
    (start : World σ)
    (capacity : Nat)
    (history : List (Timestamp × Undertaking)) :
    let empty := start.setStore setting.store (.withCapacity capacity)
    let world := setting.after owner empty history
    ∀ entry ∈ (world.stores setting.store).entries,
      entry.phase ≠ .optimizing ∧
        (setting.BuiltSince owner empty entry.key history ->
          entry.phase ≠ .unbuilt) ∧
        (∀ (caller : Owner) (limit : Nat) (id : OptimizerId) (reward : Double),
          isValidReward reward = true ->
            ((((setting.optimizer id).optimizeStored setting.store
              entry.key reward).run
                setting.host caller limit world).1 =
              some (.error (.notBuilt entry.key)) ↔
              ¬setting.BuiltSince owner empty entry.key history)) ∧
        (entry.candidates ≠ [] -> entry.phase = .idle) ∧
        ∀ candidate ∈ entry.candidates,
          ∃ reward, candidate.reward = some reward ∧
            isValidReward reward = true := by
  intro empty world entry listed
  obtain ⟨rest, phases⟩ := setting.atRest_after owner start capacity history
  have stored := Store.find?_of_mem rest.consistent.distinct listed
  have built := phases entry.key entry.phase.isBuilt (by
    rw [StoreView.isBuilt?, Store.view_find?]
    exact Option.map_eq_some_iff.mpr ⟨entry, stored, rfl⟩)
  have isBuilt : entry.phase.isBuilt = true ↔ entry.phase ≠ .unbuilt := by
    simp [Phase.isBuilt]
  have orderly := rest.orderly entry listed
  refine ⟨orderly.settled, ?_, ?_, orderly.pooled, orderly.scored⟩
  · exact fun since => isBuilt.mp (built.mpr since)
  · intro caller limit id reward valid
    rw [rest.notBuilt_iff caller limit id stored valid, ← built, isBuilt,
      not_not]

/-- A variable that takes the place of another, is built and fails to be
optimized once. -/
theorem stored_variables_stay_in_order_of_failed_pass :
    let setting : Setting Unit :=
      ⟨⟨fun _ _ => 0, fun _ _ state => (.error (.response "busy"), state)⟩, 0,
        fun id => .standard id (some (.scripted "writer"))⟩
    let history : List (Timestamp × Undertaking) :=
      [(default, .optimize 0 "a" (.one .double) 9), (default, .build 0),
        (default, .append "a" (.unscored [] [])),
        (default, .register "a" (some (.ofLines ["be brief"]))),
        (default, .register "b" none)]
    let empty := World.fresh.setStore setting.store (.withCapacity 1)
    let world := setting.after 1 empty history
    isValidReward (.one .double) = true ∧
      ∃ entry ∈ (world.stores setting.store).entries,
        entry.candidates ≠ [] ∧ entry.phase = .idle ∧
        setting.BuiltSince 1 empty entry.key history ∧ entry.phase ≠ .unbuilt ∧
        (((setting.optimizer 0).optimizeStored setting.store entry.key
          (.one .double)).run
            setting.host 1 0 world).1 ≠
          some (.error (.notBuilt entry.key)) := by
  intro setting history
  have valid : isValidReward (.one .double) = true := by decide +kernel
  have order := stored_variables_stay_in_order setting 1 .fresh 1 history
  have pooled :
      ∃ entry ∈ ((setting.after 1
        (World.fresh.setStore setting.store (.withCapacity 1))
        history).stores setting.store).entries,
        entry.key = "a" ∧ entry.candidates ≠ [] := by
    decide +kernel
  -- The pass came after the building, and neither of them registered the key.
  have since :
      setting.BuiltSince 1
        (World.fresh.setStore setting.store (.withCapacity 1)) "a"
        history := by
    refine .inr ⟨.inl ⟨?_, ?_⟩, not_false⟩ <;> decide +kernel
  clear_value history setting
  intro empty world
  obtain ⟨entry, listed, named, candidates⟩ := pooled
  obtain ⟨_, built, refused, idle, _⟩ := order entry listed
  rw [← named] at since
  exact ⟨valid, entry, listed, candidates, idle candidates, since, built since,
    fun answered => (refused 1 0 0 _ valid).mp answered since⟩

end Setting
end PromptTuning
