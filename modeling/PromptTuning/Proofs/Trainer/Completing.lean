import PromptTuning.Proofs.Concurrency.Announcing
import PromptTuning.Proofs.Optimizer.LettingGo
import PromptTuning.Proofs.Trainer.Interleaving

/-!
# Every epoch comes to an end

The passes of an epoch end before their deadline, whatever the variables are and
whatever the language models answer, and so the epoch ends with a report. It may
be that variables are not built, or that there is no generation program and none
can be built: their passes end as well.
-/

namespace PromptTuning

variable {σ : Type}

/-- The passes of an epoch of a trainer: what comes of using its program, the
number of the epoch and its reward, and the moment in which it starts. -/
structure Passes (σ : Type) where
  trainer : Trainer
  host : ModelHost σ
  program : Except BuildError Module
  number : Nat
  reward : Double
  start : Nat

/-- A stored pass tells observers nothing by itself. -/
theorem Optimizer.silent_optimizeStored
    (optimizer : Optimizer)
    (store : StoreId)
    (key : String)
    (reward : Double) :
    (optimizer.optimizeStored store key reward).Silent := by
  rw [optimizeStored_eq]
  refine .lock fun granted => ?_
  cases granted with
  | error reason => exact .done
  | ok _ =>
      rw [underLock]
      refine .act rfl fun found => ?_
      cases found with
      | none => exact .act rfl fun _ => .done
      | some entry =>
          have looks := optimizer.alike_optimize (Eq.refl entry.undated) reward
          refine (Activity.Silent.ofAlike looks).bind fun ended => ?_
          unfold settle
          split
          · exact .act rfl fun _ => .act rfl fun _ => .done
          · exact .act rfl fun _ => .done

/-- A pass only announces what it has come to. -/
theorem Trainer.announces_passTask
    (trainer : Trainer)
    (clock number : Nat)
    (reward : Double)
    (key : String)
    (index : Nat) :
    (trainer.passTask clock number reward key index).Announces
      (·.event? number key) where
  silent := trainer.optimizer.silent_optimizeStored trainer.store key reward
  finish result := by
    refine ⟨Outcome.ofPass trainer.timeout result, ?_⟩
    simp only [passTask]
    cases (Outcome.ofPass trainer.timeout result).event? number key <;> rfl

namespace Passes

variable (passes : Passes σ)

/-- The key and the owner of a pass. -/
def work (item : String × Nat) : String × Owner :=
  (item.1, Run.firstTask + item.2)

/-- The pass over the variable under a key. -/
def task (item : String × Nat) :
    Task (Except OptimizationError OptimizeReport) Outcome :=
  passes.trainer.passTask passes.start passes.number passes.reward item.1 item.2

/-- The moment at which the passes are abandoned. -/
def deadline : Nat :=
  passes.start + passes.trainer.timeout

/-- A pass has the lock of its key and knows what comes of using the program. -/
abbrev Ready (world : World σ) (item : String × Nat) : Prop :=
  world.Ready passes.trainer.optimizer passes.program passes.trainer.store
    item.1 (work item).2

/-- What a pass still does, with the number of questions that it
asks at most. -/
abbrev Lasts (item : String × Nat) (count : Nat)
    (rest : Activity (Except OptimizationError OptimizeReport)) : Prop :=
  rest.LetsGo passes.trainer.optimizer passes.program
    passes.trainer.store item.1 count

/-- What the work on some keys makes of a world. -/
abbrev Works (items : List (String × Owner)) (before after : World σ) : Prop :=
  World.Works passes.trainer.optimizer passes.trainer.store items before after

/-- Where a pass stands, with the number of answers it may still get. -/
inductive Stands (world : World σ) (item : String × Nat) :
    Nat -> RunningTask (Except OptimizationError OptimizeReport) Outcome -> Prop
  | ended {pause : Activity.Pause (Except OptimizationError OptimizeReport)}
      {outcome : Outcome}
      (free : (world.stores passes.trainer.store).IsFree item.1) :
      Stands world item 0 ⟨passes.task item, pause, some outcome⟩
  | awaiting {count due : Nat} {model : LanguageModel}
      {request : GenerationRequest}
      {resume : Reply -> Activity (Except OptimizationError OptimizeReport)}
      (ready : passes.Ready world item) (later : world.clock ≤ due)
      (inTime : world.clock ≤ passes.deadline)
      (lasts : ∀ reply, passes.Lasts item count (resume reply)) :
      Stands world item (count + 1)
        ⟨passes.task item, .awaitingModel due model request resume, none⟩

/-- A pass can begin on a variable whose lock is free. -/
structure Begins (world : World σ) (item : String × Nat) : Prop where
  program : (world.useProgram passes.trainer.optimizer).1 = passes.program
  starts : world.clock = passes.start
  free : (world.stores passes.trainer.store).IsFree item.1
  stored :
    ∃ entry, (world.stores passes.trainer.store).find? item.1 = some entry

variable {passes} {world between : World σ} {item other : String × Nat}
  {count : Nat}

/-- What a pass leads to only tells observers. -/
theorem advance_finish
    (passes : Passes σ)
    (item : String × Nat)
    (result : Option (Except OptimizationError OptimizeReport))
    (world : World σ) :
    ∃ outcome after,
      ((passes.task item).finish result).advance passes.host
        (work item).2 world =
        (.finished outcome, after) ∧
      passes.Works [work item] world after ∧ after.stores = world.stores := by
  obtain ⟨outcome, finish⟩ :=
    (passes.trainer.announces_passTask passes.start passes.number
      passes.reward item.1 item.2).finish result
  have ends := Activity.advance_announce passes.host (work item).2
    (outcome.event? passes.number item.1) outcome world
  rw [← finish] at ends
  exact ⟨outcome, _, ends, .of_touches (.refl _ _) rfl rfl, rfl⟩

/-- A pass whose time is up lets go of its lock. -/
theorem expire
    (ready : passes.Ready world item)
    (pause : Activity.Pause (Except OptimizationError OptimizeReport)) :
    ∃ running after,
      RunningTask.expire passes.host ⟨passes.task item, pause, none⟩ world =
        (running, after) ∧
      passes.Works [work item] world after ∧
      passes.Stands after item 0 running := by
  obtain ⟨outcome, after, finished, told, stores⟩ :=
    passes.advance_finish item none
      (world.abandon (work item).2)
  have abandoned :
      passes.Works [work item] world (world.abandon (work item).2) :=
    .of_touches (.ofReleaseAll (work item).2 _) rfl rfl
  have owned : (passes.task item).owner = (work item).2 := rfl
  refine ⟨⟨passes.task item, pause, some outcome⟩, after, ?_,
    abandoned.trans told, .ended ?_⟩
  · simp only [RunningTask.expire, owned, finished]
  · rw [stores]
    exact ready.held.releaseAll

/-- A pass goes on to its next question or to its end. -/
theorem goOn_of_lasts
    (ready : passes.Ready between item)
    {rest activity : Activity (Except OptimizationError OptimizeReport)}
    (lasts : passes.Lasts item count rest)
    (inTime : between.clock ≤ passes.deadline)
    (sameTime : world.clock = between.clock)
    (leads : activity.advance passes.host (work item).2 world =
      rest.advance passes.host (work item).2 between) :
    ∃ fewer running after, fewer ≤ count ∧
      RunningTask.goOn passes.host (passes.task item) activity world =
        (running, after) ∧
      passes.Works [work item] between after ∧
      passes.Stands after item fewer running := by
  obtain ⟨left, pause, after, fits, advanced, works, letsGo⟩ :=
    lasts.advance ready passes.host
  have owned : (passes.task item).owner = (work item).2 := rfl
  have limited : (passes.task item).deadline = passes.deadline := rfl
  have went := leads.trans advanced
  cases letsGo with
  | @finished result free =>
      obtain ⟨outcome, told, finished, worksFinished, stores⟩ :=
        passes.advance_finish item (some result) after
      refine ⟨0, ⟨passes.task item, .finished result, some outcome⟩, told, fits,
        ?_, works.trans worksFinished,
        .ended ?_⟩
      · simp only [RunningTask.goOn, RunningTask.settle, owned, went, finished]
      · rw [stores]
        exact free
  | awaiting readyAwaiting later resumed =>
      simp only [RunningTask.goOn, owned, limited, went, sameTime]
      split
      · obtain ⟨running, told, expired, worksExpired, stands⟩ :=
          expire readyAwaiting _
        exact ⟨0, running, told, Nat.zero_le _, expired,
          works.trans worksExpired, stands⟩
      · exact ⟨_, _, after, fits, rfl, works,
          .awaiting readyAwaiting later (works.clock.symm ▸ inTime) resumed⟩

/-- A pass begins with the lock of its key and asks no more than its
program does. -/
theorem start_task (begins : passes.Begins world item) :
    ∃ fewer running after, fewer ≤ Optimizer.questionsOf passes.program ∧
      RunningTask.start passes.host (passes.task item) world =
        (running, after) ∧
      passes.Works [work item] world after ∧
      passes.Stands after item fewer running := by
  obtain ⟨entry, found⟩ := begins.stored
  obtain ⟨locked, granted, entries, held, touched⟩ := Store.heldBy_of_isFree
    (Store.contains_of_find? found) begins.free (work item).2
  have works :
      passes.Works [work item] world
        (world.setStore passes.trainer.store locked) :=
    .setStore touched
  have foundLocked : locked.find? item.1 = some entry := by
    rw [Store.find?, entries]
    exact found
  have ready :
      passes.Ready (world.setStore passes.trainer.store locked) item := by
    refine ⟨works.program.trans begins.program, ?_, entry, ?_⟩ <;>
      rw [World.stores_setStore_self]
    · exact held
    · exact foundLocked
  have named : entry.key = item.1 := Store.key_of_find? found
  have lasts := passes.trainer.optimizer.letsGo_optimize passes.program
    passes.trainer.store entry
    passes.reward
  rw [named] at lasts
  have leads : (passes.task item).body.advance passes.host (work item).2 world =
      ((passes.trainer.optimizer.optimize entry passes.reward).bind
        (Optimizer.settle passes.trainer.store item.1 entry)).advance
          passes.host (work item).2
          (world.setStore passes.trainer.store locked) := by
    have body : (passes.task item).body =
      passes.trainer.optimizer.optimizeStored passes.trainer.store item.1
        passes.reward := rfl
    simp only [body, Optimizer.optimizeStored_eq, Activity.advance, granted,
      Optimizer.underLock, World.perform, World.stores_setStore_self,
      foundLocked, Optimizer.afterRead]
  have inTime :
      (world.setStore passes.trainer.store locked).clock ≤ passes.deadline := by
    rw [works.clock, begins.starts]
    exact Nat.le_add_right _ _
  obtain ⟨fewer, running, after, fits, started, worksStarted, stands⟩ :=
    goOn_of_lasts ready lasts inTime works.clock.symm leads
  exact ⟨fewer, running, after, fits, started, works.trans worksStarted, stands⟩

variable {after : World σ}

theorem Begins.of_works
    (begins : passes.Begins world item)
    (works : passes.Works [work other] world after)
    (keys : other.1 ≠ item.1)
    (owners : other.2 ≠ item.2) :
    passes.Begins after item where
  program := works.program.trans begins.program
  starts := works.clock.trans begins.starts
  free := works.store.free _ (Run.not_mem_work keys owners).1 begins.free
  stored := by
    rw [works.store.found _ (Run.not_mem_work keys owners).1]
    exact begins.stored

namespace Stands

variable {left : Nat}
  {running : RunningTask (Except OptimizationError OptimizeReport) Outcome}

/-- Where a pass stands others leave it. -/
theorem of_works
    (stands : passes.Stands world item left running)
    (works : passes.Works [work other] world after)
    (keys : other.1 ≠ item.1)
    (owners : other.2 ≠ item.2) :
    passes.Stands after item left running := by
  obtain ⟨apart, stranger⟩ := Run.not_mem_work keys owners
  cases stands with
  | ended free => exact .ended (works.store.free _ apart free)
  | awaiting ready later inTime lasts =>
      rw [← works.clock] at later inTime
      refine .awaiting ⟨works.program.trans ready.program, ?_, ?_⟩
        later inTime lasts
      · exact works.store.held _ _ apart stranger ready.held
      · rw [works.store.found _ apart]
        exact ready.stored

/-- A pass stands where it stood until it goes on by itself. -/
theorem atClock
    {clock : Nat}
    (stands : passes.Stands world item left running)
    (early : ∀ next, running.nextDue world = some next -> clock ≤ next) :
    passes.Stands (world.atClock clock) item left running := by
  cases stands with
  | ended free => exact .ended free
  | awaiting ready later inTime lasts =>
      obtain ⟨beforeAnswer, beforeDeadline⟩ := Nat.le_min.mp (early _ rfl)
      exact .awaiting (ready.atClock clock) beforeAnswer beforeDeadline lasts

/-- A pass that has ended has let go of its lock. -/
theorem free
    {outcome : Outcome}
    (stands : passes.Stands world item left running)
    (ended : running.outcome = some outcome) :
    (world.stores passes.trainer.store).IsFree item.1 := by
  cases stands with
  | ended free => exact free
  | awaiting => contradiction

/-- A pass has ended, or it goes on by itself before the deadline is past. -/
theorem ended_or_nextDue (stands : passes.Stands world item left running) :
    (∃ outcome, running.outcome = some outcome) ∨
      ∃ next, running.outcome = none ∧ running.nextDue world = some next ∧
        world.clock ≤ next ∧
        next ≤ passes.deadline ∧
        ∀ later : World σ, running.isDue later next = true := by
  cases stands with
  | ended free => exact .inl ⟨_, rfl⟩
  | awaiting ready later inTime lasts =>
      refine .inr
        ⟨_, rfl, rfl, Nat.le_min.mpr ⟨later, inTime⟩, Nat.min_le_right _ _,
          fun world => ?_⟩
      simp only [RunningTask.isDue, Option.isNone_none, Bool.true_and,
        Bool.or_eq_true, decide_eq_true_eq]
      omega

/-- A pass that is due has its answer or its time is up. -/
theorem wake
    (stands : passes.Stands world item left running)
    (due : running.isDue world world.clock = true) :
    ∃ fewer awake after, fewer < left ∧
      RunningTask.wake passes.host running world = (awake, after) ∧
      passes.Works [work item] world after ∧
      passes.Stands after item fewer awake := by
  cases stands with
  | ended free => simp [RunningTask.isDue] at due
  | @awaiting left moment model request resume ready later inTime lasts =>
      by_cases arrived : moment ≤ world.clock
      · rw [RunningTask.wake_of_due arrived]
        have asked :
            passes.Works [work item] world
              (world.ask passes.host model request).2 :=
          .of_touches (.refl _ _) rfl rfl
        have readyAnswered :
            passes.Ready (world.ask passes.host model request).2 item :=
          ready.of_works asked ready.held
        obtain ⟨fewer, awake, after, fits, went, works, stands⟩ :=
          goOn_of_lasts readyAnswered (lasts _) inTime rfl rfl
        exact ⟨fewer, awake, after, by omega, went, asked.trans works, stands⟩
      · rw [RunningTask.wake_of_late (Nat.lt_of_not_le arrived)]
        obtain ⟨awake, after, expired, works, stands⟩ := expire ready
          (.awaitingModel moment model request resume)
        exact ⟨0, awake, after, Nat.succ_pos left, expired, works, stands⟩

end Stands

/-- The passes of an epoch as tasks that keep apart. -/
def cohort (passes : Passes σ) :
    Cohort σ (String × Nat) (Except OptimizationError OptimizeReport)
      Outcome where
  host := passes.host
  task := passes.task
  deadline := passes.deadline
  Begins := passes.Begins
  Stands := passes.Stands
  Touches item before after := passes.Works [work item] before after
  Apart first second := first.1 ≠ second.1 ∧ first.2 ≠ second.2
  apart_symm apart := ⟨apart.1.symm, apart.2.symm⟩
  clock_eq works := works.clock
  begins_aside begins works apart := begins.of_works works apart.1 apart.2
  stands_aside stands works apart := stands.of_works works apart.1 apart.2
  atClock stands early := stands.atClock early
  ended_or_nextDue stands := stands.ended_or_nextDue
  wake stands due := stands.wake due

end Passes

namespace Trainer

variable {world : World σ}

/-- All passes of an epoch end before the limit, and let go of their locks. -/
theorem exists_run_passes
    (trainer : Trainer)
    (host : ModelHost σ)
    (limit number : Nat)
    (reward : Double)
    (distinct : (world.stores trainer.store).keys.Nodup)
    (unlocked : (world.stores trainer.store).Unlocked)
    (within : world.clock + trainer.timeout ≤ limit) :
    ∃ outcomes after,
      (Run.sideBySide host limit (trainer.questionCount world)
        ((world.stores trainer.store).keys.zipIdx.map fun item =>
          trainer.passTask world.clock number reward item.1 item.2)).run.run
        world =
        (some outcomes, after) ∧
      (after.stores trainer.store).keys = (world.stores trainer.store).keys ∧
      ∀ key ∈ (world.stores trainer.store).keys,
        (after.stores trainer.store).IsFree key := by
  let passes : Passes σ :=
    ⟨trainer, host, (world.useProgram trainer.optimizer).1, number, reward,
      world.clock⟩
  have begins :
      ∀ item ∈ (world.stores trainer.store).keys.zipIdx,
        passes.Begins world item := by
    intro item listed
    have stored := List.fst_mem_of_mem_zipIdx listed
    exact
      { program := rfl
        starts := rfl
        free := fun lock found =>
          unlocked lock (List.mem_of_find?_eq_some found)
        stored :=
          Store.contains_iff_find?.mp (Store.contains_iff_mem_keys.mpr stored) }
  have apart :
      (world.stores trainer.store).keys.zipIdx.Pairwise passes.cohort.Apart :=
    @pairwise_zipIdx String id _ (by rwa [List.map_id]) 0
  have starts :
      passes.cohort.StartsWithin (Optimizer.questionsOf passes.program) :=
    Passes.start_task
  obtain ⟨outcomes, after, ran, _, _, keeps, ended⟩ :=
    Cohort.runAll starts begins apart within
      (Nat.le_add_right_of_le (trainer.questionsOf_useProgram_le world))
  refine ⟨outcomes, after, ran, ?_, ?_⟩
  · exact keeps (fun later =>
      (later.stores trainer.store).keys = (world.stores trainer.store).keys)
      ⟨fun works same => works.store.keys.trans same, fun _ same => same⟩ rfl
  · have freed : List.Forall₂ (fun (item : String × Nat) (_ : Outcome) =>
        (after.stores trainer.store).IsFree item.1 ∧ True)
        (world.stores trainer.store).keys.zipIdx outcomes := by
      refine ended.imp fun item outcome ⟨_, running, stands, own⟩ =>
        ⟨?_, trivial⟩
      have stands : passes.Stands after item _ running := stands
      exact stands.free own
    intro key listed
    obtain ⟨index, place, rfl⟩ := List.mem_iff_getElem.mp listed
    have among : ((world.stores trainer.store).keys[index], index) ∈
        (world.stores trainer.store).keys.zipIdx :=
      List.mem_zipIdx_iff_getElem?.mpr (List.getElem?_eq_getElem place)
    exact ((List.forall₂_and_left _ _).mp freed).1 _ among

/-- An epoch over variables whose locks are free ends with a report. -/
theorem exists_run_runEpoch
    (trainer : Trainer)
    (host : ModelHost σ)
    (limit number : Nat)
    (reward : Double)
    (valid : isValidReward reward = true)
    (distinct : (world.stores trainer.store).keys.Nodup)
    (unlocked : (world.stores trainer.store).Unlocked)
    (within : world.clock + trainer.timeout ≤ limit) :
    ∃ report after, (trainer.runEpoch host limit number reward).run.run world =
      (some (.ok report), after) := by
  set begun := world.told (EpochReport.beginEvent number reward)
  obtain ⟨outcomes, passed, ran, keys, free⟩ :=
    @exists_run_passes σ begun trainer host limit number reward
      distinct unlocked within
  have stored : ∀ key ∈ (world.stores trainer.store).keys,
      ∃ entry,
        (passed.stores trainer.store).find? key =
          some entry := fun key listed =>
    Store.contains_iff_find?.mp
      (Store.contains_iff_mem_keys.mpr (keys.symm ▸ listed))
  obtain ⟨closed, closes, _⟩ :=
    trainer.run_close host Run.foreground limit distinct free stored
  exact ⟨_, _,
    (runEpoch_eq_some_iff valid).mpr
      ⟨outcomes, passed, closed, ran, closes, rfl, rfl⟩⟩

end Trainer
end PromptTuning
