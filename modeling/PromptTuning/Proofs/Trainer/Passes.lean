import PromptTuning.Proofs.Concurrency.Cohort
import PromptTuning.Proofs.Concurrency.Touching
import PromptTuning.Trainer.Fit

/-!
# Passes as tasks

The pass of an epoch over one variable runs as a task of its own. While its
question is out it holds the lock of its key, and the variable is as it was;
once it has ended, the lock is free and the variable is what its generation
left. Whatever others do on their keys in the meantime, it stands where its own
language model left it, and each time it is due it comes closer to its end.
-/

namespace PromptTuning

variable {σ : Type}

/-- One epoch of a trainer whose generation program is ready: its
number and reward, and the moment and the state of the language models
in which it starts. -/
structure Epoch (σ : Type) where
  trainer : Trainer
  host : ModelHost σ
  program : Module
  number : Nat
  reward : Double
  start : Nat
  initial : σ

namespace Epoch

/-- The outcome of a generation, none if it was not done in time. -/
abbrev Generation := Option (Except OptimizationError (List String))

variable (epoch : Epoch σ)

/-- The moment at which the passes are abandoned. -/
def deadline : Nat :=
  epoch.start + epoch.trainer.timeout

/-- The key and the owner of the pass over a variable. -/
def work (item : Variable × Nat) : String × Owner :=
  (item.1.key, Run.firstTask + item.2)

/-- The pass over a variable. -/
def task (item : Variable × Nat) :
    Task (Except OptimizationError OptimizeReport) Outcome :=
  epoch.trainer.passTask epoch.start epoch.number epoch.reward item.1.key item.2

/-- What a pass goes on to once instructions are generated or not. -/
def conclusion (entry : Variable)
    (outcome : Except OptimizationError (List String)) :
    Activity (Except OptimizationError OptimizeReport) :=
  Optimizer.settle epoch.trainer.store entry.key entry
    (Optimizer.conclude entry epoch.reward outcome)

/-- How the generation for a variable comes to where it stands at a moment. -/
abbrev Hears (entry : Variable) :
    Nat -> σ -> Activity (Except OptimizationError (List String)) -> Prop :=
  (epoch.trainer.optimizer.generate epoch.program
    (entry.scoredAt epoch.reward)).Heard
    epoch.host epoch.deadline epoch.start epoch.initial

/-- How the language models, which came to a last state, had the generation for
a variable end: with an outcome, or with a question that they would have
answered after the deadline. -/
inductive GenerationEnds (last : σ) (entry : Variable) : Generation -> Prop
  | inTime {clock : Nat} {models : σ}
      {outcome : Except OptimizationError (List String)}
      (heard : epoch.Hears entry clock models (.done outcome))
      (reached : epoch.host.Reaches models last) :
      GenerationEnds last entry (some outcome)
  | late {clock : Nat} {models : σ} {model : LanguageModel}
      {request : GenerationRequest}
      {resume : Reply -> Activity (Except OptimizationError (List String))}
      (heard : epoch.Hears entry clock models (.generate model request resume))
      (reached : epoch.host.Reaches models last)
      (past : epoch.deadline < clock + epoch.host.wait models model request) :
      GenerationEnds last entry none

/-- What a generation leaves of a variable. -/
def leaves (entry : Variable) (generation : Generation) : Variable :=
  generation.elim entry fun outcome =>
    (Optimizer.conclude entry epoch.reward outcome).2

/-- What becomes of a variable: its outcome and what is left of it. -/
inductive Passed (last : σ) (entry : Variable) : Outcome -> Variable -> Prop
  | noop {final : Variable}
      (scored : entry.unscoredCount = 0)
      (left : final.SameContents (entry.inPhase .idle)) :
      Passed last entry .noop final
  | generated {final : Variable}
      (generation : Generation)
      (unscored : entry.unscoredCount ≠ 0)
      (ends : epoch.GenerationEnds last entry generation)
      (kept : ∀ reason,
        generation = some (.error reason) -> reason.isPartial = true)
      (left : final.SameContents (epoch.leaves entry generation)) :
      Passed last entry
        (.ofPass epoch.trainer.timeout
          (generation.map fun outcome =>
            (Optimizer.conclude entry epoch.reward outcome).1))
        final

variable {epoch} in
/-- What the language models did before they do so whatever comes after. -/
theorem Passed.of_reaches {last later : σ} {entry final : Variable}
    {outcome : Outcome} (passed : epoch.Passed last entry outcome final)
    (reached : epoch.host.Reaches last later) :
    epoch.Passed later entry outcome final := by
  cases passed with
  | noop scored left => exact .noop scored left
  | generated generation unscored ends kept left =>
      refine .generated generation unscored ?_ kept left
      cases ends with
      | inTime heard before => exact .inTime heard (before.trans reached)
      | late heard before past => exact .late heard (before.trans reached) past

/-- A pass has let go of the lock of its key and left a variable under it. -/
structure Lets (world : World σ) (item : Variable × Nat) (final : Variable) :
    Prop where
  found : (world.stores epoch.trainer.store).find? item.1.key = some final
  free : (world.stores epoch.trainer.store).IsFree item.1.key

/-- A pass holds the lock of a variable that is as it was. -/
structure Holds (world : World σ) (item : Variable × Nat) : Prop where
  found : (world.stores epoch.trainer.store).find? item.1.key = some item.1
  held : (world.stores epoch.trainer.store).HeldBy item.1.key (work item).2

/-- Where the pass over a variable stands, with the number of answers it
may still get. -/
inductive Stands (world : World σ) (item : Variable × Nat) :
    Nat -> RunningTask (Except OptimizationError OptimizeReport) Outcome -> Prop
  | asking {left clock : Nat} {models : σ} {model : LanguageModel}
      {request : GenerationRequest}
      {resume : Reply -> Activity (Except OptimizationError (List String))}
      (holds : epoch.Holds world item) (unscored : item.1.unscoredCount ≠ 0)
      (heard : epoch.Hears item.1 clock models (.generate model request resume))
      (reached : epoch.host.Reaches models world.models)
      (asks : ∀ reply, (resume reply).Asks Optimizer.FailsPartly left)
      (early : world.clock ≤ clock + epoch.host.wait models model request)
      (inTime : world.clock ≤ epoch.deadline) :
      Stands world item (left + 1)
        ⟨epoch.task item,
          .awaitingModel (clock + epoch.host.wait models model request) model
            request fun reply => (resume reply).bind (epoch.conclusion item.1),
            none⟩
  | ended {outcome : Outcome} {final : Variable}
      {pause : Activity.Pause (Except OptimizationError OptimizeReport)}
      (lets : epoch.Lets world item final)
      (passed : epoch.Passed world.models item.1 outcome final) :
      Stands world item 0 ⟨epoch.task item, pause, some outcome⟩

end Epoch

namespace Epoch

variable {epoch : Epoch σ} {item : Variable × Nat}
  {items : List (String × Owner)} {world between : World σ}

/-- What a pass leads to only tells observers. -/
theorem advance_finish
    (epoch : Epoch σ)
    (item : Variable × Nat)
    (result : Option (Except OptimizationError OptimizeReport))
    (world : World σ) :
    ∃ after,
      ((epoch.task item).finish result).advance epoch.host (work item).2 world =
        (.finished (.ofPass epoch.trainer.timeout result), after) ∧
      world.Touches epoch.host epoch.trainer.store [work item] after ∧
      after.stores = world.stores := by
  simp only [task, Trainer.passTask]
  cases (Outcome.ofPass epoch.trainer.timeout result).event?
    epoch.number item.1.key with
  | none => exact ⟨world, rfl, .refl _ world, rfl⟩
  | some event => exact ⟨_, rfl, .notify (work item).2 event, rfl⟩

/-- What a pass commits of what it came to, if it commits. -/
theorem Holds.advance_settle
    (holds : epoch.Holds world item)
    {ended : Except OptimizationError OptimizeReport × Variable}
    (named : ended.2.key = item.1.key) :
    ∃ after final,
      (Optimizer.settle epoch.trainer.store item.1.key item.1 ended).advance
        epoch.host (work item).2
        world = (.finished ended.1, after) ∧
      world.Touches epoch.host epoch.trainer.store [work item] after ∧
      epoch.Lets after item final ∧
      final.SameContents
        (if Optimizer.commits item.1 ended.2 ended.1 then ended.2
          else item.1) := by
  unfold Optimizer.settle
  split
  · obtain ⟨committed, free, released⟩ :=
      holds.held.commit_releaseLock holds.found named world.now
    refine ⟨world.setStore epoch.trainer.store _, _, ?_,
      .setStore released, ⟨?_, ?_⟩,
      ⟨item.1.version + 1, world.now, rfl⟩⟩
    · simp only [Activity.advance, World.perform, Optimizer.release,
        World.stores_setStore_self, World.setStore_setStore]
    · rw [World.stores_setStore_self]
      exact committed
    · rw [World.stores_setStore_self]
      exact free
  · obtain ⟨free, released⟩ := holds.held.releaseLock
    refine ⟨_, item.1, rfl, .setStore released, ⟨?_, ?_⟩, .refl item.1⟩
    · rw [World.stores_setStore_self]
      exact holds.found
    · rw [World.stores_setStore_self]
      exact free

/-- A pass that has come to its result ends. -/
theorem Holds.goOn_of_settle
    (holds : epoch.Holds between item)
    {ended : Except OptimizationError OptimizeReport × Variable}
    (named : ended.2.key = item.1.key)
    {activity : Activity (Except OptimizationError OptimizeReport)}
    (leads : activity.advance epoch.host (work item).2 world =
      (Optimizer.settle epoch.trainer.store item.1.key item.1 ended).advance
        epoch.host (work item).2
        between) :
    ∃ after final,
      RunningTask.goOn epoch.host (epoch.task item) activity world =
        (⟨epoch.task item, .finished ended.1,
          some (.ofPass epoch.trainer.timeout (some ended.1))⟩,
          after) ∧
      between.Touches epoch.host epoch.trainer.store [work item] after ∧
      epoch.Lets after item final ∧
      final.SameContents
        (if Optimizer.commits item.1 ended.2 ended.1 then ended.2
          else item.1) := by
  obtain ⟨settled, final, advanced, touched, lets, same⟩ :=
    holds.advance_settle named
  obtain ⟨after, finished, told, stores⟩ :=
    epoch.advance_finish item (some ended.1) settled
  refine ⟨after, final, ?_, touched.trans told, ?_, same⟩
  · have owned : (epoch.task item).owner = (work item).2 := rfl
    simp only [RunningTask.goOn, RunningTask.settle, owned, leads, advanced,
      finished]
  · exact ⟨by rw [stores]; exact lets.found, by rw [stores]; exact lets.free⟩

/-- A pass whose time is up lets go of its lock and leaves the
variable as it was. -/
theorem Holds.expire
    (holds : epoch.Holds world item)
    (pause : Activity.Pause (Except OptimizationError OptimizeReport)) :
    ∃ after,
      RunningTask.expire epoch.host ⟨epoch.task item, pause, none⟩ world =
        (⟨epoch.task item, pause, some (.ofPass epoch.trainer.timeout none)⟩,
          after) ∧
      world.Touches epoch.host epoch.trainer.store [work item] after ∧
      epoch.Lets after item item.1 := by
  obtain ⟨after, finished, told, stores⟩ := epoch.advance_finish item none
    (world.abandon (work item).2)
  refine ⟨after, ?_, World.Touches.abandon.trans told, ?_⟩
  · have owned : (epoch.task item).owner = (work item).2 := rfl
    simp only [RunningTask.expire, owned, finished]
  · refine ⟨?_, ?_⟩ <;> rw [stores]
    · exact holds.found
    · exact holds.held.releaseAll

/-- A generation that is done is committed, whether it failed or not. -/
theorem commits_conclude
    {entry : Variable}
    {reward : Double}
    {outcome : Except OptimizationError (List String)}
    (unscored : entry.unscoredCount ≠ 0)
    (kept : Optimizer.FailsPartly outcome) :
    Optimizer.commits entry (Optimizer.conclude entry reward outcome).2
      (Optimizer.conclude entry reward outcome).1 = true := by
  cases outcome with
  | error reason => exact kept reason rfl
  | ok lines =>
      simp [Optimizer.conclude, Optimizer.commits, OptimizeReport.isNoop,
        unscored]

/-- A pass that has heard of some answers goes on to the next question or
to its end. -/
theorem Holds.goOn_of_asks
    (holds : epoch.Holds between item)
    (unscored : item.1.unscoredCount ≠ 0)
    {left : Nat}
    {rest : Activity (Except OptimizationError (List String))}
    (asks : rest.Asks Optimizer.FailsPartly left)
    (heard : epoch.Hears item.1 between.clock between.models rest)
    (inTime : between.clock ≤ epoch.deadline)
    (sameTime : world.clock = between.clock)
    {activity : Activity (Except OptimizationError OptimizeReport)}
    (leads : activity.advance epoch.host (work item).2 world =
      (rest.bind (epoch.conclusion item.1)).advance epoch.host
        (work item).2 between) :
    ∃ fewer running after, fewer ≤ left ∧
      RunningTask.goOn epoch.host (epoch.task item) activity world =
        (running, after) ∧
      between.Touches epoch.host epoch.trainer.store [work item] after ∧
      epoch.Stands after item fewer running := by
  obtain ⟨models, reached, ⟨outcome, kept, heard, advanced⟩ |
    ⟨fewer, model, request, resume, less, asks, later, heard, advanced⟩⟩ :=
      asks.advance_bind heard inTime (work item).2 (epoch.conclusion item.1)
  · have named :
        (Optimizer.conclude item.1 epoch.reward outcome).2.key =
          item.1.key := by
      cases outcome <;> rfl
    have holdsBetween : epoch.Holds { between with models := models } item :=
      ⟨holds.found, holds.held⟩
    obtain ⟨after, final, ended, touched, lets, same⟩ :=
      holdsBetween.goOn_of_settle named (leads.trans advanced)
    rw [if_pos (commits_conclude unscored kept)] at same
    refine ⟨0, _, after, Nat.zero_le _, ended,
      (World.Touches.withModels reached).trans touched,
      .ended lets ?_⟩
    refine .generated (some outcome) unscored
      (.inTime heard touched.models) ?_ same
    exact fun reason failed => kept reason (Option.some.inj failed)
  · have holdsBetween : epoch.Holds { between with models := models } item :=
      ⟨holds.found, holds.held⟩
    have awaits := leads.trans advanced
    have owned : (epoch.task item).owner = (work item).2 := rfl
    have limited : (epoch.task item).deadline = epoch.deadline := rfl
    simp only [RunningTask.goOn, owned, limited, awaits, sameTime]
    split
    -- The answer takes some time, and there is none left.
    · rename_i past
      obtain ⟨after, expired, touched, lets⟩ := holdsBetween.expire
        (.awaitingModel (between.clock + epoch.host.wait models model request)
          model request
          fun reply => (resume reply).bind (epoch.conclusion item.1))
      refine ⟨0, _, after, Nat.zero_le _, expired,
        (World.Touches.withModels reached).trans touched,
        .ended lets ?_⟩
      exact .generated none unscored (.late heard touched.models (by omega))
        nofun (.refl item.1)
    · exact ⟨fewer + 1, _, _, less, rfl, .withModels reached,
        .asking holdsBetween unscored heard .refl asks
          (Nat.le_add_right _ _) inTime⟩

/-- A pass that gets its lock reads its variable and goes on with the program
that was built. -/
theorem advance_task
    (valid : isValidReward epoch.reward = true)
    (ready : world.programs epoch.trainer.optimizer.id = some epoch.program)
    (built : item.1.phase ≠ .unbuilt)
    {locked : Store}
    (granted : (world.stores epoch.trainer.store).requestLock
      (work item).2 item.1.key =
      .granted locked)
    (found : locked.find? item.1.key = some item.1) :
    (epoch.task item).body.advance epoch.host (work item).2 world =
      ((epoch.trainer.optimizer.proceed item.1 epoch.reward
        (.ok epoch.program)).bind
        (Optimizer.settle epoch.trainer.store item.1.key item.1)).advance
          epoch.host (work item).2
          (world.setStore epoch.trainer.store locked) := by
  have body : (epoch.task item).body =
    epoch.trainer.optimizer.optimizeStored epoch.trainer.store
      item.1.key epoch.reward := rfl
  have program : (world.setStore epoch.trainer.store locked).programs
      epoch.trainer.optimizer.id = some epoch.program := ready
  simp only [body, Optimizer.optimizeStored_eq, Activity.advance, granted,
    Optimizer.underLock, World.perform, World.stores_setStore_self, found,
    Optimizer.afterRead, Optimizer.optimize_of_built _ valid built,
    Activity.bind, World.useProgram, program]

/-- A pass with nothing to score ends with an idle variable. -/
theorem Holds.goOn_of_scored
    (holds : epoch.Holds between item)
    (scored : item.1.unscoredCount = 0)
    {activity : Activity (Except OptimizationError OptimizeReport)}
    (leads : activity.advance epoch.host (work item).2 world =
      (Optimizer.settle epoch.trainer.store item.1.key item.1
        (.ok ⟨0, false⟩, { item.1 with phase := .idle })).advance
          epoch.host (work item).2
          between) :
    ∃ running after,
      RunningTask.goOn epoch.host (epoch.task item) activity world =
        (running, after) ∧
      between.Touches epoch.host epoch.trainer.store [work item] after ∧
      epoch.Stands after item 0 running := by
  obtain ⟨after, final, ended, touched, lets, same⟩ :=
    holds.goOn_of_settle rfl leads
  refine ⟨_, after, ended, touched, .ended lets (.noop scored ?_)⟩
  split at same
  · exact same
  · rename_i left
    -- Nothing was committed because the variable is idle already.
    have idle : item.1.phase = .idle := by
      have unchanged :
          ({ item.1 with phase := .idle } : Variable).same item.1 = true := by
        simpa [Optimizer.commits, OptimizeReport.isNoop] using left
      exact (Variable.phase_eq_of_same unchanged).symm
    have returned : item.1.inPhase .idle = item.1 := by
      rw [Variable.inPhase, ← idle]
    rw [returned]
    exact same

/-- A pass begins with the lock of its key, and asks nothing if there is
nothing to score. -/
theorem start_task
    (valid : isValidReward epoch.reward = true)
    (ready : world.programs epoch.trainer.optimizer.id = some epoch.program)
    (starts : world.clock = epoch.start)
    (reached : epoch.host.Reaches epoch.initial world.models)
    (lets : epoch.Lets world item item.1)
    (built : item.1.phase ≠ .unbuilt) :
    ∃ fewer running after, fewer ≤ epoch.program.questionCount ∧
      RunningTask.start epoch.host (epoch.task item) world = (running, after) ∧
      world.Touches epoch.host epoch.trainer.store [work item] after ∧
      epoch.Stands after item fewer running := by
  obtain ⟨locked, granted, entries, held, touchedFirst⟩ :=
    Store.heldBy_of_isFree
      (Store.contains_of_find? lets.found) lets.free (work item).2
  have found : locked.find? item.1.key = some item.1 := by
    rw [Store.find?, entries]
    exact lets.found
  have holds :
      epoch.Holds (world.setStore epoch.trainer.store locked) item := by
    refine ⟨?_, ?_⟩ <;> rw [World.stores_setStore_self]
    · exact found
    · exact held
  have leads := epoch.advance_task valid ready built granted found
  rw [RunningTask.start_eq]
  by_cases scored : item.1.unscoredCount = 0
  · simp only [Optimizer.proceed, scored, if_true, Activity.bind] at leads
    obtain ⟨running, after, ended, touched, stands⟩ :=
      holds.goOn_of_scored scored leads
    exact ⟨0, running, after, Nat.zero_le _, ended,
      (World.Touches.setStore touchedFirst).trans touched, stands⟩
  · simp only [Optimizer.proceed, scored, if_false, Activity.bind_assoc,
      Activity.bind_done] at leads
    change _ = ((epoch.trainer.optimizer.generate epoch.program
      (item.1.scoredAt epoch.reward)).bind (epoch.conclusion item.1)).advance _
      _ _ at leads
    have heard : epoch.Hears item.1 world.clock world.models
        (epoch.trainer.optimizer.generate epoch.program
          (item.1.scoredAt epoch.reward)) := by
      rw [starts]
      exact .begin reached
    have inTime : world.clock ≤ epoch.deadline := by
      rw [starts]
      exact Nat.le_add_right _ _
    obtain ⟨fewer, running, after, fits, ended, touched, stands⟩ :=
      holds.goOn_of_asks scored
        (epoch.trainer.optimizer.asks_generate epoch.program
          (item.1.scoredAt epoch.reward))
        heard inTime (rfl : world.clock = world.clock)
        leads
    exact ⟨fewer, running, after, fits, ended,
      (World.Touches.setStore touchedFirst).trans touched, stands⟩

namespace Stands

variable {left : Nat}
  {running : RunningTask (Except OptimizationError OptimizeReport) Outcome}

/-- Where a pass stands others leave it. -/
theorem of_touches
    {after : World σ}
    (stands : epoch.Stands world item left running)
    (touches : world.Touches epoch.host epoch.trainer.store items after)
    (apart : item.1.key ∉ items.map (·.1))
    (stranger : (work item).2 ∉ items.map (·.2)) :
    epoch.Stands after item left running := by
  have found := touches.store.found item.1.key apart
  cases stands with
  | asking holds unscored heard reached asks early inTime =>
      rw [← touches.clock] at early inTime
      exact .asking
        ⟨found.trans holds.found,
          touches.store.held _ _ apart stranger holds.held⟩
        unscored heard (reached.trans touches.models) asks early inTime
  | ended lets passed =>
      exact .ended
        ⟨found.trans lets.found, touches.store.free _ apart lets.free⟩
        (passed.of_reaches touches.models)

/-- A pass stands where it stood until it goes on by itself. -/
theorem atClock
    {clock : Nat}
    (stands : epoch.Stands world item left running)
    (early : ∀ next, running.nextDue world = some next -> clock ≤ next) :
    epoch.Stands (world.atClock clock) item left running := by
  cases stands with
  | asking holds unscored heard reached asks =>
      obtain ⟨beforeAnswer, beforeDeadline⟩ := Nat.le_min.mp (early _ rfl)
      exact .asking ⟨holds.found, holds.held⟩ unscored heard reached
        asks beforeAnswer beforeDeadline
  | ended lets passed => exact .ended ⟨lets.found, lets.free⟩ passed

/-- A pass has ended, or it goes on by itself before the deadline is past. -/
theorem ended_or_nextDue (stands : epoch.Stands world item left running) :
    (∃ outcome final, running.outcome = some outcome ∧
        epoch.Lets world item final ∧
        epoch.Passed world.models item.1 outcome final) ∨
      ∃ next, running.outcome = none ∧ running.nextDue world = some next ∧
        world.clock ≤ next ∧
        next ≤ epoch.deadline ∧
        ∀ later : World σ, running.isDue later next = true := by
  cases stands with
  | ended lets passed => exact .inl ⟨_, _, rfl, lets, passed⟩
  | asking holds unscored heard reached asks early inTime =>
      refine .inr
        ⟨_, rfl, rfl, Nat.le_min.mpr ⟨early, inTime⟩, Nat.min_le_right _ _,
          fun later => ?_⟩
      simp only [RunningTask.isDue, Option.isNone_none, Bool.true_and,
        Bool.or_eq_true, decide_eq_true_eq]
      omega

/-- A pass that is due has its answer or its time is up. -/
theorem wake
    (stands : epoch.Stands world item left running)
    (due : running.isDue world world.clock = true) :
    ∃ fewer awake after, fewer < left ∧
      RunningTask.wake epoch.host running world = (awake, after) ∧
      world.Touches epoch.host epoch.trainer.store [work item] after ∧
      epoch.Stands after item fewer awake := by
  cases stands with
  | ended lets passed => simp [RunningTask.isDue] at due
  | @asking left clock models model request resume holds unscored heard reached
      asks early inTime =>
      by_cases arrived : clock + epoch.host.wait models model request ≤
        world.clock
      · have now :
            clock + epoch.host.wait models model request = world.clock := by
          omega
        rw [RunningTask.wake_of_due arrived]
        have answered := heard.answered reached (by omega)
        rw [now] at answered
        have holdsAnswered :
            epoch.Holds (world.ask epoch.host model request).2 item :=
          ⟨holds.found, holds.held⟩
        obtain ⟨fewer, awake, after, fits, went, touched, stands⟩ :=
          holdsAnswered.goOn_of_asks unscored (asks _) answered inTime rfl rfl
        exact ⟨fewer, awake, after, by omega, went,
          (World.Touches.withModels
            (epoch.host.reaches_handle model request world.models)).trans
            touched, stands⟩
      · have past : epoch.deadline ≤ world.clock := by
          have limited : (epoch.task item).deadline = epoch.deadline := rfl
          simpa [RunningTask.isDue, arrived, limited] using due
        rw [RunningTask.wake_of_late (by omega)]
        obtain ⟨after, expired, touched, lets⟩ := holds.expire _
        refine ⟨0, _, after, Nat.succ_pos left, expired,
          touched, .ended lets ?_⟩
        exact .generated none unscored
          (.late heard (reached.trans touched.models) (by omega))
          (by simp) (.refl item.1)

end Stands

end Epoch
end PromptTuning
