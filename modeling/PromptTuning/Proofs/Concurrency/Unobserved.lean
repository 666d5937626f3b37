import PromptTuning.Proofs.Concurrency.Cohort
import PromptTuning.Trainer.Fit

/-!
# What observers cannot change

An observer is told of an event and its failure is passed over, so nothing that
happens in a world depends on what its observers answer. Two worlds that differ
in these answers alone stay alike: whatever is done in one of them is done in
the other, with the same results, and the observers of both receive the same
events.
-/

namespace PromptTuning

variable {σ : Type}

namespace Observers

/-- What observers receive of an event depends on their number alone. -/
theorem tell_fst (event : Event) (index : Nat) (observers : List Observer) :
    (tell event index observers).1 =
      (List.range' index observers.length).map (·, event) := by
  induction observers generalizing index with
  | nil => rfl
  | cons observer observers inductionHypothesis =>
      rw [List.length_cons, List.range'_succ, List.map_cons,
        ← inductionHypothesis, tell]
      cases observer event <;> rfl

/-- The same number of observers, who have received the same and answer to
events in their own way. -/
def answering (observers : Observers) (answers : Nat -> Observer) : Observers :=
  { observers with
    observers := observers.observers.mapIdx fun index _ => answers index }

/-- What observers would answer has no influence on the events that
they receive. -/
theorem notify_answering (observers : Observers) (answers : Nat -> Observer)
    (event : Event) :
    (observers.answering answers).notify event =
      (observers.notify event).answering answers := by
  simp only [notify, answering, tell_fst, List.length_mapIdx]

end Observers

namespace World

variable {α β : Type}

/-- The world with observers who answer to events in their own way. -/
def watchedBy (world : World σ) (answers : Nat -> Observer) : World σ :=
  { world with observers := world.observers.answering answers }

section WatchedBy

variable (world : World σ) (answers : Nat -> Observer)

@[simp] theorem stores_watchedBy :
    (world.watchedBy answers).stores = world.stores := rfl

@[simp] theorem programs_watchedBy :
    (world.watchedBy answers).programs = world.programs := rfl

@[simp] theorem models_watchedBy :
    (world.watchedBy answers).models = world.models := rfl

@[simp] theorem clock_watchedBy :
    (world.watchedBy answers).clock = world.clock := rfl

@[simp] theorem setStore_watchedBy (id : StoreId) (store : Store) :
    (world.watchedBy answers).setStore id store =
      (world.setStore id store).watchedBy answers := rfl

@[simp] theorem setProgram_watchedBy (id : OptimizerId) (program : Module) :
    (world.watchedBy answers).setProgram id program =
      (world.setProgram id program).watchedBy answers := rfl

@[simp] theorem abandon_watchedBy (owner : Owner) :
    (world.watchedBy answers).abandon owner =
      (world.abandon owner).watchedBy answers := rfl

@[simp] theorem atClock_watchedBy (clock : Nat) :
    (world.watchedBy answers).atClock clock =
      (world.atClock clock).watchedBy answers := rfl

@[simp] theorem ask_watchedBy
    (host : ModelHost σ) (model : LanguageModel) (request : GenerationRequest) :
    (world.watchedBy answers).ask host model request =
      ((world.ask host model request).1,
        (world.ask host model request).2.watchedBy answers) := rfl

end WatchedBy

/-- Something that comes to the same whatever observers answer. -/
def Blind (step : World σ -> α × World σ) : Prop :=
  ∀ world answers, step (world.watchedBy answers) =
    ((step world).1, (step world).2.watchedBy answers)

/-- What goes on blindly from where something blind left off is blind. -/
theorem Blind.andThen
    {step : World σ -> α × World σ}
    {next : α -> World σ -> β × World σ}
    (first : Blind step)
    (onward : ∀ value, Blind (next value)) :
    Blind fun world => next (step world).1 (step world).2 := by
  intro world answers
  simp only [first world answers]
  exact onward _ _ _

/-- An action goes the same way whatever observers answer. -/
theorem blind_perform (owner : Owner) (action : Action) :
    Blind fun world : World σ => world.perform owner action := by
  intro world answers
  cases action with
  | program optimizer =>
      simp only [perform, useProgram, programs_watchedBy]
      cases world.programs optimizer.id with
      | some program => rfl
      | none => cases optimizer.buildProgram <;> rfl
  | notify event => simp only [perform, watchedBy, Observers.notify_answering]
  | _ => rfl

end World

namespace Activity

variable {α : Type} (host : ModelHost σ) (owner : Owner)

/-- An activity goes on to the same point whatever observers answer. -/
theorem blind_advance (activity : Activity α) :
    World.Blind (activity.advance host owner) := by
  induction activity with
  | done result => exact fun _ _ => rfl
  | act action resume inductionHypothesis =>
      exact (World.blind_perform owner action).andThen inductionHypothesis
  | lock store key resume inductionHypothesis =>
      intro world answers
      simp only [advance, World.stores_watchedBy, World.setStore_watchedBy]
      cases (world.stores store).requestLock owner key with
      | refused reason => exact inductionHypothesis _ world answers
      | granted after =>
          exact inductionHypothesis _ (world.setStore store after) answers
      | queued after => rfl
  | generate model request resume inductionHypothesis =>
      intro world answers
      simp only [advance, World.models_watchedBy, World.clock_watchedBy,
        World.ask_watchedBy]
      by_cases soon : host.wait world.models model request = 0
      · simp only [soon, if_true]
        exact inductionHypothesis _ (world.ask host model request).2 answers
      · simp only [soon, if_false]

/-- An activity that runs alone ends the same way whatever observers answer. -/
theorem blind_run (limit : Nat) (activity : Activity α) :
    World.Blind (activity.run host owner limit) := by
  induction activity with
  | done result => exact fun _ _ => rfl
  | act action resume inductionHypothesis =>
      exact (World.blind_perform owner action).andThen inductionHypothesis
  | lock store key resume inductionHypothesis =>
      intro world answers
      simp only [run, World.stores_watchedBy, World.setStore_watchedBy]
      cases (world.stores store).requestLock owner key with
      | refused reason => exact inductionHypothesis _ world answers
      | granted after =>
          exact inductionHypothesis _ (world.setStore store after) answers
      | queued after => rfl
  | generate model request resume inductionHypothesis =>
      intro world answers
      simp only [run, World.models_watchedBy, World.clock_watchedBy,
        World.atClock_watchedBy, World.ask_watchedBy, World.abandon_watchedBy]
      by_cases within : world.clock + host.wait world.models model request ≤
        limit
      · simp only [within, if_true]
        exact inductionHypothesis _ ((world.atClock _).ask host model request).2
          answers
      · simp only [within, if_false]

end Activity

namespace RunningTask

variable {α β : Type} (host : ModelHost σ)

/-- What becomes of a task that is paused does not depend on observers. -/
theorem blind_settle (task : Task α β) (pause : Activity.Pause α) :
    World.Blind (settle host task pause) := by
  intro world answers
  cases pause with
  | finished result =>
      simp only [settle,
        (task.finish (some result)).blind_advance host task.owner world answers]
      generalize (task.finish (some result)).advance host task.owner world =
        ended
      obtain ⟨pause, after⟩ := ended
      cases pause <;> rfl
  | _ => rfl

/-- A task is given up the same way whatever observers answer. -/
theorem blind_expire (running : RunningTask α β) :
    World.Blind (expire host running) := by
  intro world answers
  simp only [expire, World.abandon_watchedBy,
    (running.task.finish none).blind_advance host running.task.owner _ answers]
  generalize (running.task.finish none).advance host running.task.owner
    (world.abandon running.task.owner) = ended
  obtain ⟨pause, after⟩ := ended
  cases pause <;> rfl

/-- A task goes on the same way whatever observers answer. -/
theorem blind_goOn (task : Task α β) (activity : Activity α) :
    World.Blind (goOn host task activity) := by
  intro world answers
  simp only [goOn, activity.blind_advance host task.owner world answers,
    World.clock_watchedBy]
  generalize activity.advance host task.owner world = reached
  obtain ⟨pause, after⟩ := reached
  cases pause with
  | finished result => exact blind_settle host task _ after answers
  | _ =>
      by_cases late : task.deadline ≤ world.clock
      · simp only [late, if_true]
        exact blind_expire host _ after answers
      · simp only [late, if_false]

/-- A task is woken up the same way whatever observers answer. -/
theorem blind_wake (running : RunningTask α β) :
    World.Blind (running.wake host) := by
  intro world answers
  obtain ⟨task, pause, outcome⟩ := running
  cases pause with
  | finished result =>
      exact blind_settle host task (.finished result) world answers
  | awaitingLock store key resume =>
      by_cases granted : (world.stores store).isHolder task.owner key = true
      · simp only [wake, World.stores_watchedBy, granted, if_true]
        exact blind_goOn host task (resume (.ok ())) world answers
      · simp only [wake, World.stores_watchedBy, granted]
        exact blind_expire host _ world answers
  | awaitingModel due model request resume =>
      by_cases arrived : due ≤ world.clock
      · have arrivedWatched : due ≤ (world.watchedBy answers).clock := arrived
        rw [wake_of_due arrivedWatched, wake_of_due arrived]
        exact blind_goOn host task (resume (world.ask host model request).1)
          (world.ask host model request).2 answers
      · have late : world.clock < due := Nat.lt_of_not_le arrived
        have lateWatched : (world.watchedBy answers).clock < due := late
        rw [wake_of_late lateWatched, wake_of_late late]
        exact blind_expire host _ world answers

end RunningTask

namespace Task

variable {α β : Type} (host : ModelHost σ)

/-- Tasks start the same way whatever observers answer. -/
theorem blind_startAll (tasks : List (Task α β)) :
    World.Blind (startAll host tasks) := by
  induction tasks with
  | nil => exact fun _ _ => rfl
  | cons task tasks inductionHypothesis =>
      intro world answers
      have started :
          RunningTask.start host task (world.watchedBy answers) = _ :=
        RunningTask.blind_goOn host task task.body world answers
      simp only [startAll, started]
      rw [inductionHypothesis _ answers]
      rfl

/-- Tasks are woken up the same way whatever observers answer. -/
theorem blind_wakeAll (running : List (RunningTask α β)) :
    World.Blind (wakeAll host running) := by
  induction running with
  | nil => exact fun _ _ => rfl
  | cons first running inductionHypothesis =>
      intro world answers
      have due : first.isDue (world.watchedBy answers) world.clock =
        first.isDue world world.clock := rfl
      by_cases goesOn : first.isDue world world.clock = true
      · simp only [wakeAll, World.clock_watchedBy, due, goesOn, if_true,
          first.blind_wake host world answers, inductionHypothesis _ answers]
      · simp only [wakeAll, World.clock_watchedBy, due, goesOn,
          Bool.false_eq_true, if_false, inductionHypothesis _ answers]

/-- Tasks are abandoned the same way whatever observers answer. -/
theorem abandonAll_watchedBy
    (running : List (RunningTask α β))
    (world : World σ)
    (answers : Nat -> Observer) :
    abandonAll running (world.watchedBy answers) =
      (abandonAll running world).watchedBy answers := by
  unfold abandonAll
  induction running generalizing world with
  | nil => rfl
  | cons first running inductionHypothesis =>
      exact inductionHypothesis (world.abandon first.task.owner)

/-- Rounds of tasks end the same way whatever observers answer. -/
theorem blind_rounds (limit count : Nat) (running : List (RunningTask α β)) :
    World.Blind (rounds host limit count running) := by
  intro world answers
  induction count generalizing running world with
  | zero => simp only [rounds, abandonAll_watchedBy]
  | succ count inductionHypothesis =>
      have next : running.filterMap (·.nextDue (world.watchedBy answers)) =
        running.filterMap (·.nextDue world) := rfl
      simp only [rounds, next, World.clock_watchedBy, abandonAll_watchedBy,
        World.atClock_watchedBy, blind_wakeAll host running _ answers,
        inductionHypothesis]
      cases outcomes? running with
      | some outcomes => rfl
      | none =>
          cases (running.filterMap (·.nextDue world)).min? with
          | none => rfl
          | some next =>
              by_cases within : next ≤ limit <;>
                simp only [within, if_true, if_false]

/-- Tasks that run side by side end the same way whatever observers answer. -/
theorem blind_runAll (limit waits : Nat) (tasks : List (Task α β)) :
    World.Blind (runAll host limit waits tasks) :=
  (blind_startAll host tasks).andThen fun running =>
    blind_rounds host limit _ running

end Task

namespace Run

variable {α β : Type} (host : ModelHost σ) (limit : Nat)

/-- A run that does nothing does not depend on observers. -/
theorem blind_pure (value : α) : World.Blind (pure value : Run σ α).run.run :=
  fun _ _ => rfl

/-- A run that goes on from another one does not depend on observers if
both do not. -/
theorem blind_bind
    {first : Run σ α}
    {next : α -> Run σ β}
    (blind : World.Blind first.run.run)
    (onward : ∀ value, World.Blind (next value).run.run) :
    World.Blind (first >>= next).run.run := by
  intro world answers
  simp only [OptionT.run_bind, Option.elimM, StateT.run_bind,
    blind world answers]
  cases first.run.run world with
  | mk ended after =>
      cases ended with
      | none => rfl
      | some value => exact onward value after answers

/-- Who looks at the world but not at its observers' answers is
blind to them. -/
theorem blind_get_bind
    {next : World σ -> Run σ β}
    (same : ∀ world answers, next (World.watchedBy world answers) = next world)
    (onward : ∀ world, World.Blind (next world).run.run) :
    World.Blind (getThe (World σ) >>= next).run.run := by
  intro world answers
  change (next (world.watchedBy answers)).run.run (world.watchedBy answers) = _
  rw [same]
  exact onward world world answers

/-- An activity in a run does not depend on observers. -/
theorem blind_activity (body : Activity α) :
    World.Blind (activity host limit body).run.run :=
  body.blind_run host foreground limit

/-- Tasks in a run do not depend on observers. -/
theorem blind_sideBySide (waits : Nat) (tasks : List (Task α β)) :
    World.Blind (sideBySide host limit waits tasks).run.run :=
  Task.blind_runAll host limit waits tasks

end Run
end PromptTuning
