import Mathlib.Data.List.Nodup
import PromptTuning.Proofs.Concurrency.Alike
import PromptTuning.Proofs.Concurrency.Unobserved

/-!
# What tasks announce

A task that works in silence and announces what it has come to is heard of once,
when it ends. Tasks side by side end in some order, and when all of them have
ended, observers have been told what each of them came to and nothing else.
-/

namespace PromptTuning

variable {σ : Type}

namespace Observers

/-- Tell every observer of some events, one after another. -/
def hear (observers : Observers) (events : List Event) : Observers :=
  events.foldl notify observers

@[simp] theorem hear_nil (observers : Observers) :
    observers.hear [] = observers := rfl

/-- Observers hear events one after another. -/
theorem hear_append (observers : Observers) (first second : List Event) :
    observers.hear (first ++ second) = (observers.hear first).hear second :=
  List.foldl_append

/-- The events that the observer with a number has received, oldest first. -/
def receivedBy (observers : Observers) (index : Nat) : List Event :=
  (observers.received.filter (·.1 == index)).map (·.2)

/-- Each observer receives each event once, whoever fails at it. -/
theorem receivedBy_hear
    {observers : Observers}
    {index : Nat}
    (listed : index < observers.observers.length)
    (events : List Event) :
    (observers.hear events).receivedBy index =
      observers.receivedBy index ++ events := by
  induction events generalizing observers with
  | nil => rw [hear_nil, List.append_nil]
  | cons event events inductionHypothesis =>
      have once :
          (List.range observers.observers.length).filter (· == index) =
            [index] := by
        rw [List.filter_beq,
          List.count_eq_one_of_mem List.nodup_range (List.mem_range.mpr listed)]
        rfl
      have own : (observers.notify event).receivedBy index =
          observers.receivedBy index ++ [event] := by
        rw [receivedBy, notify, tell_fst, List.filter_append, List.map_append,
          List.filter_map, ← List.range_eq_range']
        change _ ++
          (((List.range observers.observers.length).filter (· == index)).map
            _).map _ = _
        rw [once]
        rfl
      calc ((observers.notify event).hear events).receivedBy index
          = (observers.notify event).receivedBy index ++ events :=
            @inductionHypothesis (observers.notify event) listed
        _ = observers.receivedBy index ++ event :: events := by
            rw [own, List.append_assoc, List.singleton_append]

end Observers

/-- Whether an action tells observers of something. -/
def Action.tells : Action -> Bool
  | .notify _ => true
  | _ => false

/-- Observers hear nothing of an action that tells nothing. -/
theorem World.observers_perform
    {action : Action}
    (quiet : action.tells = false)
    (world : World σ)
    (owner : Owner) :
    (world.perform owner action).2.observers = world.observers := by
  cases action with
  | program optimizer =>
      simp only [perform, useProgram]
      cases world.programs optimizer.id with
      | some program => rfl
      | none => cases optimizer.buildProgram <;> rfl
  | notify event => contradiction
  | _ => rfl

namespace Activity

variable {α β γ : Type}

/-- An activity that tells observers nothing. -/
inductive Silent : Activity α -> Prop
  | done {result : α} : Silent (.done result)
  | act {action : Action} {resume : action.Answer -> Activity α}
      (quiet : action.tells = false)
      (resumed : ∀ answer, Silent (resume answer)) :
      Silent (.act action resume)
  | lock {store : StoreId} {key : String}
      {resume : Except StoreError Unit -> Activity α}
      (resumed : ∀ outcome, Silent (resume outcome)) :
      Silent (.lock store key resume)
  | generate {model : LanguageModel} {request : GenerationRequest}
      {resume : Except LanguageModelError Value -> Activity α}
      (resumed : ∀ reply, Silent (resume reply)) :
      Silent (.generate model request resume)

/-- An activity that has paused has nothing to tell later. -/
def Pause.Silent : Pause α -> Prop
  | .finished _ => True
  | .awaitingLock _ _ resume => ∀ outcome, (resume outcome).Silent
  | .awaitingModel _ _ _ resume => ∀ reply, (resume reply).Silent

namespace Silent

variable {activity : Activity α}

/-- An activity is silent if both of its parts are. -/
theorem bind
    {next : α -> Activity β}
    (silent : activity.Silent)
    (continued : ∀ result, (next result).Silent) :
    (activity.bind next).Silent := by
  induction silent with
  | done => exact continued _
  | act quiet _ inductionHypothesis => exact .act quiet inductionHypothesis
  | lock _ inductionHypothesis => exact .lock inductionHypothesis
  | generate _ inductionHypothesis => exact .generate inductionHypothesis

/-- What only looks is silent. -/
theorem ofAlike
    {uses : Optimizer -> Prop}
    {related : α -> γ -> Prop}
    {other : Activity γ}
    (alike : Activity.Alike uses related activity other) :
    activity.Silent := by
  induction alike with
  | done _ => exact .done
  | read _ inductionHypothesis =>
      exact .act rfl fun answer => inductionHypothesis answer answer
  | program _ _ inductionHypothesis => exact .act rfl inductionHypothesis
  | generate _ inductionHypothesis => exact .generate inductionHypothesis

/-- An activity under a lock is silent if its body is. -/
theorem withLock
    {ε : Type}
    {store : StoreId}
    {key : String}
    {refusal : StoreError -> ε}
    {body : Activity (Except ε α)}
    (silent : body.Silent) :
    (Activity.withLock store key refusal body).Silent := by
  refine .lock fun outcome => ?_
  cases outcome with
  | error reason => exact .done
  | ok _ => exact silent.bind fun _ => .act rfl fun _ => .done

/-- Observers hear nothing of a silent activity, however far it goes. -/
theorem advance (silent : activity.Silent) (host : ModelHost σ) (owner : Owner)
    (world : World σ) :
    (activity.advance host owner world).1.Silent ∧
      (activity.advance host owner world).2.observers = world.observers := by
  induction silent generalizing world with
  | done => exact ⟨trivial, rfl⟩
  | @act action resume quiet _ inductionHypothesis =>
      rw [← world.observers_perform quiet owner]
      exact inductionHypothesis _ _
  | @lock store key resume resumed inductionHypothesis =>
      simp only [Activity.advance]
      cases (world.stores store).requestLock owner key with
      | refused reason => exact inductionHypothesis _ world
      | granted after =>
          exact inductionHypothesis _ (world.setStore store after)
      | queued after => exact ⟨resumed, rfl⟩
  | @generate model request resume resumed inductionHypothesis =>
      simp only [Activity.advance]
      split
      · exact inductionHypothesis _ (world.ask host model request).2
      · exact ⟨resumed, rfl⟩

/-- Observers hear nothing of a silent activity that runs alone. -/
theorem run (silent : activity.Silent) (host : ModelHost σ) (owner : Owner)
    (limit : Nat) (world : World σ) :
    (activity.run host owner limit world).2.observers = world.observers := by
  induction silent generalizing world with
  | done => rfl
  | @act action resume quiet _ inductionHypothesis =>
      rw [← world.observers_perform quiet owner]
      exact inductionHypothesis _ _
  | @lock store key resume _ inductionHypothesis =>
      simp only [Activity.run]
      cases (world.stores store).requestLock owner key with
      | refused reason => exact inductionHypothesis _ world
      | granted after =>
          exact inductionHypothesis _ (world.setStore store after)
      | queued after => rfl
  | @generate model request resume _ inductionHypothesis =>
      simp only [Activity.run]
      split
      · exact inductionHypothesis _ ((world.atClock _).ask host model request).2
      · rfl

end Silent

/-- Tell observers of an event, if there is one, and end. -/
def announce (event? : Option Event) (outcome : β) : Activity β :=
  match event? with
  | some event => .act (.notify event) fun _ => .done outcome
  | none => .done outcome

/-- An announcement is heard, and then its outcome is there. -/
theorem advance_announce (host : ModelHost σ) (owner : Owner)
    (event? : Option Event) (outcome : β) (world : World σ) :
    (announce event? outcome).advance host owner world =
      (.finished outcome,
        { world with observers := world.observers.hear event?.toList }) := by
  cases event? <;> rfl

end Activity

namespace Task

variable {α β : Type}

/-- A task that works in silence, and tells observers of what it has come to if
that is an event. -/
structure Announces (task : Task α β) (event? : β -> Option Event) : Prop where
  silent : task.body.Silent
  finish :
    ∀ result, ∃ outcome,
      task.finish result = Activity.announce (event? outcome) outcome

end Task

namespace RunningTask

variable {α β : Type} {task : Task α β} {event? : β -> Option Event}
  {running : RunningTask α β}

/-- What observers have been told of a task. -/
def said (event? : β -> Option Event) (running : RunningTask α β) :
    List Event :=
  (running.outcome.bind event?).toList

/-- A task that has gone on has told observers of its end, if it has ended, and
of nothing else. -/
structure Spoken (task : Task α β) (event? : β -> Option Event)
    (before : World σ)
    (gone : RunningTask α β × World σ) : Prop where
  task : gone.1.task = task
  silent : gone.1.pause.Silent
  told : gone.2.observers = before.observers.hear (gone.1.said event?)

variable {world : World σ}

/-- What was said since then was said since whenever observers had
heard the same. -/
theorem Spoken.of_observers_eq
    {between : World σ}
    {gone : RunningTask α β × World σ}
    (spoken : Spoken task event? between gone)
    (same : between.observers = world.observers) :
    Spoken task event? world gone :=
  ⟨spoken.task, spoken.silent, same ▸ spoken.told⟩

/-- A task that comes to an outcome announces the event of that outcome. -/
theorem spoken_settle
    (announces : task.Announces event?)
    (host : ModelHost σ)
    {pause : Activity.Pause α}
    (silent : pause.Silent) :
    Spoken task event? world (settle host task pause world) := by
  cases pause with
  | finished result =>
      obtain ⟨outcome, finish⟩ := announces.finish (some result)
      simp only [settle, finish, Activity.advance_announce]
      exact ⟨rfl, trivial, rfl⟩
  | _ => exact ⟨rfl, silent, rfl⟩

/-- A task that is given up announces the event of the outcome it has then. -/
theorem spoken_expire
    (announces : running.task.Announces event?)
    (host : ModelHost σ)
    (silent : running.pause.Silent) :
    Spoken running.task event? world (expire host running world) := by
  obtain ⟨outcome, finish⟩ := announces.finish none
  simp only [expire, finish, Activity.advance_announce]
  exact ⟨rfl, silent, rfl⟩

/-- A task that goes on announces an event only with its outcome. -/
theorem spoken_goOn
    (announces : task.Announces event?)
    (host : ModelHost σ)
    {activity : Activity α}
    (silent : activity.Silent) :
    Spoken task event? world (goOn host task activity world) := by
  obtain ⟨later, quiet⟩ := silent.advance host task.owner world
  unfold goOn
  generalize activity.advance host task.owner world = reached at later quiet
  obtain ⟨pause, after⟩ := reached
  cases pause with
  | finished result =>
      exact (@spoken_settle _ _ _ _ _ _ announces host (.finished result)
        trivial).of_observers_eq quiet
  | _ =>
      simp only
      split
      · exact (@spoken_expire _ _ _ _ ⟨task, _, none⟩ _ announces host
          later).of_observers_eq quiet
      · exact ⟨rfl, later, quiet⟩

/-- A task that is woken has not been heard of before. -/
theorem spoken_wake
    (announces : running.task.Announces event?)
    (host : ModelHost σ)
    (silent : running.pause.Silent) :
    Spoken running.task event? world (running.wake host world) := by
  obtain ⟨task, pause, outcome⟩ := running
  cases pause with
  | finished result =>
      exact @spoken_settle _ _ _ _ _ _ announces host (.finished result) trivial
  | awaitingLock store key resume =>
      simp only [wake]
      split
      · exact spoken_goOn announces host (silent _)
      · exact spoken_expire announces host silent
  | awaitingModel due model request resume =>
      by_cases arrived : due ≤ world.clock
      · rw [wake_of_due arrived]
        exact (spoken_goOn announces host (silent _)).of_observers_eq rfl
      · rw [wake_of_late (Nat.lt_of_not_le arrived)]
        exact spoken_expire announces host silent

end RunningTask

namespace Task

variable {α β : Type} {host : ModelHost σ} {events : List (β -> Option Event)}

/-- What observers have been told of some tasks. -/
def said (events : List (β -> Option Event))
    (running : List (RunningTask α β)) : List Event :=
  (events.zip running).flatMap fun (event?, running) => running.said event?

theorem said_cons
    (event? : β -> Option Event) (first : RunningTask α β)
    (running : List (RunningTask α β)) :
    said (event? :: events) (first :: running) =
      first.said event? ++ said events running := rfl

/-- What observers are told of some outcomes. -/
def announced (events : List (β -> Option Event)) (outcomes : List β) :
    List Event :=
  (events.zip outcomes).filterMap fun (event?, outcome) => event? outcome

/-- Tasks that are under way and announce nothing but what they come to. -/
def AllReticent (events : List (β -> Option Event))
    (running : List (RunningTask α β)) : Prop :=
  List.Forall₂
    (fun event? running => running.task.Announces event? ∧ running.pause.Silent)
    events running

/-- Tasks are started in order, and those that end at once are
announced in order. -/
theorem said_startAll
    (host : ModelHost σ)
    {tasks : List (Task α β)}
    (announce :
      List.Forall₂ (fun event? task => Announces task event?) events tasks)
    (world : World σ) :
    AllReticent events (startAll host tasks world).1 ∧
      (startAll host tasks world).2.observers =
        world.observers.hear (said events (startAll host tasks world).1) := by
  induction announce generalizing world with
  | nil => exact ⟨.nil, rfl⟩
  | @cons event? task events tasks announces _ inductionHypothesis =>
      have spoken :
          RunningTask.Spoken task event? world
            (RunningTask.start host task world) :=
        RunningTask.spoken_goOn announces host announces.silent
      obtain ⟨reticent, told⟩ :=
        inductionHypothesis (RunningTask.start host task world).2
      refine ⟨.cons ⟨spoken.task.symm ▸ announces, spoken.silent⟩ reticent, ?_⟩
      simp only [startAll]
      rw [told, spoken.told, ← Observers.hear_append]
      rfl

/-- A round tells observers of the tasks that end in it. -/
theorem said_wakeAll
    (host : ModelHost σ)
    {running : List (RunningTask α β)}
    (reticent : AllReticent events running)
    (world : World σ) :
    AllReticent events (wakeAll host running world).1 ∧
      ∃ told,
        (wakeAll host running world).2.observers = world.observers.hear told ∧
        (said events (wakeAll host running world).1).Perm
          (said events running ++ told) := by
  induction reticent generalizing world with
  | nil => exact ⟨.nil, [], rfl, .nil⟩
  | @cons event? first events running own _ inductionHypothesis =>
      obtain ⟨announces, silent⟩ := own
      by_cases due : first.isDue world world.clock = true
      · have spoken :
            RunningTask.Spoken first.task event? world
              (first.wake host world) :=
          RunningTask.spoken_wake announces host silent
        have open' : first.outcome = none := by
          simp only [RunningTask.isDue, Bool.and_eq_true,
            Option.isNone_iff_eq_none] at due
          exact due.1
        have nothing : first.said event? = [] := by
          rw [RunningTask.said, open']
          rfl
        obtain ⟨reticent, told, heard, same⟩ :=
          inductionHypothesis (first.wake host world).2
        simp only [wakeAll, due, if_true]
        refine ⟨.cons ⟨spoken.task.symm ▸ announces, spoken.silent⟩ reticent,
          (first.wake host world).1.said event? ++ told, ?_, ?_⟩
        · rw [heard, spoken.told, Observers.hear_append]
        · rw [said_cons, said_cons, nothing, List.nil_append]
          exact (same.append_left _).trans (List.perm_append_comm_assoc _ _ _)
      · obtain ⟨reticent, told, heard, same⟩ := inductionHypothesis world
        simp only [wakeAll, due, Bool.false_eq_true, if_false]
        refine ⟨.cons ⟨announces, silent⟩ reticent, told, heard, ?_⟩
        rw [said_cons, said_cons, List.append_assoc]
        exact same.append_left _

/-- All tasks have ended if each has an outcome. -/
theorem outcomes?_eq_some {running : List (RunningTask α β)}
    {outcomes : List β} :
    outcomes? running = some outcomes ↔
      List.Forall₂ (fun running outcome => running.outcome = some outcome)
        running outcomes := by
  unfold outcomes?
  induction running generalizing outcomes with
  | nil => simp [eq_comm]
  | cons first running inductionHypothesis =>
      rw [List.forall₂_cons_left_iff, List.mapM_cons]
      simp only [← inductionHypothesis]
      cases first.outcome <;> cases running.mapM (·.outcome) <;> simp [eq_comm]

/-- There are as many outcomes as events when all tasks have ended. -/
theorem AllReticent.length_of_outcomes?
    {running : List (RunningTask α β)}
    {outcomes : List β}
    (reticent : AllReticent events running)
    (ended : outcomes? running = some outcomes) :
    outcomes.length = events.length :=
  (outcomes?_eq_some.mp ended).length_eq.symm.trans reticent.length_eq.symm

/-- Of tasks that have all ended, observers have been told what they came to. -/
theorem said_eq_announced
    {running : List (RunningTask α β)}
    {outcomes : List β}
    (ended : outcomes? running = some outcomes) :
    said events running = announced events outcomes := by
  rw [outcomes?_eq_some] at ended
  unfold said announced
  rw [List.filterMap_eq_flatMap_toList]
  induction ended generalizing events with
  | nil => rw [List.zip_nil_right, List.zip_nil_right]; rfl
  | @cons first outcome running outcomes own _ inductionHypothesis =>
      cases events with
      | nil => rfl
      | cons event? events =>
          have told : first.said event? = (event? outcome).toList := by
            rw [RunningTask.said, own]
            rfl
          rw [List.zip_cons_cons, List.zip_cons_cons, List.flatMap_cons,
            List.flatMap_cons, inductionHypothesis]
          exact congrArg (· ++ _) told

/-- Observers hear nothing of tasks that are abandoned. -/
theorem observers_abandonAll (running : List (RunningTask α β))
    (world : World σ) :
    (abandonAll running world).observers = world.observers := by
  unfold abandonAll
  induction running generalizing world with
  | nil => rfl
  | cons first running inductionHypothesis =>
      exact inductionHypothesis (world.abandon first.task.owner)

/-- When all tasks have ended, each with an outcome, observers have been told
what they came to, in some order. -/
theorem announced_rounds
    {limit count : Nat}
    {running : List (RunningTask α β)}
    {world after : World σ}
    {outcomes : List β}
    (reticent : AllReticent events running)
    (ran : rounds host limit count running world = (some outcomes, after)) :
    outcomes.length = events.length ∧
      ∃ told, after.observers = world.observers.hear told ∧
        (announced events outcomes).Perm (said events running ++ told) := by
  -- Each round adds to what has been said what it makes observers hear.
  induction count generalizing running world with
  | zero =>
      obtain ⟨ended, rfl⟩ := Prod.mk.inj ran
      refine ⟨reticent.length_of_outcomes? ended, [],
        observers_abandonAll running world, ?_⟩
      rw [said_eq_announced ended, List.append_nil]
  | succ count inductionHypothesis =>
      rw [rounds] at ran
      cases ended : outcomes? running with
      | some all =>
          simp only [ended] at ran
          obtain ⟨same, rfl⟩ := Prod.mk.inj ran
          obtain rfl := Option.some.inj same
          refine ⟨reticent.length_of_outcomes? ended, [], rfl, ?_⟩
          rw [said_eq_announced ended, List.append_nil]
      | none =>
          cases first : (running.filterMap (·.nextDue world)).min? with
          | none => simp [ended, first] at ran
          | some next =>
              simp only [ended, first] at ran
              split at ran
              · obtain ⟨reticentAwake, told, heard, same⟩ :=
                  said_wakeAll host reticent
                    (world.atClock (max next world.clock))
                obtain ⟨count, later, heardLater, all⟩ :=
                  inductionHypothesis reticentAwake ran
                refine ⟨count, told ++ later, ?_, all.trans ?_⟩
                · rw [heardLater, heard, Observers.hear_append]
                  rfl
                · rw [← List.append_assoc]
                  exact same.append_right later
              · simp at ran

/-- Tasks side by side have an outcome each, and they tell observers what they
come to, in some order, and nothing else. -/
theorem announced_runAll
    {limit waits : Nat}
    {tasks : List (Task α β)}
    {world after : World σ}
    {outcomes : List β}
    (announce :
      List.Forall₂ (fun event? task => Announces task event?) events tasks)
    (ran : runAll host limit waits tasks world = (some outcomes, after)) :
    outcomes.length = events.length ∧
      ∃ told, after.observers = world.observers.hear told ∧
        told.Perm (announced events outcomes) := by
  obtain ⟨reticent, heard⟩ := said_startAll host announce world
  obtain ⟨counted, told, heardLater, all⟩ := announced_rounds reticent ran
  refine ⟨counted, said events (startAll host tasks world).1 ++ told, ?_,
    all.symm⟩
  rw [heardLater, heard, Observers.hear_append]

end Task

end PromptTuning
