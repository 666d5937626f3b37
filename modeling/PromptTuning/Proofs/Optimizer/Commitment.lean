import PromptTuning.Proofs.Concurrency.Progress
import PromptTuning.Proofs.Concurrency.Sparing
import PromptTuning.Proofs.Optimizer.Result
import PromptTuning.Proofs.Store.Entries
import PromptTuning.Proofs.Store.Holding
import PromptTuning.Proofs.Variable.Soundness

/-!
# What a stored pass leaves behind

A pass over a stored variable works on a copy and commits it in one action at
the end, or not at all. Wherever it stands before that action its key is as it
was, so that dropping it loses the pass and nothing else. It commits unless it
was refused or found an idle variable with nothing to score.
-/

namespace PromptTuning

variable {σ : Type}

namespace Progress

variable {α : Type}

/-- Whether an activity stands before a lock that it does not have yet. -/
def AwaitsLock : Progress α -> Prop
  | .active (.lock _ _ _) => True
  | .waiting _ _ _ => True
  | _ => False

/-- Whether an activity has anything left to await before it lets go
of its lock. -/
def Awaits : Progress α -> Prop
  | .active (.done _) => False
  | .active (.act (.unlock _ _) _) => False
  | _ => True

instance : (progress : Progress α) -> Decidable progress.Awaits
  | .active (.done _) | .active (.act (.unlock _ _) _) => .isFalse id
  | .active (.act (.keys _) _) | .active (.act (.read _ _) _)
  | .active (.act (.register _ _ _) _) | .active (.act (.modify _ _ _) _)
  | .active (.act (.commit _ _) _) | .active (.act (.program _) _)
  | .active (.act (.notify _) _) | .active (.lock _ _ _)
  | .active (.generate _ _ _) | .waiting _ _ _ => .isTrue trivial

end Progress

/-- The course of an activity on one key amid anything that others do, with the
variable that others left there. They may change it while the activity awaits
the lock; from then on mutual exclusion has them leave it alone. -/
inductive Course {α : Type}
    (host : ModelHost σ)
    (owner : Owner)
    (store : StoreId)
    (key : String)
    (activity : Activity α) :
    Variable -> List Exchange -> Progress α -> World σ -> Prop
  | begin {before : Variable} {world : World σ}
      (stored : (world.stores store).find? key = some before) :
      Course host owner store key activity before [] (.active activity) world
  | step {before : Variable} {events : List Exchange} {progress : Progress α}
      {world : World σ}
      (course :
        Course host owner store key activity before events progress world) :
      Course host owner store key activity before
        (events ++ progress.exchanged host owner world)
        (progress.step host owner world).1 (progress.step host owner world).2
  | waiting {before now : Variable} {events : List Exchange}
      {progress : Progress α} {world after : World σ}
      (course :
        Course host owner store key activity before events progress world)
      (awaits : progress.AwaitsLock)
      (stored : (after.stores store).find? key = some now) :
      Course host owner store key activity now events progress after
  | aside {before : Variable} {events : List Exchange} {progress : Progress α}
      {world after : World σ}
      (course :
        Course host owner store key activity before events progress world)
      (untouched :
        (after.stores store).find? key = (world.stores store).find? key) :
      Course host owner store key activity before events progress after

/-- An activity may take several steps of its course at once. -/
theorem Course.steps
    {α : Type}
    {host : ModelHost σ}
    {owner : Owner}
    {store : StoreId}
    {key : String}
    {activity : Activity α}
    {before : Variable}
    {events : List Exchange}
    {progress : Progress α}
    {world : World σ}
    (course : Course host owner store key activity before events progress world)
    (count : Nat) :
    ∃ later, Course host owner store key activity before later
      (Progress.steps host owner count progress world).1
      (Progress.steps host owner count progress world).2 := by
  induction count generalizing events progress world with
  | zero => exact ⟨events, course⟩
  | succ count inductionHypothesis => exact inductionHypothesis course.step

/-- How an activity comes to another one on what it is told, without waiting
for a lock. -/
inductive Activity.Responds {α : Type} (activity : Activity α) :
    List Exchange -> Activity α -> Prop
  | begin : Responds activity [] activity
  | acted {events : List Exchange} {action : Action}
      {resume : action.Answer -> Activity α}
      (responds : Responds activity events (.act action resume))
      (now : Timestamp) (answer : action.Answer) :
      Responds activity (events ++ [.acted now action answer]) (resume answer)
  | replied {events : List Exchange} {model : LanguageModel}
      {request : GenerationRequest}
      {resume : Except LanguageModelError Value -> Activity α}
      (responds : Responds activity events (.generate model request resume))
      (reply : Except LanguageModelError Value) :
      Responds activity (events ++ [.replied model request reply])
        (resume reply)

namespace Activity

variable {α β : Type} {activity : Activity α} {events : List Exchange}

/-- How an activity goes on from one thing that it is told. -/
inductive Told : Activity α -> Exchange -> Activity α -> Prop
  | acted {action : Action} {resume : action.Answer -> Activity α}
      (now : Timestamp) (answer : action.Answer) :
      Told (.act action resume) (.acted now action answer) (resume answer)
  | replied {model : LanguageModel} {request : GenerationRequest}
      {resume : Except LanguageModelError Value -> Activity α}
      (reply : Except LanguageModelError Value) :
      Told (.generate model request resume)
        (.replied model request reply) (resume reply)

namespace Responds

/-- What an activity is told last is told to the activity that it
has come to. -/
theorem told
    {middle last : Activity α}
    {event : Exchange}
    (responds : activity.Responds events middle)
    (told : middle.Told event last) :
    activity.Responds (events ++ [event]) last := by
  cases told with
  | acted now answer => exact responds.acted now answer
  | replied reply => exact responds.replied reply

/-- What an activity is told first comes before all that it is told later. -/
theorem cons
    {next last : Activity α}
    {event : Exchange}
    (first : activity.Told event next)
    (responds : next.Responds events last) :
    activity.Responds (event :: events) last := by
  induction responds with
  | begin => exact begin.told first
  | acted _ now answer inductionHypothesis =>
      exact inductionHypothesis.acted now answer
  | replied _ reply inductionHypothesis =>
      exact inductionHypothesis.replied reply

/-- An activity that has been told anything was told something first. -/
theorem uncons {last : Activity α} (responds : activity.Responds events last) :
    events = [] ∧ last = activity ∨
      ∃ event later next,
        events = event :: later ∧ activity.Told event next ∧
        next.Responds later last := by
  have further {earlier : List Exchange} {middle last : Activity α}
      {event : Exchange}
      (sofar : earlier = [] ∧ middle = activity ∨
        ∃ event later next,
          earlier = event :: later ∧ activity.Told event next ∧
          next.Responds later middle)
      (told : middle.Told event last) :
      ∃ first later next,
        earlier ++ [event] = first :: later ∧ activity.Told first next ∧
          next.Responds later last := by
    obtain ⟨rfl, rfl⟩ | ⟨first, later, next, rfl, begun, responds⟩ := sofar
    · exact ⟨event, [], last, rfl, told, .begin⟩
    · exact ⟨first, later ++ [event], next, rfl, begun, responds.told told⟩
  induction responds with
  | begin => exact .inl ⟨rfl, rfl⟩
  | acted _ now answer inductionHypothesis =>
      exact .inr (further inductionHypothesis (.acted now answer))
  | replied _ reply inductionHypothesis =>
      exact .inr (further inductionHypothesis (.replied reply))

/-- An activity that is over is told nothing more. -/
theorem of_done
    {result : α}
    {last : Activity α}
    (responds : (done result).Responds events last) :
    events = [] ∧ last = .done result := by
  obtain ended | ⟨_, _, _, _, told, _⟩ := responds.uncons
  · exact ended
  · cases told

/-- An activity that acts and comes to a result was told the answer first. -/
theorem of_act
    {action : Action}
    {resume : action.Answer -> Activity α}
    {result : α}
    (responds : (act action resume).Responds events (.done result)) :
    ∃ now answer later,
      events = .acted now action answer :: later ∧
        (resume answer).Responds later (.done result) := by
  obtain ⟨_, same⟩ | ⟨_, later, _, rfl, told, rest⟩ := responds.uncons
  · contradiction
  · cases told with
    | acted now answer => exact ⟨now, answer, later, rfl, rest⟩

/-- An activity that asks and comes to a result was told the reply first. -/
theorem of_generate
    {model : LanguageModel}
    {request : GenerationRequest}
    {resume : Except LanguageModelError Value -> Activity α}
    {result : α}
    (responds :
      (generate model request resume).Responds events (.done result)) :
    ∃ reply later,
      events = .replied model request reply :: later ∧
        (resume reply).Responds later (.done result) := by
  obtain ⟨_, same⟩ | ⟨_, later, _, rfl, told, rest⟩ := responds.uncons
  · contradiction
  · cases told with
    | replied reply => exact ⟨reply, later, rfl, rest⟩

/-- What two activities are told one after the other is what the first is told
and then what the second is. -/
theorem of_bind
    {next : α -> Activity β}
    {result : β}
    (responds : (activity.bind next).Responds events (.done result)) :
    ∃ earlier middle later,
      events = earlier ++ later ∧ activity.Responds earlier (.done middle) ∧
        (next middle).Responds later (.done result) := by
  induction activity generalizing events with
  | done middle => exact ⟨[], middle, events, rfl, .begin, responds⟩
  | act action resume inductionHypothesis =>
      obtain ⟨now, answer, events, rfl, rest⟩ := of_act responds
      obtain ⟨earlier, middle, later, rfl, first, second⟩ :=
        inductionHypothesis answer rest
      exact ⟨_ :: earlier, middle, later, rfl,
        first.cons (.acted now answer), second⟩
  | lock store key resume =>
      obtain ⟨_, same⟩ | ⟨_, _, _, _, told, _⟩ := responds.uncons
      · contradiction
      · cases told
  | generate model request resume inductionHypothesis =>
      obtain ⟨reply, events, rfl, rest⟩ := of_generate responds
      obtain ⟨earlier, middle, later, rfl, first, second⟩ :=
        inductionHypothesis reply rest
      exact ⟨_ :: earlier, middle, later, rfl,
        first.cons (.replied reply), second⟩

end Responds

end Activity

namespace Optimizer

/-- Whether a stored pass leaves the stored variable alone: it was refused, or
it found nothing to score on a variable that was idle already. -/
def Leaves (before : Variable)
    (outcome : Except OptimizationError OptimizeReport) : Prop :=
  (∃ reason, outcome = .error reason ∧ reason.isPartial = false) ∨
    ∃ report, outcome = .ok report ∧ report.isNoop = true ∧ before.phase = .idle

/-- A pass commits nothing exactly if it leaves the variable alone. -/
theorem commits_eq_false_iff
    {before : Variable}
    {reward : Double}
    {ended : Except OptimizationError OptimizeReport × Variable}
    (sound : before.Sound)
    (passed : PassResult before reward ended) :
    commits before ended.2 ended.1 = false ↔ Leaves before ended.1 := by
  cases passed with
  | refused reason whole => simp [commits, whole, Leaves]
  | idled =>
      have returned :
          ({ before with phase := .idle } : Variable).same before = true ↔
          before.phase = .idle := by
        constructor
        · intro same
          exact (Variable.phase_eq_of_same same).symm
        · intro idle
          have same : ({ before with phase := .idle } : Variable) = before := by
            rw [← idle]
          rw [same]
          exact Variable.same_self sound
      simp [commits, Leaves, OptimizeReport.isNoop, returned]
  | asked outcome unscored =>
      cases outcome with
      | error reason => simp [conclude, commits, Leaves]
      | ok lines =>
          simp [conclude, commits, Leaves, OptimizeReport.isNoop, unscored]

/-- How a stored pass ends: it lets go of the lock. -/
def release {β : Type} (store : StoreId) (key : String) (result : β) :
    Activity β :=
  .act (.unlock store key) fun _ => .done result

/-- How a stored pass goes on once the variable is optimized. -/
def settle
    (store : StoreId)
    (key : String)
    (before : Variable)
    (ended : Except OptimizationError OptimizeReport × Variable) :
    Activity (Except OptimizationError OptimizeReport) :=
  if commits before ended.2 ended.1 then
    .act (.commit store ended.2) fun _ => release store key ended.1
  else release store key ended.1

/-- How a stored pass goes on once it has read its variable. -/
def afterRead (optimizer : Optimizer) (store : StoreId) (key : String)
    (reward : Double) :
    Option Variable -> Activity (Except OptimizationError OptimizeReport)
  | none => release store key (.error (.store (.notFound key)))
  | some entry =>
      (optimizer.optimize entry reward).bind (settle store key entry)

/-- How a stored pass goes on once its request for the lock is answered. -/
def underLock (optimizer : Optimizer) (store : StoreId) (key : String)
    (reward : Double) :
    Except StoreError Unit -> Activity (Except OptimizationError OptimizeReport)
  | .error reason => .done (.error (.store reason))
  | .ok _ => .act (.read store key) (optimizer.afterRead store key reward)

/-- A stored pass requests the lock of its key first. -/
theorem optimizeStored_eq
    (optimizer : Optimizer)
    (store : StoreId)
    (key : String)
    (reward : Double) :
    optimizer.optimizeStored store key reward =
      .lock store key (optimizer.underLock store key reward) := by
  unfold optimizeStored Activity.withLock
  congr 1
  funext granted
  cases granted with
  | error reason => rfl
  | ok _ =>
      change Activity.act (.read store key) _ = Activity.act (.read store key) _
      congr 1
      funext found
      cases found with
      | none => rfl
      | some entry =>
          change ((optimizer.optimize entry reward).bind _).bind _ = _
          rw [Activity.bind_assoc, afterRead]
          congr 1
          funext ended
          obtain ⟨outcome, after⟩ := ended
          by_cases committed : commits entry after outcome = true
          · simp only [settle, committed, if_true]
            rfl
          · simp only [settle, committed]
            rfl

/-- The optimizer's own result on a variable, with what this very
course told it. -/
def OwnResult
    (optimizer : Optimizer)
    (before : Variable)
    (reward : Double)
    (events : List Exchange)
    (outcome : Except OptimizationError OptimizeReport)
    (after : Variable) : Prop :=
  ∃ earlier inner later, events = earlier ++ inner ++ later ∧
    (optimizer.optimize before reward).Responds inner (.done (outcome, after))

/-- What a stored pass with some outcome leaves under its key. -/
structure Settled
    (optimizer : Optimizer)
    (store : StoreId)
    (before : Variable)
    (reward : Double)
    (events : List Exchange)
    (outcome : Except OptimizationError OptimizeReport)
    (after : Variable)
    (stored : Option Variable) : Prop where
  own : OwnResult optimizer before reward events outcome after
  passed : PassResult before reward (outcome, after)
  left : commits before after outcome = false -> stored = some before
  committed : commits before after outcome = true ->
    ∃ now, .acted now (.commit store after) () ∈ events ∧
      stored =
        some { after with version := before.version + 1, updatedAt := now }

/-- What a pass has settled stays so whatever else it is told. -/
theorem Settled.more
    {optimizer : Optimizer}
    {store : StoreId}
    {before after : Variable}
    {reward : Double}
    {events : List Exchange}
    {outcome : Except OptimizationError OptimizeReport}
    {stored : Option Variable}
    (settled :
      Settled optimizer store before reward events outcome after stored)
    (more : List Exchange) :
    Settled optimizer store before reward (events ++ more) outcome
      after stored where
  own := by
    obtain ⟨earlier, inner, later, split, responds⟩ := settled.own
    exact ⟨earlier, inner, later ++ more, by simp [split], responds⟩
  passed := settled.passed
  left := settled.left
  committed commit := by
    obtain ⟨now, acted, stored⟩ := settled.committed commit
    exact ⟨now, List.mem_append_left _ acted, stored⟩

section Stages

variable
  (host : ModelHost σ)
  (owner : Owner)
  (optimizer : Optimizer)
  (store : StoreId)
  (key : String)
  (reward : Double)
  (before : Variable)

/-- The stages of a stored pass. -/
inductive Stage :
    List Exchange -> Progress (Except OptimizationError OptimizeReport) ->
    World σ -> Prop
  | locking {events : List Exchange} {world : World σ}
      (stored : (world.stores store).find? key = some before) :
      Stage events
        (.active (.lock store key (optimizer.underLock store key reward))) world
  | waiting {events : List Exchange} {world : World σ}
      (stored : (world.stores store).find? key = some before) :
      Stage events (.waiting store key (optimizer.underLock store key reward))
        world
  | reading {events : List Exchange} {world : World σ}
      (stored : (world.stores store).find? key = some before) :
      Stage events
        (.active
          (.act (.read store key) (optimizer.afterRead store key reward))) world
  | passing {earlier inner : List Exchange} {world : World σ}
      {rest other :
        Activity (Except OptimizationError OptimizeReport × Variable)}
      (stored : (world.stores store).find? key = some before)
      (responds : (optimizer.optimize before reward).Responds inner rest)
      (looks : Activity.Alike (· = optimizer)
        (SamePass before before reward) rest other) :
      Stage (earlier ++ inner) (.active (rest.bind (settle store key before)))
        world
  | releasing {events : List Exchange} {world : World σ}
      {outcome : Except OptimizationError OptimizeReport} {after : Variable}
      (settled : Settled optimizer store before reward events outcome after
        ((world.stores store).find? key)) :
      Stage events (.active (release store key outcome)) world
  | finished {events : List Exchange} {world : World σ}
      {outcome : Except OptimizationError OptimizeReport} {after : Variable}
      (settled : Settled optimizer store before reward events outcome after
        ((world.stores store).find? key)) :
      Stage events (.active (.done outcome)) world

variable {host owner optimizer store key reward before}
variable
  {events : List Exchange}
  {progress : Progress (Except OptimizationError OptimizeReport)}
  {world : World σ}

/-- A stored pass stays at its stage while others leave its key alone. -/
theorem Stage.aside
    (stage : Stage optimizer store key reward before events progress world)
    {after : World σ}
    (untouched :
      (after.stores store).find? key = (world.stores store).find? key) :
    Stage optimizer store key reward before events progress after := by
  cases stage with
  | locking stored => exact .locking (untouched.trans stored)
  | waiting stored => exact .waiting (untouched.trans stored)
  | reading stored => exact .reading (untouched.trans stored)
  | passing stored responds looks =>
      exact .passing (untouched.trans stored) responds looks
  | releasing settled => exact .releasing (untouched ▸ settled)
  | finished settled => exact .finished (untouched ▸ settled)

/-- Before the lock is there, a stage depends on the variable only
as it is now. -/
theorem Stage.waits
    (stage : Stage optimizer store key reward before events progress world)
    (awaits : progress.AwaitsLock)
    {now : Variable}
    {after : World σ}
    (stored : (after.stores store).find? key = some now) :
    Stage optimizer store key reward now events progress after := by
  cases stage with
  | locking => exact .locking stored
  | waiting => exact .waiting stored
  | reading => exact awaits.elim
  | passing _ _ looks =>
      cases looks with
      | done =>
          rw [Activity.bind_done] at awaits
          unfold settle at awaits
          split at awaits <;> exact awaits.elim
      | read => exact awaits.elim
      | program => exact awaits.elim
      | generate => exact awaits.elim
  | releasing => exact awaits.elim
  | finished => exact awaits.elim

/-- The lock is refused to nobody whose key is stored. -/
theorem step_lock
    (host : ModelHost σ)
    (owner : Owner)
    (stored : (world.stores store).find? key = some before)
    (resume : Except StoreError Unit ->
      Activity (Except OptimizationError OptimizeReport)) :
    ∃ after, World.SameEntries world after ∧
      ((Progress.active (.lock store key resume)).step host owner world =
          (.active (resume (.ok ())), after) ∨
        (Progress.active (.lock store key resume)).step host owner world =
          (.waiting store key resume, after)) := by
  have present := Store.contains_of_find? stored
  obtain ⟨after, requested⟩ := Store.requested_of_present present owner
  refine ⟨world.setStore store after,
    World.sameEntries_setStore requested.entries_eq, ?_⟩
  cases requested with
  | granted request => exact .inl (by simp only [Progress.step, request])
  | queued _ request => exact .inr (by simp only [Progress.step, request])

/-- A commit of the optimized variable replaces the stored one and
nothing else. -/
theorem commit_stored
    (owner : Owner)
    {after : Variable}
    (stored : (world.stores store).find? key = some before)
    (keeps : after.key = before.key) :
    World.Spares store key world (world.perform owner (.commit store after)).2 ∧
      ((world.perform owner (.commit store after)).2.stores store).find? key =
        some { after with
          version := before.version + 1, updatedAt := world.now } := by
  have named : after.key = key := keeps.trans (Store.key_of_find? stored)
  subst named
  let updated : Variable :=
    { after with version := before.version + 1, updatedAt := world.now }
  have present : (world.stores store).contains updated.key = true :=
    Store.contains_of_find? stored
  have written : (world.perform owner (.commit store after)).2 =
      world.setStore store
        (((world.stores store).put updated).counting before) := by
    rw [← Store.commit_eq_put stored]
    rfl
  rw [written]
  refine ⟨⟨?_, ?_⟩, ?_⟩
  · intro id
    by_cases same : id = store
    · subst same
      rw [World.stores_setStore_self]
      exact Store.keys_put present
    · rw [World.stores_setStore_of_ne world same]
  · intro id other elsewhere
    by_cases same : id = store
    · subst same
      have different : other ≠ after.key :=
        elsewhere.resolve_left fun distinct => distinct rfl
      rw [World.stores_setStore_self]
      exact Store.find?_put_of_ne present different
    · rw [World.stores_setStore_of_ne world same]
  · rw [World.stores_setStore_self]
    exact Store.find?_put_self present

/-- Once its variable is optimized, a pass commits it or goes on to let go
of the lock. -/
theorem step_settle
    (host : ModelHost σ)
    (owner : Owner)
    {earlier inner : List Exchange}
    {ended : Except OptimizationError OptimizeReport × Variable}
    (stored : (world.stores store).find? key = some before)
    (responds : (optimizer.optimize before reward).Responds inner (.done ended))
    (passed : PassResult before reward ended) :
    let progress : Progress (Except OptimizationError OptimizeReport) :=
      .active (settle store key before ended)
    Stage optimizer store key reward before
        (earlier ++ inner ++ progress.exchanged host owner world)
        (progress.step host owner world).1 (progress.step host owner world).2 ∧
      World.Spares store key world (progress.step host owner world).2 := by
  intro progress
  obtain ⟨outcome, after⟩ := ended
  by_cases committed : commits before after outcome = true
  · have next : progress = .active (.act (.commit store after) fun _ =>
        release store key outcome) := by
      simp only [progress, settle, committed, if_true]
    obtain ⟨spares, written⟩ := commit_stored owner stored passed.key_eq
    rw [next]
    refine ⟨.releasing ⟨⟨earlier, inner, _, rfl, responds⟩, passed, ?_, ?_⟩,
      spares⟩
    · intro left
      rw [committed] at left
      contradiction
    · intro _
      exact ⟨world.now, List.mem_append_right _ List.mem_cons_self, written⟩
  · have next : progress = .active (release store key outcome) := by
      simp only [progress, settle, committed]
      rfl
    have same := world.sameEntries_unlock owner store key
    rw [next]
    refine ⟨.finished ⟨⟨earlier, inner, _, rfl, responds⟩, passed, ?_, ?_⟩,
      same.spares store key⟩
    · intro _
      exact (same.find?_eq store key).trans stored
    · intro commit
      exact absurd commit committed

/-- Every step of a stored pass leads to a stage of it and spares
everything else. -/
theorem Stage.step
    (host : ModelHost σ)
    (owner : Owner)
    (stage : Stage optimizer store key reward before events progress world) :
    Stage optimizer store key reward before
        (events ++ progress.exchanged host owner world)
        (progress.step host owner world).1 (progress.step host owner world).2 ∧
      World.Spares store key world (progress.step host owner world).2 := by
  cases stage with
  | locking stored =>
      obtain ⟨after, same, stepped | stepped⟩ := step_lock host owner stored
        (optimizer.underLock store key reward)
      all_goals rw [stepped]
      · exact ⟨.reading ((same.find?_eq store key).trans stored),
          same.spares store key⟩
      · exact ⟨.waiting ((same.find?_eq store key).trans stored),
          same.spares store key⟩
  | waiting stored =>
      have same : World.SameEntries world world := fun _ => rfl
      by_cases holds : (world.stores store).isHolder owner key = true
      · simp only [Progress.step, holds, if_true]
        exact ⟨.reading stored, same.spares store key⟩
      · simp only [Progress.step, holds]
        exact ⟨.waiting stored, same.spares store key⟩
  | reading stored =>
      have same : World.SameEntries world world := fun _ => rfl
      refine ⟨?_, same.spares store key⟩
      have answered : (world.perform owner (.read store key)).1 = some before :=
        stored
      have began : Stage optimizer store key reward before
          (events ++ [.acted world.now (.read store key) (some before)] ++ [])
          (.active
            ((optimizer.optimize before reward).bind (settle store key before)))
          world :=
        .passing stored .begin (alike_optimize optimizer rfl reward)
      rw [List.append_nil] at began
      simp only [Progress.step, Progress.exchanged, answered, afterRead]
      exact began
  | passing stored responds looks =>
      cases looks with
      | done results =>
          exact step_settle host owner stored responds results.resultFirst
      | read resumed =>
          have same : World.SameEntries world world := fun _ => rfl
          refine ⟨?_, same.spares store key⟩
          rw [List.append_assoc]
          exact .passing stored (responds.acted world.now _) (resumed _ none)
      | program used resumed =>
          have same := world.sameEntries_useProgram optimizer
          rw [← used] at same
          refine ⟨?_, same.spares store key⟩
          rw [List.append_assoc]
          exact .passing ((same.find?_eq store key).trans stored)
            (responds.acted world.now _)
            (resumed _)
      | generate resumed =>
          have same := World.sameEntries_ask host world
          refine ⟨?_, (same _ _).spares store key⟩
          rw [List.append_assoc]
          exact .passing (((same _ _).find?_eq store key).trans stored)
            (responds.replied _)
            (resumed _)
  | releasing settled =>
      have same := world.sameEntries_unlock owner store key
      refine ⟨?_, same.spares store key⟩
      have kept := settled.more [.acted world.now (.unlock store key) ()]
      rw [← same.find?_eq store key] at kept
      exact .finished kept
  | finished settled =>
      have same : World.SameEntries world world := fun _ => rfl
      refine ⟨?_, same.spares store key⟩
      simpa only [Progress.step, Progress.exchanged, List.append_nil] using
        Stage.finished settled

end Stages

/-- A stored pass is at one of its stages throughout. -/
theorem stage_of_course
    {host : ModelHost σ}
    {owner : Owner}
    {optimizer : Optimizer}
    {store : StoreId}
    {key : String}
    {reward : Double}
    {before : Variable}
    {events : List Exchange}
    {progress : Progress (Except OptimizationError OptimizeReport)}
    {world : World σ}
    (course : Course host owner store key
      (optimizer.optimizeStored store key reward) before events
      progress world) :
    Stage optimizer store key reward before events progress world := by
  induction course with
  | begin stored =>
      rw [optimizeStored_eq]
      exact .locking stored
  | step _ inductionHypothesis => exact (inductionHypothesis.step host owner).1
  | waiting _ awaits stored inductionHypothesis =>
      exact inductionHypothesis.waits awaits stored
  | aside _ untouched inductionHypothesis =>
      exact inductionHypothesis.aside untouched

/-- However many steps a stored pass takes, it comes to a stage again and spares
all but the variable under its key. -/
theorem Stage.steps
    {optimizer : Optimizer}
    {store : StoreId}
    {key : String}
    {reward : Double}
    {before : Variable}
    {events : List Exchange}
    {progress : Progress (Except OptimizationError OptimizeReport)}
    {world : World σ}
    (host : ModelHost σ)
    (owner : Owner)
    (stage : Stage optimizer store key reward before events progress world)
    (count : Nat) :
    (∃ later, Stage optimizer store key reward before later
        (Progress.steps host owner count progress world).1
        (Progress.steps host owner count progress world).2) ∧
      World.Spares store key world
        (Progress.steps host owner count progress world).2 := by
  induction count generalizing events progress world with
  | zero => exact ⟨⟨events, stage⟩, .refl store key world⟩
  | succ count inductionHypothesis =>
      obtain ⟨next, spared⟩ := stage.step host owner
      obtain ⟨later, others⟩ := inductionHypothesis next
      exact ⟨later, spared.trans others⟩

/-- Whatever a stored pass still awaits, its key is as others left it. -/
theorem Stage.unchanged
    {optimizer : Optimizer}
    {store : StoreId}
    {key : String}
    {reward : Double}
    {before : Variable}
    {events : List Exchange}
    {progress : Progress (Except OptimizationError OptimizeReport)}
    {world : World σ}
    (stage : Stage optimizer store key reward before events progress world)
    (awaits : progress.Awaits) :
    (world.stores store).find? key = some before := by
  cases stage with
  | locking stored => exact stored
  | waiting stored => exact stored
  | reading stored => exact stored
  | passing stored => exact stored
  | releasing => exact awaits.elim
  | finished => exact awaits.elim

/-- A pass that is over has settled. -/
theorem Stage.settled
    {optimizer : Optimizer}
    {store : StoreId}
    {key : String}
    {reward : Double}
    {before : Variable}
    {events : List Exchange}
    {outcome : Except OptimizationError OptimizeReport}
    {world : World σ}
    (stage : Stage optimizer store key reward before events
      (.active (.done outcome)) world) :
    ∃ after, Settled optimizer store before reward events outcome after
      ((world.stores store).find? key) := by
  generalize ends : Progress.active (Activity.done outcome) = progress at stage
  cases stage with
  | finished settled =>
      obtain rfl := Activity.done.inj (Progress.active.inj ends)
      exact ⟨_, settled⟩
  | passing _ _ looks =>
      have other := Progress.active.inj ends
      cases looks with
      | done =>
          rw [Activity.bind_done] at other
          unfold settle at other
          split at other <;> contradiction
      | read => contradiction
      | program => contradiction
      | generate => contradiction
  | locking => exact nomatch Progress.active.inj ends
  | waiting => contradiction
  | reading => exact nomatch Progress.active.inj ends
  | releasing =>
      unfold release at ends
      exact nomatch Progress.active.inj ends

/-- A pass over a stored variable spares every other entry and the key order.
Dropped before its commit it leaves the variable as it was, and so does a
refusal or a pass that finds an idle variable with nothing to score; in every
other case the optimizer's own result is stored, its version counted once more
and its date new. -/
theorem optimizeStored_commits_or_leaves
    (host : ModelHost σ)
    (owner : Owner)
    (optimizer : Optimizer)
    (store : StoreId)
    (key : String)
    (reward : Double)
    {before : Variable}
    {events : List Exchange}
    {progress : Progress (Except OptimizationError OptimizeReport)}
    {world : World σ}
    (course : Course host owner store key
      (optimizer.optimizeStored store key reward) before events
      progress world)
    (sound : before.Sound) :
    World.Spares store key world (progress.step host owner world).2 ∧
      World.Spares store key world (world.abandon owner) ∧
      (progress.Awaits ->
        ((world.abandon owner).stores store).find? key = some before) ∧
      ∀ outcome, progress = .active (.done outcome) ->
        ∃ after, OwnResult optimizer before reward events outcome after ∧
          (Leaves before outcome ->
            (world.stores store).find? key = some before) ∧
          (¬Leaves before outcome ->
            ∃ now, .acted now (.commit store after) () ∈ events ∧
              (world.stores store).find? key =
                some { after with
                  version := before.version + 1, updatedAt := now }) := by
  have stage := stage_of_course course
  have dropped := world.sameEntries_abandon owner
  refine ⟨(stage.step host owner).2, dropped.spares store key, ?_, ?_⟩
  · intro awaits
    rw [dropped.find?_eq store key]
    exact stage.unchanged awaits
  · rintro outcome rfl
    obtain ⟨after, settled⟩ := stage.settled
    have decided := commits_eq_false_iff sound settled.passed
    refine ⟨after, settled.own, fun leaves => settled.left (decided.mpr leaves),
      ?_⟩
    intro changes
    cases commit : commits before after outcome with
    | false => exact absurd (decided.mp commit) changes
    | true => exact settled.committed commit

/-- A pass that scores one of two predictions and is answered with new
instructions commits all of it at once. Dropped while it waits for the answer it
would have left the variable as it was, and the other variable of the store is
spared throughout. -/
theorem optimizeStored_commits_or_leaves_of_reply :
    let optimizer := standard 0 (some (.scripted "writer"))
    let answer : Value :=
      ⟨answerSchema, [("instructions", .ofStrings ["be brief"])]⟩
    let host : ModelHost Unit :=
      ⟨fun _ _ => 5, fun _ _ state => (.ok answer, state)⟩
    let half : Double := .ofDecimal false 5 (-1)
    let asked (text : String) : Prediction :=
      .unscored [("question", .string text)] []
    let entry : Variable :=
      { Variable.create "qa" default with
        phase := .idle
        predictions := [(asked "why?").withReward half, asked "how?"]
        instructions := some (.ofLines ["be helpful"]) }
    let other : Variable :=
      { Variable.create "tone" default with version := 7 }
    let world : World Unit :=
      ⟨fun _ => ⟨2, [other, entry], [], false, by decide⟩, fun _ => none, (),
        ⟨[], []⟩, 0, default⟩
    let pass := optimizer.optimizeStored 0 "qa" half
    entry.Sound ∧
      (∃ events waiting during,
        Course host 1 0 "qa" pass entry events waiting during ∧
          waiting.Awaits ∧
          ((during.abandon 1).stores 0).find? "qa" = some entry) ∧
      ∃ events final after now,
        Course host 1 0 "qa" pass entry events
            (.active (.done (.ok ⟨1, true⟩))) final ∧
          OwnResult optimizer entry half events (.ok ⟨1, true⟩) after ∧
          .acted now (.commit 0 after) () ∈ events ∧
          (final.stores 0).find? "qa" =
            some { after with version := 1, updatedAt := now } ∧
          World.Spares 0 "qa" world final ∧
          (final.stores 0).find? "tone" = some other := by
  intro optimizer answer host half asked entry other world pass
  have began : Course host 1 0 "qa" pass entry [] (.active pass) world :=
    .begin rfl
  have valid : isValidReward half = true := by decide +kernel
  have sound : entry.Sound := by
    have nothing : (Json.object []).Distinct := by
      simp [Json.Distinct, Json.DistinctMembers, Members.Distinct, Members.keys]
    have question (text : String) :
        (Json.object [("question", .string text)]).Distinct := by
      simp [Json.Distinct, Json.DistinctMembers, Members.Distinct, Members.keys]
    have rewarded : SoundReward (some half) :=
      fun _ same => Option.some.inj same ▸ valid
    have unscored : SoundReward none := by
      rintro _ ⟨⟩
    refine ⟨List.forall_mem_cons.mpr ⟨⟨question _, nothing, rewarded⟩, ?_⟩,
      fun _ same => Option.some.inj same ▸ unscored, List.forall_mem_nil _⟩
    exact List.forall_mem_singleton.mpr ⟨question _, nothing, unscored⟩
  -- Three steps lead to the question: the lock, the variable and the program.
  have awaits :
      decide (Progress.steps host 1 3 (.active pass) world).1.Awaits =
        true := by
    decide +kernel
  -- Three more take the answer, the commit and the lock again.
  have ends : (Progress.steps host 1 6 (.active pass) world).1 =
      .active (.done (.ok ⟨1, true⟩)) :=
    Progress.eq_done_of_outcome? (by decide +kernel)
  have spared := ((stage_of_course began).steps host 1 6).2
  obtain ⟨earlier, halfway⟩ := began.steps 3
  obtain ⟨events, course⟩ := began.steps 6
  rw [ends] at course
  obtain ⟨_, _, dropped, _⟩ :=
    optimizeStored_commits_or_leaves host 1 optimizer 0 "qa" half halfway sound
  obtain ⟨_, _, _, settled⟩ :=
    optimizeStored_commits_or_leaves host 1 optimizer 0 "qa" half course sound
  obtain ⟨after, own, _, committed⟩ := settled _ rfl
  have changes : ¬Leaves entry (.ok ⟨1, true⟩) := by
    simp [Leaves, OptimizeReport.isNoop]
  clear_value half
  obtain ⟨now, commit, stored⟩ := committed changes
  have undisturbed := dropped (of_decide_eq_true awaits)
  have untouched := spared.others 0 "tone" (.inr (by decide))
  exact ⟨sound, ⟨earlier, _, _, halfway, of_decide_eq_true awaits, undisturbed⟩,
    events, _, after, now, course, own, commit, stored, spared, untouched⟩

end Optimizer
end PromptTuning
