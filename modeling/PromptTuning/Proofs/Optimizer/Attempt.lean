import PromptTuning.Proofs.Concurrency.Progress
import PromptTuning.Proofs.Concurrency.Touching
import PromptTuning.Proofs.Optimizer.Determined

/-!
# A pass at work beside others

A stored pass takes the lock of its key, reads the variable, asks and commits
what it came to. With known answers each of its steps is known, wherever others
have got to on their keys: the pass gets no more answers than it has questions,
and takes a bounded number of other steps.
-/

namespace PromptTuning

variable {σ β : Type}

/-- An activity that only tells observers, with the number of its events and
its result. -/
inductive Activity.Tells : Activity β -> Nat -> β -> Prop
  | done {outcome : β} : Tells (.done outcome) 0 outcome
  | notify {event : Event} {resume : Unit -> Activity β} {count : Nat}
      {outcome : β} (told : Tells (resume ()) count outcome) :
      Tells (.act (.notify event) resume) (count + 1) outcome

/-- An activity that only tells observers has its outcome at once. -/
theorem Activity.Tells.advance
    {telling : Activity β}
    {count : Nat}
    {outcome : β}
    (tells : telling.Tells count outcome)
    (host : ModelHost σ)
    (owner : Owner)
    (world : World σ) :
    ∃ after, telling.advance host owner world = (.finished outcome, after) := by
  induction tells generalizing world with
  | done => exact ⟨world, rfl⟩
  | notify _ inductionHypothesis => exact inductionHypothesis _

/-- The passes of one optimizer over the variables of a store at one reward: its
program, what the language models answer, and how long they take at most. -/
structure Batch (σ : Type) where
  host : ModelHost σ
  store : StoreId
  optimizer : Optimizer
  program : Except BuildError Module
  reward : Double
  answers : Answers
  pace : Nat
  answered :
    ∀ model request state,
      (host.handle model request state).1 = answers model request
  paced : ∀ model request state, host.wait state model request ≤ pace

namespace Batch

/-- The optimizer finds the program of the batch, which may still have
to be built. -/
def Ready (batch : Batch σ) (world : World σ) : Prop :=
  (world.useProgram batch.optimizer).1 = batch.program

/-- What a stored pass leaves of a variable, apart from the date. -/
def left (entry : Variable)
    (ended : Except OptimizationError OptimizeReport × Variable) :
    Variable :=
  if Optimizer.commits entry ended.2 ended.1 then
    { ended.2 with version := entry.version + 1 }
  else entry

/-- A pass over a variable, with what it comes to. -/
structure Plan (batch : Batch σ) where
  entry : Variable
  /-- The number of questions. -/
  count : Nat
  ended : Except OptimizationError OptimizeReport × Variable
  determined :
    batch.optimizer.Determined batch.program batch.answers batch.reward
      entry count ended
  passed : Optimizer.PassResult entry batch.reward ended
  fits : count ≤ Optimizer.questionsOf batch.program

/-- A pass on behalf of a task, which tells observers of it and then has
an outcome. -/
structure Job (batch : Batch σ) (β : Type) extends Plan batch where
  owner : Owner
  next : Except OptimizationError OptimizeReport -> Activity β
  answer : Except OptimizationError OptimizeReport -> β
  tells : ∀ result, ∃ steps ≤ 1, (next result).Tells steps (answer result)

namespace Plan

variable {batch : Batch σ}

/-- The variable is stored as it was, and the lock of its key is free. -/
structure Waits (plan : batch.Plan) (world : World σ) : Prop where
  found : (world.stores batch.store).find? plan.entry.key = some plan.entry
  free : (world.stores batch.store).IsFree plan.entry.key

/-- The variable is what the pass leaves of it. -/
def Leaves (plan : batch.Plan) (world : World σ) : Prop :=
  ∃ final, (world.stores batch.store).find? plan.entry.key = some final ∧
    final.undated = (left plan.entry plan.ended).undated

/-- A pass leaves what it leaves as long as the same is found under its key. -/
theorem Leaves.of_find?_eq
    {plan : batch.Plan}
    {before after : World σ}
    (leaves : plan.Leaves before)
    (found : (after.stores batch.store).find? plan.entry.key =
      (before.stores batch.store).find? plan.entry.key) :
    plan.Leaves after := by
  rw [Leaves, found]
  exact leaves

end Plan

/-- All passes over a store are still to come. -/
structure AllWait (batch : Batch σ) (plans : List batch.Plan)
    (world : World σ) : Prop where
  ready : batch.Ready world
  keys : (world.stores batch.store).keys = plans.map (·.entry.key)
  waits : ∀ plan ∈ plans, plan.Waits world

/-- All passes over a store have left what they leave. -/
structure Settled (batch : Batch σ) (plans : List batch.Plan)
    (world : World σ) : Prop where
  ready : batch.Ready world
  keys : (world.stores batch.store).keys = plans.map (·.entry.key)
  free : ∀ plan ∈ plans, (world.stores batch.store).IsFree plan.entry.key
  leaves : ∀ plan ∈ plans, plan.Leaves world

namespace Job

variable {batch : Batch σ}

/-- What the task comes to. -/
def outcome (job : batch.Job β) : β := job.answer job.ended.1

/-- The whole of what the task does. -/
def body (job : batch.Job β) : Activity β :=
  (batch.optimizer.optimizeStored batch.store job.entry.key batch.reward).bind
    job.next

/-- Two passes work on different keys on behalf of different tasks. -/
def Apart (first second : batch.Job β) : Prop :=
  first.entry.key ≠ second.entry.key ∧ first.owner ≠ second.owner

/-- The variable is stored as it was, and the task holds the lock of its key. -/
structure Holds (job : batch.Job β) (world : World σ) : Prop where
  found : (world.stores batch.store).find? job.entry.key = some job.entry
  held : (world.stores batch.store).HeldBy job.entry.key job.owner

/-- Where a pass stands, with the answers that it still gets and its other
steps at most. -/
inductive Stands (job : batch.Job β) (world : World σ) :
    Nat -> Nat -> Activity β -> Prop
  | begun (waits : job.Waits world) : Stands job world job.count 6 job.body
  | reading (holds : job.Holds world) :
      Stands job world job.count 5
        (.act (.read batch.store job.entry.key) fun found =>
          (batch.optimizer.afterRead batch.store job.entry.key
            batch.reward found).bind job.next)
  | optimizing (holds : job.Holds world) :
      Stands job world job.count 4
        (((batch.optimizer.optimize job.entry batch.reward).bind
          (Optimizer.settle batch.store job.entry.key job.entry)).bind job.next)
  | asking {count : Nat}
      {rest : Activity (Except OptimizationError OptimizeReport × Variable)}
      (holds : job.Holds world)
      (resolves : rest.Resolves batch.answers count job.ended) :
      Stands job world count 3
        ((rest.bind (Optimizer.settle batch.store job.entry.key job.entry)).bind
          job.next)
  | releasing
      (held : (world.stores batch.store).HeldBy job.entry.key job.owner)
      (leaves : job.Leaves world) :
      Stands job world 0 2
        ((Optimizer.release batch.store job.entry.key job.ended.1).bind
          job.next)
  | ended {steps : Nat} {rest : Activity β}
      (free : (world.stores batch.store).IsFree job.entry.key)
      (leaves : job.Leaves world)
      (tells : rest.Tells steps job.outcome) :
      Stands job world 0 steps rest

/-- What a step of a pass may change for others. -/
structure Beside (job : batch.Job β) (before after : World σ) : Prop where
  store : (before.stores batch.store).Touches [(job.entry.key, job.owner)]
    (after.stores batch.store)
  ready : batch.Ready before -> batch.Ready after
  clock : after.clock = before.clock

end Job

/-- Whether a world is ready for passes depends on its programs alone. -/
theorem Ready.of_programs_eq
    {batch : Batch σ}
    {before after : World σ}
    (ready : batch.Ready before)
    (same : after.programs = before.programs) :
    batch.Ready after := by
  unfold Ready World.useProgram at *
  rw [same]
  cases present : before.programs batch.optimizer.id with
  | some program => simpa [present] using ready
  | none =>
      rw [present] at ready
      cases built : batch.optimizer.buildProgram <;> simpa [built] using ready

/-- A world stays ready for passes when one looks for its program. -/
theorem Ready.useProgram {batch : Batch σ} {world : World σ}
    (ready : batch.Ready world) :
    batch.Ready (world.useProgram batch.optimizer).2 := by
  unfold Ready World.useProgram at *
  cases present : world.programs batch.optimizer.id with
  | some program =>
      rw [present] at ready
      simpa [present] using ready
  | none =>
      rw [present] at ready
      cases built : batch.optimizer.buildProgram with
      | error cause =>
          rw [built] at ready
          simpa [present, built] using ready
      | ok program =>
          rw [built] at ready
          simpa [World.setProgram] using ready

namespace Job

variable {batch : Batch σ} {job : batch.Job β}
  {world before between after : World σ}

namespace Beside

/-- A job touches nothing while nothing changes. -/
theorem refl (job : batch.Job β) (world : World σ) : job.Beside world world :=
  ⟨.refl _ _, id, rfl⟩

/-- What a job does beside others goes on beside them. -/
theorem trans (first : job.Beside before between)
    (second : job.Beside between after) :
    job.Beside before after :=
  ⟨first.store.trans second.store,
    fun ready => second.ready (first.ready ready),
    second.clock.trans first.clock⟩

/-- A store in which a job touches its own key alone may replace the
one before. -/
theorem setStore {store : Store}
    (touches :
      (world.stores batch.store).Touches [(job.entry.key, job.owner)] store) :
    job.Beside world (world.setStore batch.store store) := by
  refine ⟨?_, fun ready => ready.of_programs_eq rfl, rfl⟩
  rw [World.stores_setStore_self]
  exact touches

/-- Where no store changes. -/
theorem of_stores_eq
    (stores : after.stores batch.store = before.stores batch.store)
    (ready : batch.Ready before -> batch.Ready after)
    (clock : after.clock = before.clock) :
    job.Beside before after := by
  refine ⟨?_, ready, clock⟩
  rw [stores]
  exact .refl _ _

end Beside

/-- Whether a job holds its lock depends on its store alone. -/
theorem Holds.of_stores_eq
    (holds : job.Holds before)
    (stores : after.stores batch.store = before.stores batch.store) :
    job.Holds after := by
  refine ⟨?_, ?_⟩ <;> rw [stores]
  · exact holds.found
  · exact holds.held

/-- A pass that lets go of its lock goes on to tell of its result. -/
theorem step_release
    (held : (world.stores batch.store).HeldBy job.entry.key job.owner)
    (leaves : job.Leaves world) :
    ∃ later rest after, later < 2 ∧
      (Progress.active
        ((Optimizer.release batch.store job.entry.key job.ended.1).bind
          job.next)).step batch.host job.owner world = (.active rest, after) ∧
      job.Beside world after ∧ job.Stands after 0 later rest := by
  obtain ⟨free, touched⟩ := held.releaseLock
  obtain ⟨steps, fits, tells⟩ := job.tells job.ended.1
  refine ⟨steps, _, _, by omega, rfl, .setStore touched, .ended ?_ ?_ tells⟩
  · rw [World.stores_unlock]
    exact free
  · refine leaves.of_find?_eq ?_
    rw [World.stores_unlock]
    rfl

/-- A pass that came to its result commits it or lets go of its lock. -/
theorem Holds.step_settle (holds : job.Holds world) :
    ∃ later rest after, later < 3 ∧
      (Progress.active
        ((Optimizer.settle batch.store job.entry.key job.entry job.ended).bind
          job.next)).step batch.host job.owner world = (.active rest, after) ∧
      job.Beside world after ∧ job.Stands after 0 later rest := by
  by_cases committed : Optimizer.commits job.entry job.ended.2 job.ended.1 =
    true
  · obtain ⟨found, held, touched⟩ :=
      holds.held.commit holds.found job.passed.key_eq world.now
    simp only [Optimizer.settle, committed, if_true]
    refine ⟨2, _, _, by omega, rfl, .setStore touched, .releasing ?_ ?_⟩
    · rw [World.stores_commit]
      exact held
    · rw [Plan.Leaves, World.stores_commit, left, if_pos committed]
      exact ⟨_, found, rfl⟩
  · have leaves : job.Leaves world := by
      refine ⟨job.entry, holds.found, ?_⟩
      rw [left, if_neg committed]
    obtain ⟨later, rest, after, fits, stepped, beside, stands⟩ :=
      step_release holds.held leaves
    simp only [Optimizer.settle, committed, Bool.false_eq_true, if_false]
    exact ⟨later, rest, after, by omega, stepped, beside, stands⟩

/-- One step of a pass that is not through: it gets an answer or has fewer steps
left, and leaves the work of others as it is. -/
theorem Stands.step
    {count steps : Nat}
    {rest : Activity β}
    (stands : job.Stands world count steps rest)
    (ready : batch.Ready world)
    (pending : steps ≠ 0) :
    ∃ fewer later next after, fewer ≤ count ∧ fewer + later < count + steps ∧
      (Progress.active rest).step batch.host job.owner world =
        (.active next, after) ∧
      job.Beside world after ∧ job.Stands after fewer later next := by
  cases stands with
  | begun waits =>
      obtain ⟨locked, granted, entries, held, touched⟩ := Store.heldBy_of_isFree
        (Store.contains_of_find? waits.found) waits.free job.owner
      refine ⟨job.count, 5, _, _, Nat.le_refl _, by omega, ?_,
        .setStore touched, .reading ⟨?_, ?_⟩⟩
      · simp only [body, Optimizer.optimizeStored_eq, Activity.bind,
          Progress.step, granted]
        rfl
      · rw [World.stores_setStore_self, Store.find?, entries]
        exact waits.found
      · rw [World.stores_setStore_self]
        exact held
  | reading holds =>
      have answer :
          (world.perform job.owner (.read batch.store job.entry.key)).1 =
            some job.entry := holds.found
      refine ⟨job.count, 4, _, _, Nat.le_refl _, by omega, ?_, .refl job world,
        .optimizing holds⟩
      simp only [Progress.step, answer]
      rfl
  | optimizing holds =>
      have determined := job.determined
      generalize job.count = count at determined ⊢
      cases determined with
      | refused early =>
          obtain ⟨later, next, after, fits, stepped, beside, stands⟩ :=
            holds.step_settle
          rw [early]
          exact ⟨0, later, next, after, Nat.le_refl 0, by omega,
            stepped, beside, stands⟩
      | admitted begun resolves =>
          have stores :=
            congrFun (world.stores_useProgram batch.optimizer) batch.store
          refine ⟨count, 3, ((batch.optimizer.proceed job.entry batch.reward
            batch.program).bind _).bind _, (world.useProgram batch.optimizer).2,
            Nat.le_refl _, by omega,
            ?_,
            .of_stores_eq stores (·.useProgram)
              (world.useProgram_clock batch.optimizer),
            .asking (holds.of_stores_eq stores) resolves⟩
          rw [begun, ← ready]
          rfl
  | asking holds resolves =>
      cases resolves with
      | done =>
          obtain ⟨later, next, after, fits, stepped, beside, stands⟩ :=
            holds.step_settle
          exact ⟨0, later, next, after, Nat.le_refl 0, by omega,
            stepped, beside, stands⟩
      | @ask model request resume count result resolves =>
          refine ⟨count, 3,
            ((resume (batch.answers model request)).bind _).bind _,
            (world.ask batch.host model request).2, Nat.le_succ _, by omega, ?_,
            .of_stores_eq rfl (fun ready => ready.of_programs_eq rfl) rfl,
            .asking (holds.of_stores_eq rfl) resolves⟩
          rw [← batch.answered model request world.models]
          rfl
  | releasing held leaves =>
      obtain ⟨later, next, after, fits, stepped, beside, stands⟩ :=
        step_release held leaves
      exact ⟨0, later, next, after, Nat.le_refl 0, by omega,
        stepped, beside, stands⟩
  | ended free leaves tells =>
      cases tells with
      | done => contradiction
      | notify told =>
          exact ⟨0, _, _, _, Nat.le_refl 0, by omega, rfl,
            .of_stores_eq rfl (fun ready => ready.of_programs_eq rfl) rfl,
            .ended free leaves told⟩

/-- What a pass does next, where it stands. -/
inductive Shape (job : batch.Job β) (world : World σ) :
    Nat -> Nat -> Activity β -> Prop
  | through
      (free : (world.stores batch.store).IsFree job.entry.key)
      (leaves : job.Leaves world) :
      Shape job world 0 0 (.done job.outcome)
  | acting {count steps : Nat} {rest : Activity β}
      (pending : steps ≠ 0)
      (acts : rest.actsNext = true) :
      Shape job world count steps rest
  | asking {count : Nat} {model : LanguageModel} {request : GenerationRequest}
      {resume : Reply -> Activity β}
      (answered : ∀ after : World σ,
        after.stores batch.store = world.stores batch.store ->
        job.Stands after count 3 (resume (batch.answers model request))) :
      Shape job world (count + 1) 3 (.generate model request resume)

/-- A pass that came to its result acts on it. -/
theorem shape_settle {count steps : Nat} (pending : steps ≠ 0) :
    job.Shape world count steps
      ((Optimizer.settle batch.store job.entry.key job.entry
        job.ended).bind job.next) := by
  unfold Optimizer.settle
  split <;> exact .acting pending rfl

/-- A job that stands somewhere is through, acts next or asks next. -/
theorem Stands.shape
    {count steps : Nat}
    {rest : Activity β}
    (stands : job.Stands world count steps rest) :
    job.Shape world count steps rest := by
  cases stands with
  | begun waits =>
      rw [body, Optimizer.optimizeStored_eq]
      exact .acting (by decide) rfl
  | reading holds => exact .acting (by decide) rfl
  | optimizing holds =>
      have determined := job.determined
      generalize job.count = count at determined ⊢
      cases determined with
      | refused early =>
          rw [early]
          exact shape_settle (by decide)
      | admitted begun =>
          rw [begun]
          exact .acting (by decide) rfl
  | asking holds resolves =>
      cases resolves with
      | done => exact shape_settle (by decide)
      | ask resolves =>
          exact .asking fun after stores =>
            .asking (holds.of_stores_eq stores) resolves
  | releasing held leaves => exact .acting (by decide) rfl
  | ended free leaves tells =>
      cases tells with
      | done => exact .through free leaves
      | notify => exact .acting (by omega) rfl

/-- What others do on their keys leaves a pass where it stands. -/
theorem Stands.aside
    {count steps : Nat}
    {rest : Activity β}
    {other : batch.Job β}
    (stands : job.Stands before count steps rest)
    (beside : other.Beside before after)
    (keys : job.entry.key ≠ other.entry.key)
    (owners : job.owner ≠ other.owner) :
    job.Stands after count steps rest := by
  have outside :
      job.entry.key ∉ [(other.entry.key, other.owner)].map (·.1) := by
    simpa using keys
  have stranger : job.owner ∉ [(other.entry.key, other.owner)].map (·.2) := by
    simpa using owners
  have found := beside.store.found job.entry.key outside
  have free := beside.store.free job.entry.key outside
  have held := beside.store.held job.entry.key job.owner outside stranger
  have holding (holds : job.Holds before) : job.Holds after :=
    ⟨found.trans holds.found, held holds.held⟩
  cases stands with
  | begun waits => exact .begun ⟨found.trans waits.found, free waits.free⟩
  | reading holds => exact .reading (holding holds)
  | optimizing holds => exact .optimizing (holding holds)
  | asking holds resolves => exact .asking (holding holds) resolves
  | releasing owned leaves =>
      exact .releasing (held owned) (leaves.of_find?_eq found)
  | ended unused leaves tells =>
      exact .ended (free unused) (leaves.of_find?_eq found) tells

/-- Where a pass stands depends on the store alone. -/
theorem Stands.of_stores_eq
    {count steps : Nat}
    {rest : Activity β}
    (stands : job.Stands before count steps rest)
    (stores : after.stores batch.store = before.stores batch.store) :
    job.Stands after count steps rest := by
  cases stands with
  | begun waits =>
      exact .begun
        ⟨by rw [stores]; exact waits.found, by rw [stores]; exact waits.free⟩
  | reading holds => exact .reading (holds.of_stores_eq stores)
  | optimizing holds => exact .optimizing (holds.of_stores_eq stores)
  | asking holds resolves => exact .asking (holds.of_stores_eq stores) resolves
  | releasing held leaves =>
      exact .releasing (by rw [stores]; exact held)
        (leaves.of_find?_eq (by rw [stores]))
  | ended free leaves tells =>
      exact .ended (by rw [stores]; exact free)
        (leaves.of_find?_eq (by rw [stores])) tells

end Job
end Batch
end PromptTuning
