import PromptTuning.Proofs.Concurrency.Cohort
import PromptTuning.Proofs.Concurrency.Progress
import PromptTuning.Proofs.Optimizer.Attempt

/-!
# A pass that goes on uninterrupted

Alone, a pass with known answers runs to its end as long as there is time for
all of its questions. In a schedule it goes on until it has to wait for an
answer, and as long as there is time for the questions that are left, it is
never abandoned.
-/

namespace PromptTuning.Batch

variable {σ β : Type} {batch : Batch σ}

/-- What a pass that is through has made of one world and left of
its variable. -/
structure Plan.Ends (plan : batch.Plan) (owner : Owner)
    (before after : World σ) : Prop where
  store :
    (before.stores batch.store).Touches [(plan.entry.key, owner)]
      (after.stores batch.store)
  ready : batch.Ready after
  free : (after.stores batch.store).IsFree plan.entry.key
  leaves : plan.Leaves after

namespace Job

variable {job : batch.Job β} {world after : World σ} {count steps limit : Nat}
  {rest : Activity β}

theorem Beside.ends {final : World σ} (beside : job.Beside world after)
    (ends : job.Ends job.owner after final) : job.Ends job.owner world final :=
  { ends with store := beside.store.trans ends.store }

/-- A pass alone comes to its end if there is time for its questions. -/
theorem Stands.run
    (stands : job.Stands world count steps rest)
    (ready : batch.Ready world)
    (within : world.clock + count * batch.pace ≤ limit) :
    ∃ after,
      rest.run batch.host job.owner limit world = (some job.outcome, after) ∧
      job.Ends job.owner world after ∧
      after.clock ≤ world.clock + count * batch.pace := by
  -- Every step leaves fewer questions or fewer other steps.
  generalize measured : count + steps = total
  induction total using Nat.strongRecOn generalizing count steps rest world with
  | ind total inductionHypothesis =>
  subst measured
  cases stands.shape with
  | through free leaves =>
      exact ⟨world, rfl, ⟨.refl _ _, ready, free, leaves⟩, by omega⟩
  | acting pending acts =>
      obtain ⟨fewer, later, next, between, fits, less, stepped, beside,
        stands⟩ :=
        stands.step ready pending
      have sooner : fewer * batch.pace ≤ count * batch.pace :=
        Nat.mul_le_mul_right _ fits
      have same := beside.clock
      obtain ⟨after, ran, ends, inTime⟩ :=
        inductionHypothesis _ less stands (beside.ready ready)
          (by omega) rfl
      exact ⟨after, (Activity.run_of_step limit acts stepped).trans ran,
        beside.ends ends, by omega⟩
  | @asking count model request resume answered =>
      rw [Nat.succ_mul] at within ⊢
      have paced := batch.paced model request world.models
      set due :=
        world.clock + batch.host.wait world.models model request with dueAt
      set answering := ((world.atClock due).ask batch.host model request).2
      have clock : answering.clock = due := rfl
      have readyAnswering : batch.Ready answering := ready.of_programs_eq rfl
      obtain ⟨after, ran, ends, inTime⟩ := inductionHypothesis _ (by omega)
        (answered answering rfl) readyAnswering (by omega) rfl
      refine ⟨after, ?_, { ends with }, by omega⟩
      rw [← batch.answered model request world.models] at ran
      rw [Activity.run, ← dueAt]
      exact (if_pos (by omega)).trans ran

/-- Where a schedule lets a pass rest: at its end, or waiting for an answer,
with the answers that it still gets. -/
inductive Rests (job : batch.Job β) (deadline : Nat) (world : World σ) :
    Nat -> Activity.Pause β -> Prop
  | through
      (free : (world.stores batch.store).IsFree job.entry.key)
      (leaves : job.Leaves world) :
      Rests job deadline world 0 (.finished job.outcome)
  | asking {count due : Nat} {model : LanguageModel}
      {request : GenerationRequest} {resume : Reply -> Activity β}
      (later : world.clock < due) (inTime : due + count * batch.pace ≤ deadline)
      (stands :
        job.Stands world count 3 (resume (batch.answers model request))) :
      Rests job deadline world (count + 1)
        (.awaitingModel due model request resume)

/-- A pass goes on until it has to wait for an answer, or is through. -/
theorem Stands.advance
    {deadline : Nat}
    (stands : job.Stands world count steps rest)
    (ready : batch.Ready world)
    (within : world.clock + count * batch.pace ≤ deadline) :
    ∃ left pause after, left ≤ count ∧
      rest.advance batch.host job.owner world = (pause, after) ∧
      job.Beside world after ∧ job.Rests deadline after left pause := by
  -- As above, except that an answer may have to be waited for.
  generalize measured : count + steps = total
  induction total using Nat.strongRecOn generalizing count steps rest world with
  | ind total inductionHypothesis =>
  subst measured
  cases stands.shape with
  | through free leaves =>
      exact ⟨0, _, world, Nat.le_refl 0, rfl, .refl job world,
        .through free leaves⟩
  | acting pending acts =>
      obtain ⟨fewer, later, next, between, fits, less, stepped, beside,
        stands⟩ :=
        stands.step ready pending
      have sooner : fewer * batch.pace ≤ count * batch.pace :=
        Nat.mul_le_mul_right _ fits
      have same := beside.clock
      obtain ⟨left, pause, after, leftFits, advanced, besideAfter, rests⟩ :=
        inductionHypothesis _ less
          stands (beside.ready ready) (by omega) rfl
      exact ⟨left, pause, after, by omega,
        (Activity.advance_of_step acts stepped).trans advanced,
        beside.trans besideAfter, rests⟩
  | @asking count model request resume answered =>
      rw [Nat.succ_mul] at within
      have paced := batch.paced model request world.models
      rw [Activity.advance]
      split
      · have beside : job.Beside world (world.ask batch.host model request).2 :=
          .of_stores_eq rfl (fun ready => ready.of_programs_eq rfl) rfl
        have same := beside.clock
        obtain ⟨left, pause, after, fits, advanced, besideAfter, rests⟩ :=
          inductionHypothesis _
            (by omega) (answered (world.ask batch.host model request).2 rfl)
            (beside.ready ready)
            (by omega) rfl
        rw [← batch.answered model request world.models] at advanced
        exact ⟨left, pause, after, by omega, advanced,
          beside.trans besideAfter, rests⟩
      · exact ⟨count + 1, _, world, Nat.le_refl _, rfl, .refl job world,
          .asking (by omega) (by omega) (answered world rfl)⟩

variable {deadline : Nat} {late : String -> Activity β} {left : Nat}
  {running : RunningTask (Except OptimizationError OptimizeReport) β}

/-- The pass as a task that has until some moment, and what follows if it is not
through by then. -/
def task (job : batch.Job β) (deadline : Nat) (late : String -> Activity β) :
    Task (Except OptimizationError OptimizeReport) β where
  owner := job.owner
  deadline := deadline
  body := batch.optimizer.optimizeStored batch.store job.entry.key batch.reward
  finish
    | some result => job.next result
    | none => late job.entry.key

/-- Where the task of a pass stands, with the answers that it still gets. -/
inductive Underway (job : batch.Job β) (deadline : Nat)
    (late : String -> Activity β) (world : World σ) :
    Nat -> RunningTask (Except OptimizationError OptimizeReport) β -> Prop
  | through {pause : Activity.Pause (Except OptimizationError OptimizeReport)}
      (free : (world.stores batch.store).IsFree job.entry.key)
      (leaves : job.Leaves world) :
      Underway job deadline late world 0
        ⟨job.task deadline late, pause, some job.outcome⟩
  | asking {count due : Nat} {model : LanguageModel}
      {request : GenerationRequest}
      {resume : Reply -> Activity (Except OptimizationError OptimizeReport)}
      (later : world.clock ≤ due) (inTime : due + count * batch.pace ≤ deadline)
      (stands : job.Stands world count 3
        ((resume (batch.answers model request)).bind job.next)) :
      Underway job deadline late world (count + 1)
        ⟨job.task deadline late, .awaitingModel due model request resume, none⟩

/-- A task that has time for its questions is through, or waits for an
answer in time. -/
theorem Stands.goOn
    {activity : Activity (Except OptimizationError OptimizeReport)}
    (late : String -> Activity β)
    (stands : job.Stands world count steps (activity.bind job.next))
    (ready : batch.Ready world)
    (within : world.clock + count * batch.pace ≤ deadline) :
    ∃ left running after, left ≤ count ∧
      RunningTask.goOn batch.host (job.task deadline late) activity world =
        (running, after) ∧
      job.Beside world after ∧
      job.Underway deadline late after left running := by
  obtain ⟨left, pause, after, fits, advanced, beside, rests⟩ :=
    stands.advance ready within
  have same := beside.clock
  rw [Activity.advance_bind] at advanced
  have owned : (job.task deadline late).owner = job.owner := rfl
  generalize went : activity.advance batch.host job.owner world =
    paused at advanced
  obtain ⟨result | ⟨store, key, resume⟩ | ⟨due, model, request, resume⟩,
    between⟩ := paused
  · obtain ⟨steps, _, tells⟩ := job.tells result
    obtain ⟨told, tell⟩ := tells.advance batch.host job.owner between
    obtain ⟨rfl, rfl⟩ := Prod.mk.inj (tell.symm.trans advanced)
    have finish :
        (job.task deadline late).finish (some result) = job.next result := rfl
    generalize finished : Activity.Pause.finished (job.answer result) =
      pause at rests
    cases rests with
    | asking => contradiction
    | through free leaves =>
        have ended := Activity.Pause.finished.inj finished
        refine ⟨0, ⟨job.task deadline late, .finished result, some job.outcome⟩,
          told, fits, ?_, beside,
          .through free leaves⟩
        simp only [RunningTask.goOn, RunningTask.settle, owned, went, finish,
          tell, ended]
  · obtain ⟨rfl, rfl⟩ := Prod.mk.inj advanced
    cases rests
  · obtain ⟨rfl, rfl⟩ := Prod.mk.inj advanced
    cases rests with
    | asking later inTime stands =>
        have open' : ¬(job.task deadline late).deadline ≤ world.clock := by
          change ¬deadline ≤ world.clock
          omega
        refine ⟨_, _, between, fits, ?_, beside,
          .asking (Nat.le_of_lt later) inTime stands⟩
        simp only [RunningTask.goOn, owned, went, if_neg open']

/-- A task that is due has its answer and goes on with it. -/
theorem Underway.wake
    (underway : job.Underway deadline late world left running)
    (ready : batch.Ready world)
    (due : running.isDue world world.clock = true) :
    ∃ fewer awake after, fewer < left ∧
      running.wake batch.host world = (awake, after) ∧
      job.Beside world after ∧
      job.Underway deadline late after fewer awake := by
  cases underway with
  | through => simp [RunningTask.isDue] at due
  | @asking count moment model request resume later inTime stands =>
      have arrived : moment ≤ world.clock := by
        have limited : (job.task deadline late).deadline = deadline := rfl
        simp only [RunningTask.isDue, limited, Option.isNone_none,
          Bool.true_and, Bool.or_eq_true,
          decide_eq_true_eq] at due
        omega
      have beside : job.Beside world (world.ask batch.host model request).2 :=
        .of_stores_eq rfl (fun ready => ready.of_programs_eq rfl) rfl
      have same := beside.clock
      have told : job.Stands (world.ask batch.host model request).2 count 3
          ((resume (batch.answers model request)).bind job.next) :=
        stands.of_stores_eq rfl
      rw [← batch.answered model request world.models] at told
      have within :
          (world.ask batch.host model request).2.clock + count * batch.pace ≤
            deadline := by
        omega
      obtain ⟨fewer, awake, after, fits, went, besideAfter, underway⟩ :=
        told.goOn late (beside.ready ready) within
      rw [RunningTask.wake_of_due arrived]
      exact ⟨fewer, awake, after, by omega, went,
        beside.trans besideAfter, underway⟩

/-- What others do on their keys leaves the task of a pass where it stands. -/
theorem Underway.aside
    {other : batch.Job β}
    (underway : job.Underway deadline late world left running)
    (beside : other.Beside world after)
    (keys : job.entry.key ≠ other.entry.key)
    (owners : job.owner ≠ other.owner) :
    job.Underway deadline late after left running := by
  have outside :
      job.entry.key ∉ [(other.entry.key, other.owner)].map (·.1) := by
    simpa using keys
  cases underway with
  | through free leaves =>
      exact .through (beside.store.free _ outside free)
        (leaves.of_find?_eq (beside.store.found _ outside))
  | asking later inTime stands =>
      exact .asking (beside.clock ▸ later) inTime
        (stands.aside beside keys owners)

/-- The task of a pass that has an outcome has come to its end. -/
theorem Underway.of_outcome
    {outcome : β}
    (underway : job.Underway deadline late world left running)
    (ended : running.outcome = some outcome) :
    outcome = job.outcome ∧ (world.stores batch.store).IsFree job.entry.key ∧
    job.Leaves world := by
  cases underway with
  | through free leaves => exact ⟨(Option.some.inj ended).symm, free, leaves⟩
  | asking => contradiction

end Job

/-- The passes of a batch as tasks that have until some moment. -/
def cohort (batch : Batch σ) (β : Type) (deadline : Nat)
    (late : String -> Activity β) :
    Cohort σ (batch.Job β) (Except OptimizationError OptimizeReport) β where
  host := batch.host
  task job := job.task deadline late
  deadline := deadline
  Begins world job := batch.Ready world ∧ job.Waits world ∧
    world.clock + job.count * batch.pace ≤ deadline
  Stands world job left
    running := batch.Ready world ∧ job.Underway deadline late world left running
  Touches job before after := job.Beside before after
  Apart := Job.Apart
  apart_symm apart := ⟨apart.1.symm, apart.2.symm⟩
  clock_eq beside := beside.clock
  begins_aside := by
    rintro before after item other ⟨ready, waits, within⟩ beside ⟨keys, _⟩
    have outside :
        other.entry.key ∉ [(item.entry.key, item.owner)].map (·.1) := by
      simpa using keys.symm
    exact ⟨beside.ready ready,
      ⟨(beside.store.found _ outside).trans waits.found,
        beside.store.free _ outside waits.free⟩, beside.clock ▸ within⟩
  stands_aside := by
    rintro before after item other left running ⟨ready, underway⟩
      beside ⟨keys, owners⟩
    exact ⟨beside.ready ready, underway.aside beside keys.symm owners.symm⟩
  atClock := by
    rintro world job left clock running ⟨ready, underway⟩ early
    refine ⟨ready.of_programs_eq rfl, ?_⟩
    cases underway with
    | through free leaves => exact .through free leaves
    | asking later inTime stands =>
        refine .asking ?_ inTime (stands.of_stores_eq rfl)
        exact Nat.le_trans (early _ rfl) (Nat.min_le_left _ _)
  ended_or_nextDue := by
    rintro world job left running ⟨_, underway⟩
    cases underway with
    | through => exact .inl ⟨_, rfl⟩
    | @asking count due model request resume later inTime stands =>
        have limited : (job.task deadline late).deadline = deadline := rfl
        refine .inr ⟨_, rfl, rfl, ?_, Nat.min_le_right _ _, fun later => ?_⟩
        · rw [limited]
          omega
        · simp only [RunningTask.isDue, Option.isNone_none, Bool.true_and,
            Bool.or_eq_true, decide_eq_true_eq]
          omega
  wake := by
    rintro world job left running ⟨ready, underway⟩ due
    obtain ⟨fewer, awake, after, less, woken, beside, underway⟩ :=
      underway.wake ready due
    exact ⟨fewer, awake, after, less, woken, beside,
      beside.ready ready, underway⟩

/-- A pass is woken for its answers alone. -/
theorem startsWithin_cohort (batch : Batch σ) (deadline : Nat)
    (late : String -> Activity β) :
    (batch.cohort β deadline late).StartsWithin
      (Optimizer.questionsOf batch.program) := by
  rintro world job ⟨ready, waits, within⟩
  have stands : job.Stands world job.count 6
    ((batch.optimizer.optimizeStored batch.store job.entry.key
      batch.reward).bind job.next) :=
      .begun waits
  obtain ⟨left, running, after, fits, started, beside, underway⟩ :=
    stands.goOn late ready within
  exact ⟨left, running, after, Nat.le_trans fits job.fits, started, beside,
    beside.ready ready, underway⟩

/-- Run side by side, passes that have time for their questions all come to
their ends. -/
theorem runAll_cohort
    {jobs : List (batch.Job β)}
    {world : World σ}
    {deadline limit waits : Nat}
    (late : String -> Activity β)
    (wait : batch.AllWait (jobs.map (·.toPlan)) world)
    (apart : jobs.Pairwise Job.Apart)
    (inTime : ∀ job ∈ jobs, world.clock + job.count * batch.pace ≤ deadline)
    (within : deadline ≤ limit)
    (enough : Optimizer.questionsOf batch.program ≤ waits + 2) :
    ∃ after,
      Task.runAll batch.host limit waits (jobs.map (·.task deadline late))
        world =
        (some (jobs.map (·.outcome)), after) ∧
      world.clock ≤ after.clock ∧ after.clock ≤ max world.clock deadline ∧
      batch.Settled (jobs.map (·.toPlan)) after := by
  have begins (job : batch.Job β) (listed : job ∈ jobs) :
      (batch.cohort β deadline late).Begins world job :=
    ⟨wait.ready, wait.waits _ (List.mem_map_of_mem listed), inTime job listed⟩
  obtain ⟨outcomes, after, ran, from', until', keeps, ended⟩ :=
    Cohort.runAll (batch.startsWithin_cohort deadline late) begins
      apart within enough
  have keys :
      (after.stores batch.store).keys = (world.stores batch.store).keys :=
    keeps (fun later =>
      (later.stores batch.store).keys = (world.stores batch.store).keys)
      ⟨fun beside same => beside.store.keys.trans same, fun _ same => same⟩ rfl
  have ready : batch.Ready after :=
    keeps batch.Ready
      ⟨fun beside ready => beside.ready ready,
        fun _ ready => ready.of_programs_eq rfl⟩ wait.ready
  have each : List.Forall₂ (fun job outcome => outcome = job.outcome ∧
      (after.stores batch.store).IsFree job.entry.key ∧ job.Leaves after)
    jobs outcomes := by
    refine ended.imp fun job outcome ended => ?_
    obtain ⟨left, running, ⟨_, underway⟩, done⟩ := ended
    exact underway.of_outcome done
  have came : outcomes = jobs.map (·.outcome) := by
    rw [← List.forall₂_eq_eq_eq, List.forall₂_map_right_iff]
    exact each.flip.imp fun outcome job ended => ended.1
  subst came
  refine ⟨after, ran, from', until', ready, keys.trans wait.keys, ?_, ?_⟩
  all_goals
    rw [List.forall_mem_map]
    rw [List.forall₂_map_right_iff, List.forall₂_same] at each
    intro job listed
    obtain ⟨_, free, leaves⟩ := each job listed
    assumption

end PromptTuning.Batch
