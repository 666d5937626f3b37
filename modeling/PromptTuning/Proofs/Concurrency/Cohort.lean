import Mathlib.Data.List.Forall2
import PromptTuning.Concurrency.Schedule

/-!
# Tasks that keep apart

Tasks that run side by side on items of their own are understood one by one:
where the task on an item stands, it stands whatever the others do, and each
time it is due it comes closer to its end. Then every round brings all of them
closer to their end, and the rounds of the schedule suffice.
-/

namespace PromptTuning

variable {σ : Type}

namespace RunningTask

variable {α β : Type} {host : ModelHost σ} {task : Task α β}

/-- Go on with an activity of a task. -/
def goOn (host : ModelHost σ) (task : Task α β) (activity : Activity α)
    (world : World σ) :
    RunningTask α β × World σ :=
  let (pause, after) := activity.advance host task.owner world
  match pause with
  | .finished _ => settle host task pause after
  | _ =>
      if task.deadline ≤ world.clock then expire host ⟨task, pause, none⟩ after
      else (⟨task, pause, none⟩, after)

theorem start_eq (world : World σ) :
    start host task world = goOn host task task.body world := rfl

/-- Who has the answer goes on with it. -/
theorem wake_of_due
    {due : Nat}
    {model : LanguageModel}
    {request : GenerationRequest}
    {resume : Except LanguageModelError Value -> Activity α}
    {outcome : Option β}
    {world : World σ}
    (arrived : due ≤ world.clock) :
    wake host ⟨task, .awaitingModel due model request resume, outcome⟩ world =
      goOn host task (resume (world.ask host model request).1)
        (world.ask host model request).2 := by
  simp only [wake, arrived, if_true]
  rfl

/-- A task that wakes up too early for its answer is given up at its deadline
or waits on. -/
theorem wake_of_late
    {due : Nat}
    {model : LanguageModel}
    {request : GenerationRequest}
    {resume : Except LanguageModelError Value -> Activity α}
    {outcome : Option β}
    {world : World σ}
    (late : world.clock < due) :
    wake host ⟨task, .awaitingModel due model request resume, outcome⟩ world =
      expire host ⟨task, .awaitingModel due model request resume, outcome⟩
        world := by
  simp only [wake, Nat.not_le.mpr late, if_false]

end RunningTask

/-- Tasks on items of one kind. Each law is about one task, and what it does to
the world as the others see it. -/
structure Cohort (σ ι α β : Type) where
  host : ModelHost σ
  task : ι -> Task α β
  /-- The last moment at which a task goes on. -/
  deadline : Nat
  /-- The task on an item can be started. -/
  Begins : World σ -> ι -> Prop
  /-- Where the task on an item stands, with the number of times that it may
  still be woken. -/
  Stands : World σ -> ι -> Nat -> RunningTask α β -> Prop
  /-- The work on an item makes one world of another. -/
  Touches : ι -> World σ -> World σ -> Prop
  Apart : ι -> ι -> Prop
  apart_symm : ∀ {first second : ι}, Apart first second -> Apart second first
  clock_eq : ∀ {before after : World σ} {item : ι}, Touches item before after ->
    after.clock = before.clock
  begins_aside :
    ∀ {before after : World σ} {item other : ι}, Begins before other ->
      Touches item before after -> Apart item other -> Begins after other
  stands_aside : ∀ {before after : World σ} {item other : ι} {left : Nat}
    {running : RunningTask α β}, Stands before other left running ->
    Touches item before after -> Apart item other ->
    Stands after other left running
  /-- A task stands where it stood until it goes on by itself. -/
  atClock :
    ∀ {world : World σ} {item : ι} {left
      clock : Nat} {running : RunningTask α β},
      Stands world item left running ->
      (∀ next, running.nextDue world = some next -> clock ≤ next) ->
      Stands (world.atClock clock) item left running
  ended_or_nextDue :
    ∀ {world : World σ} {item : ι} {left : Nat} {running : RunningTask α β},
      Stands world item left running ->
      (∃ outcome, running.outcome = some outcome) ∨
        ∃ next, running.outcome = none ∧ running.nextDue world = some next ∧
          world.clock ≤ next ∧
          next ≤ deadline ∧ ∀ later : World σ, running.isDue later next = true
  wake :
    ∀ {world : World σ} {item : ι} {left : Nat} {running : RunningTask α β},
      Stands world item left running ->
      running.isDue world world.clock = true ->
      ∃ fewer awake after, fewer < left ∧
        running.wake host world = (awake, after) ∧
        Touches item world after ∧ Stands after item fewer awake

namespace Cohort

variable {ι α β : Type} {cohort : Cohort σ ι α β} {world after : World σ}
  {item : ι} {items : List ι} {left total limit : Nat}
  {running : List (RunningTask α β)}

/-- Where the tasks on some items stand, with the number of times that they may
still be woken. -/
inductive AllStand (cohort : Cohort σ ι α β) (world : World σ) :
    List ι -> Nat -> List (RunningTask α β) -> Prop
  | nil : AllStand cohort world [] 0 []
  | cons {item : ι} {items : List ι} {left total : Nat}
      {first : RunningTask α β} {running : List (RunningTask α β)}
      (stands : cohort.Stands world item left first)
      (others : AllStand cohort world items total running) :
      AllStand cohort world (item :: items) (left + total) (first :: running)

/-- The tasks on all items have ended, with an outcome each. -/
def AllEnded (cohort : Cohort σ ι α β) (world : World σ) :
    List ι -> List β -> Prop :=
  List.Forall₂ fun item outcome =>
    ∃ left running, cohort.Stands world item left running ∧
      running.outcome = some outcome

/-- The work on any item keeps a property of the world, and so does time. -/
structure Keeps (cohort : Cohort σ ι α β) (kept : World σ -> Prop) : Prop where
  touched :
    ∀ {before after : World σ} {item : ι}, cohort.Touches item before after ->
      kept before -> kept after
  atClock :
    ∀ {world : World σ} (clock : Nat), kept world -> kept (world.atClock clock)

/-- The work on some items leaves the tasks on all others where they stand. -/
structure Spares (cohort : Cohort σ ι α β) (items : List ι)
    (before after : World σ) : Prop where
  clock : after.clock = before.clock
  keeps : ∀ kept, cohort.Keeps kept -> kept before -> kept after
  begins :
    ∀ other, (∀ item ∈ items, cohort.Apart item other) ->
      cohort.Begins before other ->
      cohort.Begins after other
  stands : ∀ other left running, (∀ item ∈ items, cohort.Apart item other) ->
    cohort.Stands before other left running ->
    cohort.Stands after other left running

/-- A cohort spares everything while nothing changes. -/
theorem Spares.refl (items : List ι) (world : World σ) :
    cohort.Spares items world world :=
  ⟨rfl, fun _ _ holds => holds, fun _ _ begins => begins,
    fun _ _ _ _ stands => stands⟩

/-- What an item touches and what the others spare, all of them
spare together. -/
theorem Spares.cons
    {between : World σ}
    (touched : cohort.Touches item world between)
    (spared : cohort.Spares items between after) :
    cohort.Spares (item :: items) world after where
  clock := spared.clock.trans (cohort.clock_eq touched)
  keeps kept keeps
    holds := spared.keeps kept keeps (keeps.touched touched holds)
  begins other apart begins :=
    let ⟨first, others⟩ := List.forall_mem_cons.mp apart
    spared.begins other others (cohort.begins_aside begins touched first)
  stands other left running apart stands :=
    let ⟨first, others⟩ := List.forall_mem_cons.mp apart
    spared.stands other left running others
      (cohort.stands_aside stands touched first)

namespace AllStand

/-- Members stand where they stood when somebody apart from them
touches something. -/
theorem aside
    (stand : cohort.AllStand world items total running)
    (apart : ∀ other ∈ items, cohort.Apart item other)
    (touched : cohort.Touches item world after) :
    cohort.AllStand after items total running := by
  induction stand with
  | nil => exact .nil
  | cons stands _ inductionHypothesis =>
      obtain ⟨first, apart⟩ := List.forall_mem_cons.mp apart
      exact .cons (cohort.stands_aside stands touched first)
        (inductionHypothesis apart)

/-- Every task stands somewhere. -/
theorem exists_of_mem
    (stand : cohort.AllStand world items total running)
    {task : RunningTask α β}
    (listed : task ∈ running) :
    ∃ item left, cohort.Stands world item left task := by
  induction stand with
  | nil => contradiction
  | cons stands _ inductionHypothesis =>
      obtain rfl | later := List.mem_cons.mp listed
      · exact ⟨_, _, stands⟩
      · exact inductionHypothesis later

/-- Members stand where they stood until the next of them is due. -/
theorem atClock
    {clock : Nat}
    (stand : cohort.AllStand world items total running)
    (early : ∀ task ∈ running,
      ∀ next, task.nextDue world = some next -> clock ≤ next) :
    cohort.AllStand (world.atClock clock) items total running := by
  induction stand with
  | nil => exact .nil
  | cons stands _ inductionHypothesis =>
      obtain ⟨first, others⟩ := List.forall_mem_cons.mp early
      exact .cons (cohort.atClock stands first) (inductionHypothesis others)

/-- A round brings the tasks closer to their end if one of them is due. -/
theorem wakeAll
    (stand : cohort.AllStand world items total running)
    (apart : items.Pairwise cohort.Apart) :
    ∃ fewer awake after, fewer ≤ total ∧
      ((∃ task ∈ running, task.isDue world world.clock = true) ->
        fewer < total) ∧
      Task.wakeAll cohort.host running world = (awake, after) ∧
      cohort.Spares items world after ∧
      cohort.AllStand after items fewer awake := by
  induction items generalizing world total running with
  | nil =>
      cases stand
      exact ⟨0, [], world, Nat.le_refl 0, by simp, rfl, .refl _ world, .nil⟩
  | cons item items inductionHypothesis =>
      obtain _ | @⟨_, _, left, total, first, running, stands, others⟩ := stand
      obtain ⟨apartFirst, apart⟩ := List.pairwise_cons.mp apart
      have apartOthers (other : ι) (listed : other ∈ items) :
          cohort.Apart other item :=
        cohort.apart_symm (apartFirst other listed)
      by_cases due : first.isDue world world.clock = true
      · obtain ⟨fewer, awake, between, less, woken, touched, stands⟩ :=
          cohort.wake stands due
        obtain ⟨rest, others', after, fits, _, went, spared, stand⟩ :=
          inductionHypothesis (others.aside apartFirst touched) apart
        refine ⟨fewer + rest, awake :: others', after, by omega,
          fun _ => by omega, ?_,
          spared.cons touched,
          .cons (spared.stands item fewer awake apartOthers stands) stand⟩
        simp only [Task.wakeAll, due, if_true, woken, went]
      · obtain ⟨rest, others', after, fits, less, went, spared, stand⟩ :=
          inductionHypothesis others apart
        refine ⟨left + rest, first :: others', after, by omega, ?_, ?_, ?_,
          .cons (spared.stands item left first apartOthers stands) stand⟩
        · rintro ⟨task, listed, ready⟩
          obtain rfl | later := List.mem_cons.mp listed
          · exact absurd ready due
          · have := less ⟨task, later, ready⟩
            omega
        · simp only [Task.wakeAll, due, Bool.false_eq_true, if_false, went]
        · exact ⟨spared.clock, spared.keeps,
            fun other apart =>
              spared.begins other (List.forall_mem_cons.mp apart).2,
            fun other left running apart =>
              spared.stands other left running
                (List.forall_mem_cons.mp apart).2⟩

/-- All tasks have ended, or there is one that has not. -/
theorem ended_or_open (stand : cohort.AllStand world items total running) :
    (∃ outcomes, Task.outcomes? running = some outcomes ∧
      cohort.AllEnded world items outcomes) ∨
      Task.outcomes? running = none ∧
      ∃ task ∈ running, task.outcome = none := by
  induction stand with
  | nil => exact .inl ⟨[], rfl, .nil⟩
  | @cons item items left total first running stands _ inductionHypothesis =>
      cases ended : first.outcome with
      | none =>
          refine .inr ⟨?_, first, List.mem_cons_self, ended⟩
          rw [Task.outcomes?]
          simp only [List.mapM_cons, ended]
          rfl
      | some outcome =>
          obtain ⟨outcomes, all, allEnded⟩ | ⟨none, task, listed, open'⟩ :=
            inductionHypothesis
          · refine .inl
              ⟨outcome :: outcomes, ?_,
                .cons ⟨left, first, stands, ended⟩ allEnded⟩
            rw [Task.outcomes?] at all ⊢
            simp only [List.mapM_cons, ended, all]
            rfl
          · refine .inr ⟨?_, task, List.mem_cons_of_mem _ listed, open'⟩
            rw [Task.outcomes?] at none ⊢
            simp only [List.mapM_cons, ended, none]
            rfl

/-- While a task has not ended there is a next moment at which one goes on, and
none goes on before it. -/
theorem exists_next
    (stand : cohort.AllStand world items total running)
    {task : RunningTask α β}
    (listed : task ∈ running)
    (open' : task.outcome = none) :
    ∃ next, (running.filterMap (·.nextDue world)).min? = some next ∧
      world.clock ≤ next ∧
      next ≤ cohort.deadline ∧
      (∃ task ∈ running, ∀ later : World σ, task.isDue later next = true) ∧
      ∀ task ∈ running, ∀ due, task.nextDue world = some due -> next ≤ due := by
  have goesOn : ∃ due, due ∈ running.filterMap (·.nextDue world) := by
    obtain ⟨item, left, stands⟩ := stand.exists_of_mem listed
    obtain ⟨outcome, ended⟩ | ⟨due, _, goesOn, _⟩ :=
      cohort.ended_or_nextDue stands
    · rw [open'] at ended
      contradiction
    · exact ⟨due, List.mem_filterMap.mpr ⟨task, listed, goesOn⟩⟩
  obtain ⟨due, among⟩ := goesOn
  obtain ⟨next, first⟩ :=
    Option.isSome_iff_exists.mp (List.isSome_min?_of_mem among)
  obtain ⟨among, least⟩ := List.min?_eq_some_iff.mp first
  obtain ⟨earliest, listed, goesOn⟩ := List.mem_filterMap.mp among
  obtain ⟨item, left, stands⟩ := stand.exists_of_mem listed
  obtain ⟨outcome, ended⟩ | ⟨due, _, same, later, inTime, isDue⟩ :=
    cohort.ended_or_nextDue stands
  · simp [RunningTask.nextDue, ended] at goesOn
  · obtain rfl := Option.some.inj (same.symm.trans goesOn)
    exact ⟨due, first, later, inTime, ⟨earliest, listed, isDue⟩,
      fun task listed other goesOn =>
        least other (List.mem_filterMap.mpr ⟨task, listed, goesOn⟩)⟩

/-- Tasks that are woken less often than there are rounds have all ended
in the end. -/
theorem rounds
    {count : Nat}
    (stand : cohort.AllStand world items total running)
    (apart : items.Pairwise cohort.Apart)
    (within : cohort.deadline ≤ limit)
    (enough : total < count) :
    ∃ outcomes after,
      Task.rounds cohort.host limit count running world =
        (some outcomes, after) ∧
      world.clock ≤ after.clock ∧
      after.clock ≤ max world.clock cohort.deadline ∧
      (∀ kept, cohort.Keeps kept -> kept world -> kept after) ∧
      cohort.AllEnded after items outcomes := by
  -- Each round leaves fewer wakings than there are rounds left.
  induction count generalizing world total running with
  | zero => contradiction
  | succ count inductionHypothesis =>
      obtain ⟨outcomes, all, ended⟩ | ⟨none, task, listed, open'⟩ :=
        stand.ended_or_open
      · exact ⟨outcomes, world, by simp only [Task.rounds, all], Nat.le_refl _,
          Nat.le_max_left _ _, fun _ _ holds => holds, ended⟩
      · obtain ⟨next, first, later, inTime, ⟨task, listed, due⟩, least⟩ :=
          stand.exists_next listed open'
        obtain ⟨fewer, awake, between, _, less, woken, spared, stand⟩ :=
          (stand.atClock least).wakeAll apart
        have fewer := less ⟨task, listed, due _⟩
        obtain ⟨outcomes, after, went, from', until', keep, ended⟩ :=
          inductionHypothesis stand (by omega)
        have now : between.clock = next := spared.clock
        refine ⟨outcomes, after, ?_, by omega, by omega, fun kept keeps holds =>
          keep kept keeps (spared.keeps kept keeps (keeps.atClock next holds)),
          ended⟩
        have limited : next ≤ limit := Nat.le_trans inTime within
        have forward : max next world.clock = next := by omega
        simp only [Task.rounds, none, first, limited, if_true, forward, woken,
          went]

end AllStand

/-- How a task on an item is started: it is woken no more often than a
bound says. -/
def StartsWithin (cohort : Cohort σ ι α β) (bound : Nat) : Prop :=
  ∀ {world : World σ} {item : ι}, cohort.Begins world item ->
    ∃ left running after, left ≤ bound ∧
      RunningTask.start cohort.host (cohort.task item) world =
        (running, after) ∧
      cohort.Touches item world after ∧ cohort.Stands after item left running

/-- Tasks that can be started are started one after another, each
within its bound. -/
theorem startAll
    {bound : Nat}
    (starts : cohort.StartsWithin bound)
    (begins : ∀ item ∈ items, cohort.Begins world item)
    (apart : items.Pairwise cohort.Apart) :
    ∃ total running after, total ≤ items.length * bound ∧
      Task.startAll cohort.host (items.map cohort.task) world =
        (running, after) ∧
      cohort.Spares items world after ∧
      cohort.AllStand after items total running := by
  induction items generalizing world with
  | nil => exact ⟨0, [], world, Nat.zero_le _, rfl, .refl _ world, .nil⟩
  | cons item items inductionHypothesis =>
      obtain ⟨apartFirst, apart⟩ := List.pairwise_cons.mp apart
      obtain ⟨beginsFirst, begins⟩ := List.forall_mem_cons.mp begins
      obtain ⟨left, first, between, fits, started, touched, stands⟩ :=
        starts beginsFirst
      obtain ⟨total, running, after, othersFit, othersStarted, spared, stand⟩ :=
        inductionHypothesis
          (fun other listed => cohort.begins_aside (begins other listed) touched
            (apartFirst other listed)) apart
      refine ⟨left + total, first :: running, after, ?_, ?_,
        spared.cons touched,
        .cons (spared.stands item left first (fun other listed =>
          cohort.apart_symm (apartFirst other listed)) stands) stand⟩
      · rw [List.length_cons, Nat.succ_mul]
        omega
      · simp only [List.map_cons, Task.startAll, started, othersStarted]

/-- Tasks that can be started have all ended before the limit, with an
outcome each. -/
theorem runAll
    {bound waits : Nat}
    (starts : cohort.StartsWithin bound)
    (begins : ∀ item ∈ items, cohort.Begins world item)
    (apart : items.Pairwise cohort.Apart)
    (within : cohort.deadline ≤ limit)
    (enough : bound ≤ waits + 2) :
    ∃ outcomes after,
      Task.runAll cohort.host limit waits (items.map cohort.task) world =
        (some outcomes, after) ∧
      world.clock ≤ after.clock ∧
      after.clock ≤ max world.clock cohort.deadline ∧
      (∀ kept, cohort.Keeps kept -> kept world -> kept after) ∧
      cohort.AllEnded after items outcomes := by
  obtain ⟨total, running, started, fits, begun, spared, stand⟩ :=
    startAll starts begins apart
  have fewer : total < (items.map cohort.task).length * (waits + 2) + 1 := by
    rw [List.length_map]
    have := Nat.mul_le_mul_left items.length enough
    omega
  obtain ⟨outcomes, after, went, from', until', keep, ended⟩ :=
    stand.rounds apart within fewer
  rw [spared.clock] at from' until'
  exact ⟨outcomes, after, by simp only [Task.runAll, begun, went], from',
    until',
    fun kept keeps holds => keep kept keeps (spared.keeps kept keeps holds),
    ended⟩

end Cohort
end PromptTuning
