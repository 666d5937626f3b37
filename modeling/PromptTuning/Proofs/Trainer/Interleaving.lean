import PromptTuning.Proofs.Optimizer.Building
import PromptTuning.Proofs.Optimizer.Interleaved
import PromptTuning.Proofs.Optimizer.Uninterrupted
import PromptTuning.Proofs.Store.Contents
import PromptTuning.Proofs.Trainer.Epoch

/-!
# Epochs in any order

Where the answers of the language models depend on the request alone, the passes
of an epoch come to the same in whatever order they take their steps: one after
another, as the schedule of an epoch lets them, or in any other order. The
variables are left the same, apart from their dates.
-/

namespace PromptTuning

variable {σ : Type}

/-- Where each of some items has a variable under its key, the variables of a
store are these. -/
theorem Store.contents_eq_map
    {ι : Type}
    {store : Store}
    {items : List ι}
    {key : ι -> String}
    {value : ι -> Variable}
    (distinct : (items.map key).Nodup)
    (keys : store.keys = items.map key)
    (found : ∀ item ∈ items, ∃ entry, store.find? (key item) = some entry ∧
      entry.undated = value item) :
    store.contents = items.map value := by
  have present : ∀ item ∈ items,
      (store.find? (key item)).map Variable.undated = some (value item) := by
    intro item listed
    obtain ⟨entry, stored, same⟩ := found item listed
    rw [stored, Option.map_some, same]
  calc store.contents
      = (store.keys.filterMap store.find?).map Variable.undated := by
        rw [Store.filterMap_find?_keys (keys ▸ distinct)]
        rfl
    _ = items.filterMap fun item =>
      (store.find? (key item)).map Variable.undated := by
        rw [keys, List.filterMap_map, List.map_filterMap]
        rfl
    _ = items.filterMap fun item => some (value item) :=
      List.filterMap_congr present
    _ = items.map value := congrFun List.filterMap_eq_map' items

namespace Trainer

/-- Run the passes over some variables one after another. -/
def optimizeEach (trainer : Trainer) (reward : Double) :
    List String -> Activity (List (Except OptimizationError OptimizeReport))
  | [] => pure []
  | key :: rest => do
      let result ← trainer.optimizer.optimizeStored trainer.store key reward
      let others ← trainer.optimizeEach reward rest
      return result :: others

/-- Run the passes over some variables one after another, then end as an
epoch ends. -/
def optimizeInOrder (trainer : Trainer) (reward : Double) (keys : List String) :
    Activity (List (Except OptimizationError OptimizeReport)) := do
  let results ← trainer.optimizeEach reward keys
  trainer.close keys
  return results

end Trainer

namespace Batch

variable {batch : Batch σ} {plans : List batch.Plan} {world : World σ}
  {limit timeout : Nat} {finalizes : Bool} {owner : Owner}

/-- The trainer whose passes are those of the batch. -/
abbrev trainer (batch : Batch σ) (timeout : Nat) (finalizes : Bool) : Trainer :=
  ⟨batch.optimizer, batch.store, timeout, finalizes⟩

/-- What an epoch leaves of a variable, apart from the date. -/
def Plan.final (plan : batch.Plan) (finalizes : Bool) : Variable :=
  ((batch.trainer 0 finalizes).closedAt default
    (left plan.entry plan.ended)).undated

theorem Plan.key_final (plan : batch.Plan) (finalizes : Bool) :
    (plan.final finalizes).key = plan.entry.key := by
  have left : (left plan.entry plan.ended).key = plan.entry.key := by
    unfold left
    split
    · exact plan.passed.key_eq
    · rfl
  unfold Plan.final Trainer.closedAt
  split <;> exact left

/-- There is a plan for every variable. -/
theorem exists_plans
    (batch : Batch σ)
    (unbound : ∀ program, batch.program = .ok program -> program.Unbound)
    (entries : List Variable) :
    ∃ plans : List batch.Plan, plans.map (·.entry) = entries := by
  induction entries with
  | nil => exact ⟨[], rfl⟩
  | cons entry entries inductionHypothesis =>
      obtain ⟨plans, rfl⟩ := inductionHypothesis
      obtain ⟨count, ended, fits, determined, passed⟩ :=
        batch.optimizer.exists_determined batch.answers
          batch.reward entry unbound
      exact ⟨⟨entry, count, ended, determined, passed, fits⟩ :: plans, rfl⟩

/-- Over variables whose locks are free, all passes are still to come. -/
theorem exists_allWait
    (unbound : ∀ program, batch.program = .ok program -> program.Unbound)
    (ready : batch.Ready world)
    (distinct : (world.stores batch.store).keys.Nodup)
    (free : ∀ key ∈ (world.stores batch.store).keys,
      (world.stores batch.store).IsFree key) :
    ∃ plans : List batch.Plan,
      plans.map (·.entry) = (world.stores batch.store).entries ∧
      batch.AllWait plans world := by
  obtain ⟨plans, planned⟩ :=
    batch.exists_plans unbound (world.stores batch.store).entries
  refine ⟨plans, planned, ready, ?_, fun plan among => ?_⟩
  · rw [Store.keys, ← planned, List.map_map]
    rfl
  · have listed : plan.entry ∈ (world.stores batch.store).entries :=
      planned ▸ List.mem_map_of_mem among
    exact ⟨Store.find?_of_mem distinct listed,
      free _ (List.mem_map_of_mem listed)⟩

/-- The end of an epoch makes the variables what the passes leave of them. -/
theorem Settled.run_close
    (settled : batch.Settled plans world)
    (distinct : (plans.map (·.entry.key)).Nodup)
    (timeout : Nat)
    (finalizes : Bool)
    (owner : Owner)
    (limit : Nat) :
    ∃ closed,
      ((batch.trainer timeout finalizes).close (plans.map (·.entry.key))).run
        batch.host owner limit
        world = (some (), closed) ∧
      closed.clock = world.clock ∧ batch.Ready closed ∧
      (∀ plan ∈ plans, (closed.stores batch.store).IsFree plan.entry.key) ∧
      (closed.stores batch.store).contents = plans.map (·.final finalizes) := by
  have free :
      ∀ key ∈ plans.map (·.entry.key),
        (world.stores batch.store).IsFree key := by
    rw [List.forall_mem_map]
    exact settled.free
  have stored : ∀ key ∈ plans.map (·.entry.key), ∃ entry,
      (world.stores batch.store).find? key = some entry := by
    rw [List.forall_mem_map]
    intro plan planned
    obtain ⟨final, found, _⟩ := settled.leaves plan planned
    exact ⟨final, found⟩
  obtain ⟨closed, closes, touched, freed, finals⟩ :=
    (batch.trainer timeout finalizes).run_close
      batch.host owner limit distinct free stored
  refine ⟨closed, closes, touched.clock,
    settled.ready.of_programs_eq touched.programs,
    fun plan planned => freed _ (List.mem_map_of_mem planned),
    Store.contents_eq_map distinct (touched.store.keys.trans settled.keys) ?_⟩
  intro plan planned
  obtain ⟨final, found, same⟩ := settled.leaves plan planned
  refine ⟨_, finals _ (List.mem_map_of_mem planned) final found, ?_⟩
  rw [Variable.eq_of_undated_eq same]
  unfold Plan.final Trainer.closedAt
  split <;> rfl

/-- A pass that reports nothing but its result. -/
def Plan.alone (plan : batch.Plan) (owner : Owner) :
    batch.Job (Except OptimizationError OptimizeReport) where
  toPlan := plan
  owner := owner
  next := .done
  answer := id
  tells _ := ⟨0, Nat.zero_le 1, .done⟩

/-- A pass alone comes to its result in time. -/
theorem Plan.Waits.run
    {plan : batch.Plan}
    (waits : plan.Waits world)
    (ready : batch.Ready world)
    (within : world.clock + plan.count * batch.pace ≤ limit)
    (owner : Owner) :
    ∃ after,
      (batch.optimizer.optimizeStored batch.store plan.entry.key
        batch.reward).run batch.host owner limit
        world = (some plan.ended.1, after) ∧
      plan.Ends owner world after ∧
      after.clock ≤ world.clock + plan.count * batch.pace := by
  have stands :
      (plan.alone owner).Stands world plan.count 6 (plan.alone owner).body :=
    .begun waits
  obtain ⟨after, ran, ends, inTime⟩ := stands.run ready within
  have whole : (plan.alone owner).body =
    batch.optimizer.optimizeStored batch.store plan.entry.key batch.reward :=
    Activity.bind_pure _
  rw [whole] at ran
  exact ⟨after, ran, ends, inTime⟩

/-- One after another, all passes come to their results in time. -/
theorem run_optimizeEach
    (ready : batch.Ready world)
    (waits : ∀ plan ∈ plans, plan.Waits world)
    (distinct : (plans.map (·.entry.key)).Nodup)
    (inTime : ∀ plan ∈ plans, plan.count * batch.pace ≤ timeout)
    (within : world.clock + plans.length * timeout ≤ limit)
    (owner : Owner) :
    ∃ after,
      ((batch.trainer timeout finalizes).optimizeEach batch.reward
        (plans.map (·.entry.key))).run batch.host owner limit world =
          (some (plans.map (·.ended.1)), after) ∧
      (world.stores batch.store).Touches
        (plans.map fun plan => (plan.entry.key, owner))
        (after.stores batch.store) ∧
      batch.Ready after ∧
      ∀ plan ∈ plans,
        (after.stores batch.store).IsFree plan.entry.key ∧
        plan.Leaves after := by
  induction plans generalizing world with
  | nil => exact ⟨world, rfl, .refl _ _, ready, List.forall_mem_nil _⟩
  | cons plan plans inductionHypothesis =>
      obtain ⟨fresh, distinct⟩ := List.nodup_cons.mp distinct
      obtain ⟨waitsFirst, waits⟩ := List.forall_mem_cons.mp waits
      obtain ⟨inTimeFirst, inTime⟩ := List.forall_mem_cons.mp inTime
      rw [List.length_cons, Nat.succ_mul] at within
      have soon : world.clock + plan.count * batch.pace ≤ limit := by omega
      obtain ⟨between, ran, ends, soon⟩ := waitsFirst.run ready soon owner
      have aside (other : batch.Plan) (listed : other ∈ plans) :
          other.entry.key ∉ [(plan.entry.key, owner)].map (·.1) := by
        rw [List.map_singleton, List.mem_singleton]
        intro same
        exact fresh (List.mem_map.mpr ⟨other, listed, same⟩)
      obtain ⟨after, ranRest, touched, readyAfter, left⟩ :=
        inductionHypothesis ends.ready
          (fun other listed =>
            ⟨(ends.store.found _ (aside other listed)).trans
              (waits other listed).found,
              ends.store.free _ (aside other listed) (waits other listed).free⟩)
          distinct inTime (by omega)
      have outside :
          plan.entry.key ∉
            (plans.map fun plan => (plan.entry.key, owner)).map (·.1) := by
        rw [List.map_map]
        exact fresh
      refine ⟨after, ?_,
        (ends.store.mono (by simp)).trans (touched.mono (by simp)), readyAfter,
        List.forall_mem_cons.mpr ⟨⟨touched.free _ outside ends.free,
          ends.leaves.of_find?_eq (touched.found _ outside)⟩, left⟩⟩
      exact (Activity.run_bind_of_run batch.host owner limit ran _).trans
        (Activity.run_bind_of_run batch.host owner limit ranRest _)

/-- One after another, the passes of an epoch come to their results and leave
what they leave. -/
theorem AllWait.run_optimizeInOrder
    (waits : batch.AllWait plans world)
    (distinct : (plans.map (·.entry.key)).Nodup)
    (inTime : ∀ plan ∈ plans, plan.count * batch.pace ≤ timeout)
    (within : world.clock + plans.length * timeout ≤ limit)
    (owner : Owner) :
    ∃ final,
      ((batch.trainer timeout finalizes).optimizeInOrder batch.reward
        (plans.map (·.entry.key))).run batch.host owner limit world =
          (some (plans.map (·.ended.1)), final) ∧
      (final.stores batch.store).contents = plans.map (·.final finalizes) := by
  obtain ⟨after, ran, touched, ready, left⟩ :=
    run_optimizeEach waits.ready waits.waits distinct inTime within owner
  have settled : batch.Settled plans after :=
    ⟨ready, touched.keys.trans waits.keys,
      fun plan planned => (left plan planned).1,
      fun plan planned => (left plan planned).2⟩
  obtain ⟨closed, closes, _, _, _, contents⟩ :=
    settled.run_close distinct timeout finalizes owner limit
  refine ⟨closed, ?_, contents⟩
  exact (Activity.run_bind_of_run batch.host owner limit ran _).trans
    (Activity.run_bind_of_run batch.host owner limit closes _)

variable {trainer : Trainer} {number : Nat}

/-- A pass that tells observers of its outcome, as the passes of an epoch do. -/
def Plan.reporting (plan : batch.Plan) (trainer : Trainer)
    (number index : Nat) :
    batch.Job Outcome where
  toPlan := plan
  owner := Run.firstTask + index
  next result :=
    (trainer.passTask 0 number batch.reward plan.entry.key index).finish
      (some result)
  answer result := .ofPass trainer.timeout (some result)
  tells result := by
    simp only [Trainer.passTask]
    cases (Outcome.ofPass trainer.timeout (some result)).event? number
      plan.entry.key with
    | none => exact ⟨0, Nat.zero_le 1, .done⟩
    | some event => exact ⟨1, Nat.le_refl 1, .notify .done⟩

/-- The passes of an epoch, each on behalf of its own task. -/
def reporting (plans : List batch.Plan) (trainer : Trainer) (number : Nat) :
    List (batch.Job Outcome) :=
  plans.zipIdx.map fun item => item.1.reporting trainer number item.2

theorem map_toPlan_reporting (plans : List batch.Plan) (trainer : Trainer)
    (number : Nat) :
    (reporting plans trainer number).map (·.toPlan) = plans := by
  rw [reporting, List.map_map]
  exact List.zipIdx_map_fst 0 plans

theorem map_outcome_reporting (plans : List batch.Plan) (trainer : Trainer)
    (number : Nat) :
    (reporting plans trainer number).map (·.outcome) =
      plans.map fun plan => .ofPass trainer.timeout (some plan.ended.1) := by
  conv_rhs => rw [← List.zipIdx_map_fst 0 plans]
  rw [reporting, List.map_map, List.map_map]
  rfl

theorem apart_reporting (distinct : (plans.map (·.entry.key)).Nodup) :
    (reporting plans trainer number).Pairwise Job.Apart := by
  rw [reporting, List.pairwise_map]
  refine (pairwise_zipIdx distinct 0).imp ?_
  rintro ⟨first, index⟩ ⟨second, place⟩ ⟨keys, places⟩
  exact ⟨keys, fun same => places (Nat.add_left_cancel same)⟩

/-- The tasks of an epoch are the passes over its variables. -/
theorem tasks_eq
    (plans : List batch.Plan)
    (timeout : Nat)
    (finalizes : Bool)
    (clock number : Nat) :
    ((plans.map (·.entry.key)).zipIdx.map fun item =>
        (batch.trainer timeout finalizes).passTask clock number batch.reward
          item.1 item.2) =
      (reporting plans (batch.trainer timeout finalizes) number).map
        (·.task (clock + timeout) fun key =>
          ((batch.trainer timeout finalizes).passTask 0 number
            batch.reward key 0).finish none) := by
  rw [reporting, List.zipIdx_map, List.map_map, List.map_map]
  refine List.map_congr_left fun item _ => ?_
  have finish (result : Option (Except OptimizationError OptimizeReport)) :
      ((batch.trainer timeout finalizes).passTask clock number batch.reward
        item.1.entry.key item.2).finish
        result =
      ((item.1.reporting (batch.trainer timeout finalizes) number item.2).task
        (clock + timeout)
        fun key =>
        ((batch.trainer timeout finalizes).passTask 0 number batch.reward key
          0).finish none).finish result := by
    cases result <;> rfl
  exact congrArg (Task.mk _ _ _) (funext finish)

/-- An epoch comes to what its passes come to, and leaves what they leave. -/
theorem AllWait.runEpoch
    (waits : batch.AllWait plans world)
    (valid : isValidReward batch.reward = true)
    (distinct : (plans.map (·.entry.key)).Nodup)
    (inTime : ∀ plan ∈ plans, plan.count * batch.pace ≤ timeout)
    (questions : Optimizer.questionsOf batch.program ≤
      (batch.trainer timeout finalizes).questionCount world)
    (within : world.clock + timeout ≤ limit)
    (number : Nat) :
    ∃ after,
      ((batch.trainer timeout finalizes).runEpoch batch.host limit number
        batch.reward).run.run
        world =
          (some (.ok ⟨number, batch.reward, (plans.map (·.entry.key)).zip
            (plans.map fun plan => .ofPass timeout (some plan.ended.1))⟩),
            after) ∧
      after.clock ≤ world.clock + timeout ∧ batch.Ready after ∧
      (∀ plan ∈ plans, (after.stores batch.store).IsFree plan.entry.key) ∧
      (after.stores batch.store).contents = plans.map (·.final finalizes) := by
  set trainer := batch.trainer timeout finalizes
  set begun := world.told (EpochReport.beginEvent number batch.reward)
  have waitsReporting :
      batch.AllWait ((reporting plans trainer number).map (·.toPlan))
        begun := by
    rw [map_toPlan_reporting]
    exact ⟨waits.ready.of_programs_eq rfl,
      waits.keys, fun plan planned => ⟨(waits.waits plan planned).found,
        (waits.waits plan planned).free⟩⟩
  have soon : ∀ job ∈ reporting plans trainer number,
      begun.clock + job.count * batch.pace ≤ world.clock + timeout := by
    intro job among
    have := inTime job.toPlan (map_toPlan_reporting plans trainer number ▸
      List.mem_map_of_mem among)
    exact Nat.add_le_add_left this _
  have counted : trainer.questionCount begun = trainer.questionCount world :=
    rfl
  have enough :
      Optimizer.questionsOf batch.program ≤
        trainer.questionCount begun + 2 := by omega
  obtain ⟨passed, ran, _, until', settled⟩ := runAll_cohort
    (fun key => (trainer.passTask 0 number batch.reward key 0).finish none)
    waitsReporting (apart_reporting distinct)
    soon within enough
  rw [map_toPlan_reporting] at settled
  rw [map_outcome_reporting, ← tasks_eq] at ran
  obtain ⟨closed, closes, clock, ready, free, contents⟩ :=
    settled.run_close distinct timeout finalizes Run.foreground limit
  have ended : closed.clock ≤ world.clock + timeout := by
    rw [clock]
    exact Nat.le_trans until'
      (Nat.max_le.mpr ⟨Nat.le_add_right _ _, Nat.le_refl _⟩)
  rw [← waits.keys] at ran closes ⊢
  exact ⟨_,
    (Trainer.runEpoch_eq_some_iff valid).mpr
      ⟨_, passed, closed, ran, closes, rfl, rfl⟩,
    ended, ready.of_programs_eq rfl, free, contents⟩

/-- The tasks of an epoch begin as a crew. -/
theorem ofTasks_eq
    (plans : List batch.Plan)
    (timeout : Nat)
    (finalizes : Bool)
    (clock number : Nat)
    (world : World σ) :
    Crew.ofTasks ((plans.map (·.entry.key)).zipIdx.map fun item =>
        (batch.trainer timeout finalizes).passTask clock number
          batch.reward item.1 item.2) world =
      ⟨world,
        (reporting plans (batch.trainer timeout finalizes)
          number).map fun job =>
          (job.owner, .active job.body)⟩ := by
  rw [tasks_eq, Crew.ofTasks, List.map_map]
  rfl

/-- In any order, the passes of an epoch come to the same and leave the same. -/
theorem AllWait.run_crew
    (waits : batch.AllWait plans world)
    (distinct : (plans.map (·.entry.key)).Nodup)
    (timeout : Nat)
    (finalizes : Bool)
    (number limit : Nat)
    (turns : List Crew.Turn) :
    let crew := (Crew.ofTasks ((plans.map (·.entry.key)).zipIdx.map fun item =>
      (batch.trainer timeout finalizes).passTask world.clock number
        batch.reward item.1 item.2)
        world).run batch.host turns
    ((∀ index < plans.length,
        Optimizer.questionsOf batch.program + 6 ≤
          turns.count (.member index)) ->
      ∃ outcomes, crew.outcomes? = some outcomes) ∧
    ∀ outcomes, crew.outcomes? = some outcomes ->
      outcomes = plans.map (fun plan => .ofPass timeout (some plan.ended.1)) ∧
      ∃ closed,
        ((batch.trainer timeout finalizes).close (plans.map (·.entry.key))).run
          batch.host Run.foreground
          limit crew.world = (some (), closed) ∧
        (closed.stores batch.store).contents =
          plans.map (·.final finalizes) := by
  rw [ofTasks_eq]
  set trainer := batch.trainer timeout finalizes
  set jobs := reporting plans trainer number with reports
  have waitsReporting : batch.AllWait (jobs.map (·.toPlan)) world := by
    rw [reports, map_toPlan_reporting]
    exact waits
  have stand :=
    (AllStand.begin waitsReporting).run (apart_reporting distinct) turns
  refine ⟨fun fair => ⟨_, stand.outcomes?_eq_some fun index listed => ?_⟩,
    fun outcomes done => ?_⟩
  · have size : jobs.length = plans.length := by
      rw [← map_toPlan_reporting plans trainer number, List.length_map]
    have := fair index (size ▸ listed)
    omega
  · obtain ⟨came, settled⟩ := stand.of_outcomes? done
    rw [map_toPlan_reporting] at settled
    rw [map_outcome_reporting] at came
    obtain ⟨closed, closes, _, _, _, contents⟩ :=
      settled.run_close distinct timeout finalizes Run.foreground limit
    exact ⟨came, closed, closes, contents⟩

end Batch

namespace Trainer

/-- The optimizer finds a program that reads no variables: its own, or one that
was supplied. -/
theorem unbound_of_useProgram
    {optimizer : Optimizer}
    {world : World σ}
    (supplied : ∀ program,
      world.programs optimizer.id = some program -> program.Unbound)
    {program : Module}
    (found : (world.useProgram optimizer).1 = .ok program) :
    program.Unbound := by
  unfold World.useProgram at found
  cases present : world.programs optimizer.id with
  | some known =>
      rw [present] at found
      obtain rfl := Except.ok.inj found
      exact supplied known present
  | none =>
      rw [present] at found
      cases built : optimizer.buildProgram with
      | error cause => simp [built] at found
      | ok own =>
          simp only [built, Except.ok.injEq] at found
          subst found
          exact (Optimizer.unbound_of_buildProgram built).1

/-- A pass asks no more questions than the trainer expects. -/
theorem questionsOf_useProgram_le (trainer : Trainer) (world : World σ) :
    Optimizer.questionsOf (world.useProgram trainer.optimizer).1 ≤
      trainer.questionCount world := by
  unfold World.useProgram questionCount
  cases world.programs trainer.optimizer.id with
  | some program => exact Nat.le_refl _
  | none =>
      cases built : trainer.optimizer.buildProgram with
      | error cause => exact Nat.zero_le _
      | ok program =>
          exact Nat.le_of_eq (Optimizer.unbound_of_buildProgram built).2

/-- The passes of an epoch may take their steps in any order. Where the answers
of the language models depend on the request alone and are there in time,
whatever turns the passes take, each has the outcome that it has when the passes
run one after another, the store contains the same once the epoch has ended, and
the passes that get enough turns are all done. A supplied program that reads
variables would see what other passes commit, so it may have none. -/
theorem epoch_independent_of_order
    (trainer : Trainer)
    (host : ModelHost σ)
    (limit number : Nat)
    (reward : Double)
    (world : World σ)
    (answers : Answers)
    (pace : Nat)
    (valid : isValidReward reward = true)
    (distinct : (world.stores trainer.store).keys.Nodup)
    (unlocked : (world.stores trainer.store).Unlocked)
    (supplied : ∀ program,
      world.programs trainer.optimizer.id = some program -> program.Unbound)
    (answered : ∀ model request state,
      (host.handle model request state).1 = answers model request)
    (paced : ∀ model request state, host.wait state model request ≤ pace)
    (inTime : trainer.questionCount world * pace ≤ trainer.timeout)
    (within : world.clock +
      ((world.stores trainer.store).keys.length + 1) * trainer.timeout ≤
      limit) :
    let keys := (world.stores trainer.store).keys
    let tasks := keys.zipIdx.map fun item =>
      trainer.passTask world.clock number reward item.1 item.2
    ∃ results final,
      (trainer.optimizeInOrder reward keys).run host
        Run.foreground limit world =
        (some results, final) ∧
      (∃ after,
        (trainer.runEpoch host limit number reward).run.run world =
          (some (.ok ⟨number, reward,
            keys.zip
              (results.map fun result =>
                .ofPass trainer.timeout (some result))⟩), after) ∧
        (after.stores trainer.store).contents =
          (final.stores trainer.store).contents) ∧
      ∀ turns : List Crew.Turn,
        let crew := (Crew.ofTasks tasks world).run host turns
        ((∀ index < keys.length,
            trainer.questionCount world + 6 ≤ turns.count (.member index)) ->
          ∃ outcomes, crew.outcomes? = some outcomes) ∧
        ∀ outcomes, crew.outcomes? = some outcomes ->
          outcomes =
            results.map (fun result => .ofPass trainer.timeout (some result)) ∧
          ∃ closed,
            (trainer.close keys).run host Run.foreground limit crew.world =
              (some (), closed) ∧
            (closed.stores trainer.store).contents =
              (final.stores trainer.store).contents := by
  intro keys tasks
  let batch : Batch σ := ⟨host, trainer.store, trainer.optimizer,
    (world.useProgram trainer.optimizer).1, reward, answers, pace,
    answered, paced⟩
  obtain ⟨plans, _, waits⟩ := @Batch.exists_allWait σ batch world
    (fun _ found => unbound_of_useProgram supplied found) rfl distinct
    fun key _ lock found => unlocked lock (List.mem_of_find?_eq_some found)
  have named : keys = plans.map (·.entry.key) := waits.keys
  have questions := trainer.questionsOf_useProgram_le world
  have soon (plan : batch.Plan) (_ : plan ∈ plans) :
      plan.count * pace ≤ trainer.timeout :=
    Nat.le_trans (Nat.mul_le_mul_right pace (Nat.le_trans plan.fits questions))
      inTime
  have size : keys.length = plans.length := by rw [named, List.length_map]
  rw [show (world.stores trainer.store).keys.length = plans.length from size,
    Nat.succ_mul] at within
  have distinct : (plans.map (·.entry.key)).Nodup := named ▸ distinct
  have began : tasks = (plans.map (·.entry.key)).zipIdx.map fun item =>
      trainer.passTask world.clock number reward item.1 item.2 := by
    rw [← named]
  rw [began, named, List.length_map]
  have serial : world.clock + plans.length * trainer.timeout ≤ limit := by omega
  have once : world.clock + trainer.timeout ≤ limit := by omega
  obtain ⟨final, ran, contents⟩ :=
    waits.run_optimizeInOrder distinct soon serial Run.foreground
  obtain ⟨after, went, _, _, _, same⟩ :=
    waits.runEpoch valid distinct soon questions once number
  refine ⟨plans.map (·.ended.1), final, ran,
    ⟨after, ?_, same.trans contents.symm⟩, fun turns => ?_⟩
  · rw [List.map_map]
    exact went
  · obtain ⟨live, safe⟩ :=
      waits.run_crew distinct trainer.timeout trainer.finalizeOnEpochEnd number
        limit turns
    refine ⟨fun fair => live fun index listed => ?_, fun outcomes done => ?_⟩
    · exact Nat.le_trans (Nat.add_le_add_right questions 6) (fair index listed)
    · obtain ⟨came, closed, closes, sameClosed⟩ := safe outcomes done
      rw [List.map_map]
      exact ⟨came, closed, closes, sameClosed.trans contents.symm⟩

/-- Three variables, of which one has nothing to score, one gets new
instructions and one an error, while the program has still to be built. -/
theorem epoch_independent_of_order_of_each_reply :
    let trainer : Trainer :=
      ⟨.standard 0 (some (.scripted "writer")), 0, 60000, true⟩
    let shown (request : GenerationRequest) : Nat :=
      (((request.input.field? "predictions").bind Json.asArray?).getD []).length
    let answer : Value :=
      ⟨Optimizer.answerSchema, [("instructions", .ofStrings ["be brief"])]⟩
    let answers : Answers := fun _ request =>
      if shown request = 1 then .ok answer else .error (.response "busy")
    let host : ModelHost Unit :=
      { delay := fun _ _ => 10
        handle := fun model request state => (answers model request, state) }
    let unscored (key : String) (count : Nat) : Variable :=
      { Variable.create key default with
        phase := .idle
        predictions := List.replicate count (.unscored [] [])
        instructions := some (.ofLines ["be helpful"]) }
    let entries := [unscored "scored" 0, unscored "good" 1, unscored "bad" 3]
    let world : World Unit :=
      ⟨fun _ => ⟨3, entries, [], false, by decide⟩, fun _ => none, (),
        ⟨[], []⟩, 0, default⟩
    let half : Double := .ofDecimal false 5 (-1)
    let keys := ["scored", "good", "bad"]
    let tasks :=
      keys.zipIdx.map fun item => trainer.passTask 0 0 half item.1 item.2
    isValidReward half = true ∧
    (world.stores trainer.store).keys.Nodup ∧
    (world.stores trainer.store).Unlocked ∧
    (∀ program,
      world.programs trainer.optimizer.id = some program -> program.Unbound) ∧
    (∀ model request state,
      (host.handle model request state).1 = answers model request) ∧
    (∀ model request state, host.wait state model request ≤ 10) ∧
    trainer.questionCount world * 10 ≤ trainer.timeout ∧
    world.clock +
      ((world.stores trainer.store).keys.length + 1) * trainer.timeout ≤
      240000 ∧
    ∃ final,
      (trainer.optimizeInOrder half keys).run host Run.foreground 240000 world =
        (some [.ok ⟨0, false⟩, .ok ⟨1, true⟩,
          .error (.generation "language model error: response error: busy")],
          final) ∧
      (∃ after,
        (trainer.runEpoch host 240000 0 half).run.run world =
          (some (.ok ⟨0, half, [("scored", .noop), ("good", .optimized 1),
            ("bad",
              .failed
                "generation failed: language model error: response error: busy")]⟩),
            after) ∧
        (after.stores trainer.store).contents =
          (final.stores trainer.store).contents) ∧
      ∀ turns : List Crew.Turn,
        let crew := (Crew.ofTasks tasks world).run host turns
        ((∀ index < 3, 7 ≤ turns.count (.member index)) ->
          ∃ outcomes, crew.outcomes? = some outcomes) ∧
        ∀ outcomes, crew.outcomes? = some outcomes ->
          outcomes = [.noop, .optimized 1,
            .failed
              "generation failed: language model error: response error: busy"] ∧
          ∃ closed,
            (trainer.close keys).run host Run.foreground 240000 crew.world =
              (some (), closed) ∧
            (closed.stores trainer.store).contents =
              (final.stores trainer.store).contents := by
  intro trainer shown answer answers host unscored entries world half keys tasks
  have valid : isValidReward half = true := by decide +kernel
  have distinct : (world.stores trainer.store).keys.Nodup := by decide +kernel
  have unlocked : (world.stores trainer.store).Unlocked := nofun
  have supplied :
      ∀ program, world.programs trainer.optimizer.id = some program ->
        program.Unbound := nofun
  have answered : ∀ model request state,
      (host.handle model request state).1 =
        answers model request := fun _ _ _ => rfl
  have paced : ∀ model request state, host.wait state model request ≤ 10 :=
    fun _ _ _ => Nat.le_refl 10
  have inTime : trainer.questionCount world * 10 ≤ trainer.timeout := by
    decide +kernel
  have within :
      world.clock +
      ((world.stores trainer.store).keys.length + 1) * trainer.timeout ≤
        240000 := by decide +kernel
  have came :
      ((trainer.optimizeInOrder half keys).run host Run.foreground
        240000 world).1 =
        some [.ok ⟨0, false⟩, .ok ⟨1, true⟩,
          .error
            (.generation "language model error: response error: busy")] := by
    decide +kernel
  refine ⟨valid, distinct, unlocked, supplied, answered, paced,
    inTime, within, ?_⟩
  obtain ⟨results, final, ran, epoch, turns⟩ :=
    epoch_independent_of_order trainer host 240000 0 half world answers 10 valid
      distinct unlocked supplied
      answered paced inTime within
  obtain rfl := Option.some.inj ((congrArg (·.1) ran).symm.trans came)
  exact ⟨final, ran, epoch, turns⟩

/-- A supplied program may read variables of the store, and then the order
matters. The generator here is bound to the store: both passes ask before the
first one commits, so the second asks with the old instructions and is answered
otherwise than it would be after the first. -/
theorem epoch_depends_on_order_of_bound_program :
    let trainer : Trainer := ⟨.standard 0 none, 0, 60000, true⟩
    let writer : Generator :=
      { Generator.create "writer" Optimizer.answerSchema
        (.scripted "writer") with store := some 0 }
    let answer (line : String) : Value :=
      ⟨Optimizer.answerSchema, [("instructions", .ofStrings [line])]⟩
    let answers : Answers := fun _ request =>
      .ok (answer
        (if request.instructions = ["be plain"] then "be brief"
          else "be exact"))
    let host : ModelHost Unit :=
      { delay := fun _ _ => 10
        handle := fun model request state => (answers model request, state) }
    let entry (key line : String) : Variable :=
      { Variable.create key default with
        phase := .idle
        predictions := [.unscored [] []]
        instructions := some (.ofLines [line]) }
    let entries := [entry "writer" "be plain", entry "qa" "be helpful"]
    let world : World Unit :=
      ⟨fun _ => ⟨2, entries, [], false, by decide⟩,
        fun _ => some (.generator writer), (),
        ⟨[], []⟩, 0, default⟩
    let half : Double := .ofDecimal false 5 (-1)
    let keys := ["writer", "qa"]
    let lines (world : World Unit) : Option (List String) :=
      (((world.stores trainer.store).find? "qa").bind (·.instructions)).map
        (·.instructions)
    isValidReward half = true ∧
      (world.stores trainer.store).keys = keys ∧
      (world.stores trainer.store).Unlocked ∧
      (∀ model request state,
        (host.handle model request state).1 = answers model request) ∧
      (∀ model request state, host.wait state model request ≤ 10) ∧
      trainer.questionCount world * 10 ≤ trainer.timeout ∧
      world.clock + (keys.length + 1) * trainer.timeout ≤ 180000 ∧
      ∃ final report after,
        (trainer.optimizeInOrder half keys).run host
          Run.foreground 180000 world =
          (some [.ok ⟨1, true⟩, .ok ⟨1, true⟩], final) ∧
        (trainer.runEpoch host 180000 0 half).run.run world =
          (some (.ok report), after) ∧
        lines final = some ["be exact"] ∧
        lines after = some ["be brief"] ∧
        (after.stores trainer.store).contents ≠
          (final.stores trainer.store).contents := by
  intro trainer writer answer answers host entry entries world half keys lines
  have valid : isValidReward half = true := by decide +kernel
  have inTime : trainer.questionCount world * 10 ≤ trainer.timeout := by
    decide +kernel
  have within : world.clock + (keys.length + 1) * trainer.timeout ≤ 180000 := by
    decide +kernel
  have orderedResults :
      ((trainer.optimizeInOrder half keys).run host Run.foreground 180000
        world).1 = some [.ok ⟨1, true⟩, .ok ⟨1, true⟩] := by decide +kernel
  have orderedLines :
      lines ((trainer.optimizeInOrder half keys).run host Run.foreground 180000
        world).2 = some ["be exact"] := by decide +kernel
  have epochEnded :
      (((trainer.runEpoch host 180000 0 half).run.run world).1.bind
        Except.toOption).isSome = true := by decide +kernel
  have epochLines :
      lines ((trainer.runEpoch host 180000 0 half).run.run world).2 =
        some ["be brief"] := by decide +kernel
  have shown (world : World Unit) : lines world =
      ((((world.stores trainer.store).find? "qa").map Variable.undated).bind
        (·.instructions)).map (·.instructions) := by
    change ((((world.stores trainer.store).find? "qa").bind _).map _) = _
    cases (world.stores trainer.store).find? "qa" <;> rfl
  obtain ⟨report, came⟩ : ∃ report,
      ((trainer.runEpoch host 180000 0 half).run.run world).1 =
        some (.ok report) := by
    revert epochEnded
    cases ((trainer.runEpoch host 180000 0 half).run.run world).1 with
    | none => nofun
    | some outcome =>
        cases outcome with
        | error cause => nofun
        | ok report => exact fun _ => ⟨report, rfl⟩
  have paired {α β : Type} {pair : α × β} {first : α} (came : pair.1 = first) :
      pair = (first, pair.2) := by rw [← came]
  refine ⟨valid, rfl, nofun, fun _ _ _ => rfl,
    fun _ _ _ => Nat.le_refl 10, inTime,
    within, _, report, _, paired orderedResults, paired came, orderedLines,
    epochLines, fun same => ?_⟩
  have agree := shown ((trainer.runEpoch host 180000 0 half).run.run world).2
  rw [Store.find?_undated_eq same "qa", ← shown, orderedLines,
    epochLines] at agree
  exact absurd agree (by decide)

end Trainer
end PromptTuning
