import PromptTuning.Proofs.Trainer.Passes

/-!
# Passes side by side

The passes of an epoch run as tasks on one key each, and none touches what
another one works on. So they keep apart, and no pass is left at the end.
-/

namespace PromptTuning

variable {σ : Type}

/-- Who works on another key leaves the key of a task and its owner out. -/
theorem Run.not_mem_work
    {key other : String}
    {index place : Nat}
    (keys : other ≠ key)
    (places : place ≠ index) :
    key ∉ [(other, firstTask + place)].map (·.1) ∧
      firstTask + index ∉ [(other, firstTask + place)].map (·.2) := by
  simp only [List.map_singleton, List.mem_singleton]
  exact ⟨fun same => keys same.symm,
    fun same => places (Nat.add_left_cancel same).symm⟩

namespace Epoch

variable {epoch : Epoch σ} {world after : World σ} {item other : Variable × Nat}
  {items : List (Variable × Nat)} {limit : Nat}

/-- No two passes have a key or an owner in common. -/
def Apart (items : List (Variable × Nat)) : Prop :=
  items.Pairwise fun first second =>
    first.1.key ≠ second.1.key ∧ first.2 ≠ second.2

/-- All passes have ended, with an outcome each. -/
def AllEnded (epoch : Epoch σ) (world : World σ) :
    List (Variable × Nat) -> List Outcome -> Prop :=
  List.Forall₂ fun item outcome => ∃ final, epoch.Lets world item final ∧
    epoch.Passed world.models item.1 outcome final

/-- A pass can begin on a variable whose lock is free. -/
structure Begins (epoch : Epoch σ) (world : World σ) (item : Variable × Nat) :
    Prop where
  ready : world.programs epoch.trainer.optimizer.id = some epoch.program
  starts : world.clock = epoch.start
  reached : epoch.host.Reaches epoch.initial world.models
  lets : epoch.Lets world item item.1
  built : item.1.phase ≠ .unbuilt

theorem not_mem_work (keys : other.1.key ≠ item.1.key)
    (owners : other.2 ≠ item.2) :
    item.1.key ∉ [work other].map (·.1) ∧
    (work item).2 ∉ [work other].map (·.2) :=
  Run.not_mem_work keys owners

theorem Begins.of_touches
    (begins : epoch.Begins world item)
    (touched : world.Touches epoch.host epoch.trainer.store [work other] after)
    (keys : other.1.key ≠ item.1.key)
    (owners : other.2 ≠ item.2) :
    epoch.Begins after item where
  ready := touched.programs ▸ begins.ready
  starts := touched.clock.trans begins.starts
  reached := begins.reached.trans touched.models
  lets :=
    have outside := (not_mem_work keys owners).1
    ⟨(touched.store.found _ outside).trans begins.lets.found,
      touched.store.free _ outside begins.lets.free⟩
  built := begins.built

/-- The passes of an epoch as tasks that keep apart. -/
def cohort (epoch : Epoch σ) :
    Cohort σ (Variable × Nat) (Except OptimizationError OptimizeReport)
      Outcome where
  host := epoch.host
  task := epoch.task
  deadline := epoch.deadline
  Begins := epoch.Begins
  Stands := epoch.Stands
  Touches item before
    after := before.Touches epoch.host epoch.trainer.store [work item] after
  Apart first second := first.1.key ≠ second.1.key ∧ first.2 ≠ second.2
  apart_symm apart := ⟨apart.1.symm, apart.2.symm⟩
  clock_eq touched := touched.clock
  begins_aside begins touched apart := begins.of_touches touched apart.1 apart.2
  stands_aside stands touched apart :=
    let ⟨key, owner⟩ := not_mem_work apart.1 apart.2
    stands.of_touches touched key owner
  atClock stands early := stands.atClock early
  ended_or_nextDue stands :=
    stands.ended_or_nextDue.imp_left fun ⟨outcome, _, ended, _⟩ =>
      ⟨outcome, ended⟩
  wake stands due := stands.wake due

/-- A pass is woken for its answers alone. -/
theorem startsWithin_cohort (valid : isValidReward epoch.reward = true) :
    epoch.cohort.StartsWithin epoch.program.questionCount :=
  fun begins =>
    start_task valid begins.ready begins.starts begins.reached
      begins.lets begins.built

/-- The passes over variables whose locks are free have all ended before the
limit, with an outcome each. -/
theorem runAll
    (valid : isValidReward epoch.reward = true)
    (begins : ∀ item ∈ items, epoch.Begins world item)
    (apart : Apart items)
    (within : epoch.deadline ≤ limit) :
    ∃ outcomes after,
      Task.runAll epoch.host limit epoch.program.questionCount
        (items.map epoch.task) world =
        (some outcomes, after) ∧
      (after.stores epoch.trainer.store).keys =
        (world.stores epoch.trainer.store).keys ∧
      epoch.AllEnded after items outcomes := by
  obtain ⟨outcomes, after, ran, _, _, keeps, ended⟩ :=
    Cohort.runAll (startsWithin_cohort valid) begins apart within
      (Nat.le_add_right _ 2)
  have keys :
      (after.stores epoch.trainer.store).keys =
        (world.stores epoch.trainer.store).keys :=
    keeps (fun later =>
        (later.stores epoch.trainer.store).keys =
          (world.stores epoch.trainer.store).keys)
      ⟨fun touched same => touched.store.keys.trans same, fun _ same => same⟩
      rfl
  refine ⟨outcomes, after, ran, keys, ended.imp fun item outcome stands => ?_⟩
  obtain ⟨_, running, stands, own⟩ := stands
  have stands : epoch.Stands after item _ running := stands
  obtain ⟨_, final, ended, lets, passed⟩ | ⟨_, open', _⟩ :=
    stands.ended_or_nextDue
  · obtain rfl := Option.some.inj (own.symm.trans ended)
    exact ⟨final, lets, passed⟩
  · exact nomatch own.symm.trans open'

end Epoch
end PromptTuning
