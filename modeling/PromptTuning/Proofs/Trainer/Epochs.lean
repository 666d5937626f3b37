import PromptTuning.Proofs.Optimizer.Stamps
import PromptTuning.Proofs.Trainer.Interleaving

/-!
# What epochs make of variables

On known answers and at a fixed reward, an epoch makes one variable of each,
apart from its version and date, and more epochs make the same as one after
another. It does not matter which trainer runs them, as long as the settings of
their optimizers agree.
-/

namespace PromptTuning

variable {σ : Type}

/-- Two lists that are related to one list, element by element, are related to
each other. -/
theorem forall₂_trans
    {α β γ : Type}
    {first : α -> β -> Prop}
    {second : β -> γ -> Prop}
    {both : α -> γ -> Prop}
    (chain : ∀ left middle right,
      first left middle -> second middle right -> both left right)
    {xs : List α}
    {ys : List β}
    {zs : List γ}
    (related : List.Forall₂ first xs ys)
    (relatedNext : List.Forall₂ second ys zs) :
    List.Forall₂ both xs zs := by
  induction related generalizing zs with
  | nil =>
      cases relatedNext
      exact .nil
  | cons own _ inductionHypothesis =>
      cases relatedNext with
      | cons ownNext others =>
          exact .cons (chain _ _ _ own ownNext) (inductionHypothesis others)

/-- An optimizer that would find the program it builds has no other. -/
theorem Optimizer.ownsProgram_of_useProgram
    {optimizer : Optimizer}
    {world : World σ}
    (known : (world.useProgram optimizer).1 = optimizer.buildProgram) :
    optimizer.OwnsProgram world := by
  intro program found
  rw [← known, World.useProgram, found]

namespace Trainer

/-- What an epoch makes of a variable on known answers, apart from
its stamps. -/
def Turns (trainer : Trainer) (answers : Answers) (reward : Double)
    (before after : Variable) : Prop :=
  ∃ count ended,
    trainer.optimizer.Determined trainer.optimizer.buildProgram answers reward
      before count ended ∧
    after.bare = (trainer.atEpochEnd (Batch.left before ended)).bare

/-- What a number of epochs make of a variable, apart from its stamps. -/
inductive TurnsIn (trainer : Trainer) (answers : Answers) (reward : Double) :
    Nat -> Variable -> Variable -> Prop
  | none {before after : Variable} (same : after.bare = before.bare) :
      TurnsIn trainer answers reward 0 before after
  | next {count : Nat} {before between after : Variable}
      (first : trainer.Turns answers reward before between)
      (rest : TurnsIn trainer answers reward count between after) :
      TurnsIn trainer answers reward (count + 1) before after

/-- Two trainers whose optimizers have the same settings, and which end
epochs alike. -/
structure Like (trainer other : Trainer) : Prop where
  optimizer :
    other.optimizer = { trainer.optimizer with id := other.optimizer.id }
  finalizes : other.finalizeOnEpochEnd = trainer.finalizeOnEpochEnd

variable {trainer other : Trainer} {answers : Answers} {reward : Double}
  {before after first second : Variable} {count more : Nat}

theorem Like.refl (trainer : Trainer) : trainer.Like trainer := ⟨rfl, rfl⟩

/-- The program that the optimizer builds itself reads no variables. -/
theorem unbound_of_buildProgram (program : Module)
    (built : trainer.optimizer.buildProgram = .ok program) : program.Unbound :=
  (Optimizer.unbound_of_buildProgram built).1

theorem bare_atEpochEnd (trainer : Trainer) (entry : Variable) :
    (trainer.atEpochEnd entry).bare = trainer.atEpochEnd entry.bare := by
  unfold atEpochEnd
  split <;> rfl

/-- What a pass leaves is left by a pass on any variable with the
same contents. -/
theorem Turns.congr_left
    (alike : trainer.Like other)
    (turns : trainer.Turns answers reward before after)
    (same : first.bare = before.bare) :
    other.Turns answers reward first after := by
  obtain ⟨count, ended, determined, left⟩ := turns
  have stamped :=
    determined.stamped other.optimizer.id first.version first.updatedAt
  have programs :
      other.optimizer.buildProgram = trainer.optimizer.buildProgram := by
    rw [alike.optimizer]
    rfl
  rw [← alike.optimizer, ← Variable.eq_stamped_of_bare_eq same,
    ← programs] at stamped
  have leaves := Batch.bare_left_stamped
    (determined.passed unbound_of_buildProgram) first.version first.updatedAt
  rw [← Variable.eq_stamped_of_bare_eq same] at leaves
  refine ⟨count, _, stamped, ?_⟩
  have ends (entry : Variable) :
      other.atEpochEnd entry = trainer.atEpochEnd entry := by
    rw [atEpochEnd, atEpochEnd, alike.finalizes]
  rw [left, ends, bare_atEpochEnd, bare_atEpochEnd, leaves]

/-- An epoch makes the same of a variable whenever it runs. -/
theorem Turns.unique
    (turns : trainer.Turns answers reward before first)
    (turnsAgain : trainer.Turns answers reward before second) :
    first.bare = second.bare := by
  obtain ⟨_, _, determined, left⟩ := turns
  obtain ⟨_, _, determinedAgain, leftAgain⟩ := turnsAgain
  obtain rfl := determined.unique determinedAgain
  rw [left, leftAgain]

namespace TurnsIn

theorem congr_left
    (alike : trainer.Like other)
    (turns : trainer.TurnsIn answers reward count before after)
    (same : first.bare = before.bare) :
    other.TurnsIn answers reward count first after := by
  induction turns generalizing first with
  | none unchanged => exact .none (unchanged.trans same.symm)
  | next turns _ inductionHypothesis =>
      exact .next (turns.congr_left alike same) (inductionHypothesis rfl)

/-- Epochs make the same of a variable whenever they run. -/
theorem unique
    (turns : trainer.TurnsIn answers reward count before first)
    (turnsAgain : trainer.TurnsIn answers reward count before second) :
    first.bare = second.bare := by
  induction turns generalizing second with
  | none same =>
      cases turnsAgain with
      | none sameAgain => exact same.trans sameAgain.symm
  | next turns _ inductionHypothesis =>
      cases turnsAgain with
      | next turnsAgain rest =>
          exact inductionHypothesis
            (rest.congr_left (.refl trainer) (turns.unique turnsAgain))

/-- Some epochs after others make what all of them make. -/
theorem trans
    (turns : trainer.TurnsIn answers reward count before first)
    (same : second.bare = first.bare)
    (turnsMore : trainer.TurnsIn answers reward more second after) :
    trainer.TurnsIn answers reward (count + more) before after := by
  induction turns with
  | none unchanged =>
      rw [Nat.zero_add]
      exact turnsMore.congr_left (.refl trainer)
        (unchanged.symm.trans same.symm)
  | next turns _ inductionHypothesis =>
      rw [Nat.add_right_comm]
      exact .next turns (inductionHypothesis same)

/-- What passes and the ends of epochs uphold of a variable holds
after epochs. -/
theorem upheld
    {valid : Variable -> Prop}
    (turns : trainer.TurnsIn answers reward count before after)
    (upheld : Variable.Upheld valid)
    (admitted : isValidReward reward = true)
    (kept : valid before) :
    valid after := by
  induction turns with
  | none same =>
      rw [Variable.eq_stamped_of_bare_eq same]
      exact upheld.redated _ _ kept
  | next turns _ inductionHypothesis =>
      obtain ⟨_, ended, determined, left⟩ := turns
      have passed := determined.passed unbound_of_buildProgram
      refine inductionHypothesis ?_
      rw [Variable.eq_stamped_of_bare_eq left]
      refine upheld.redated _ _ ?_
      unfold atEpochEnd
      split
      · exact upheld.finalized (Batch.upheld_left upheld kept admitted passed)
      · exact Batch.upheld_left upheld kept admitted passed

/-- Nothing is left to build after epochs on a variable that was built. -/
theorem built_eq
    (turns : trainer.TurnsIn answers reward count before.built after)
    (admitted : isValidReward reward = true) : after.built = after := by
  have built : before.built.phase ≠ .unbuilt := by
    unfold Variable.built
    split
    · exact nofun
    · assumption
  rw [Variable.built,
    if_neg (turns.upheld Variable.upheld_built admitted built)]

/-- Epochs that go on with what others have left, under a trainer like theirs
and once it has built it, make what all of them make. -/
theorem resume
    (turns : trainer.TurnsIn answers reward count before.built first)
    (admitted : isValidReward reward = true)
    (alike : other.Like trainer)
    (turnsMore : other.TurnsIn answers reward more first.built second) :
    trainer.TurnsIn answers reward (count + more) before.built second := by
  rw [turns.built_eq admitted] at turnsMore
  exact turns.trans rfl (turnsMore.congr_left alike rfl)

end TurnsIn

/-- A trainer whose optimizer has no program but its own, on a store with each
key once and no lock in use. -/
structure Ready (trainer : Trainer) (world : World σ) : Prop where
  owns : trainer.optimizer.OwnsProgram world
  distinct : (world.stores trainer.store).keys.Nodup
  free :
    ∀ key ∈ (world.stores trainer.store).keys,
      (world.stores trainer.store).IsFree key

variable {host : ModelHost σ} {world : World σ} {limit pace : Nat}

section Answered

variable
  (valid : isValidReward reward = true)
  (answered : ∀ model request state,
    (host.handle model request state).1 = answers model request)
  (paced : ∀ model request state, host.wait state model request ≤ pace)
  (inTime : pace ≤ trainer.timeout)

include valid answered paced inTime

/-- An epoch ends in time and makes of every variable what it makes of it. -/
theorem Ready.runEpoch
    (ready : trainer.Ready world)
    (within : world.clock + trainer.timeout ≤ limit)
    (number : Nat) :
    ∃ report after,
      (trainer.runEpoch host limit number reward).run.run world =
        (some (.ok report), after) ∧
      trainer.Ready after ∧ after.clock ≤ world.clock + trainer.timeout ∧
      List.Forall₂ (trainer.Turns answers reward)
        (world.stores trainer.store).entries
        (after.stores trainer.store).entries := by
  let batch : Batch σ :=
    ⟨host, trainer.store, trainer.optimizer, trainer.optimizer.buildProgram,
      reward, answers, pace, answered, paced⟩
  have known :
      (world.useProgram trainer.optimizer).1 = trainer.optimizer.buildProgram :=
    World.useProgram_fst_of_ownsProgram ready.owns
  obtain ⟨plans, planned, waits⟩ :=
    @Batch.exists_allWait σ batch world unbound_of_buildProgram known
      ready.distinct ready.free
  have distinct : (plans.map (·.entry.key)).Nodup := waits.keys ▸ ready.distinct
  have questions : Optimizer.questionsOf trainer.optimizer.buildProgram ≤
      trainer.questionCount world := by
    rw [← known]
    exact trainer.questionsOf_useProgram_le world
  have once (plan : batch.Plan) : plan.count ≤ 1 := by
    refine Nat.le_trans plan.fits ?_
    change Optimizer.questionsOf trainer.optimizer.buildProgram ≤ 1
    cases built : trainer.optimizer.buildProgram with
    | error cause => exact Nat.zero_le 1
    | ok program =>
        exact Nat.le_of_eq (Optimizer.unbound_of_buildProgram built).2
  have soon (plan : batch.Plan) (_ : plan ∈ plans) :
      plan.count * pace ≤ trainer.timeout :=
    Nat.le_trans (Nat.mul_le_mul_right pace (once plan)) (by omega)
  obtain ⟨after, went, ended, readyEnded, free, contents⟩ :=
    waits.runEpoch valid distinct soon questions within number
  have keys : (after.stores trainer.store).keys = plans.map (·.entry.key) := by
    calc (after.stores trainer.store).keys
        = (after.stores trainer.store).contents.map (·.key) := by
          rw [Store.contents, List.map_map]
          rfl
      _ = plans.map (·.entry.key) := by
          rw [contents, List.map_map]
          exact List.map_congr_left fun plan _ =>
            plan.key_final trainer.finalizeOnEpochEnd
  refine ⟨_, after, went, ⟨?_, ?_, ?_⟩, ended, ?_⟩
  · exact Optimizer.ownsProgram_of_useProgram readyEnded
  · rw [keys]
    exact distinct
  · rw [keys, List.forall_mem_map]
    exact free
  · rw [← planned, List.forall₂_map_left_iff]
    have same :
        List.Forall₂ (· = ·) (plans.map (·.final trainer.finalizeOnEpochEnd))
          ((after.stores trainer.store).entries.map Variable.undated) :=
      List.forall₂_eq_eq_eq ▸ contents.symm
    rw [List.forall₂_map_left_iff, List.forall₂_map_right_iff] at same
    refine same.imp fun plan entry same =>
      ⟨plan.count, plan.ended, plan.determined, ?_⟩
    calc entry.bare
        = entry.undated.bare := rfl
      _ = (plan.final trainer.finalizeOnEpochEnd).bare := by rw [← same]
      _ = (trainer.atEpochEnd (Batch.left plan.entry plan.ended)).bare := by
          unfold Batch.Plan.final closedAt atEpochEnd
          split <;> rfl

/-- Epochs end in time one after another and make of every variable what they
make of it. -/
theorem Ready.runEpochs
    (ready : trainer.Ready world)
    (numbers : List Nat)
    (within : world.clock + numbers.length * trainer.timeout ≤ limit) :
    ∃ history after,
      (trainer.runEpochs host limit
        (fun epoch => return (RewardSource.fixed reward).reward epoch)
        numbers).run.run world = (some (.ok history), after) ∧
      trainer.Ready after ∧
      after.clock ≤ world.clock + numbers.length * trainer.timeout ∧
      List.Forall₂ (trainer.TurnsIn answers reward numbers.length)
        (world.stores trainer.store).entries
        (after.stores trainer.store).entries := by
  induction numbers generalizing world with
  | nil =>
      exact ⟨[], world, rfl, ready, Nat.le_add_right _ _,
        List.forall₂_same.mpr fun entry _ => .none rfl⟩
  | cons number numbers inductionHypothesis =>
      rw [List.length_cons, Nat.succ_mul] at within
      have first : world.clock + trainer.timeout ≤ limit := by omega
      obtain ⟨report, between, ran, readyBetween, soon, turns⟩ :=
        ready.runEpoch valid answered paced inTime first number
      obtain ⟨history, after, ranRest, readyAgain, inTimeRest, turnsRest⟩ :=
        inductionHypothesis readyBetween (by omega)
      refine ⟨report :: history, after, ?_, readyAgain, ?_, ?_⟩
      · have told : (return (RewardSource.fixed reward).reward number :
            Run σ (Except String Double)).run.run world =
          (some (.ok reward), world) := rfl
        exact (Run.bind_of_run told _).trans
          ((Run.bind_of_run ran _).trans
            ((Run.bind_of_run ranRest _).trans rfl))
      · rw [List.length_cons, Nat.succ_mul]
        omega
      · exact forall₂_trans (fun _ _ _ first rest => .next first rest) turns
          turnsRest

/-- Training ends in time and makes of every variable, once built, what its
epochs make of it. -/
theorem run_fit
    {program : Module}
    (owns : trainer.optimizer.OwnsProgram world)
    (builds : trainer.optimizer.buildProgram = .ok program)
    (distinct : (world.stores trainer.store).keys.Nodup)
    (unlocked : (world.stores trainer.store).Unlocked)
    (trains : 0 < count)
    (within : world.clock + count * trainer.timeout ≤ limit) :
    ∃ history after,
      (trainer.fit host limit count (.fixed reward)).run.run world =
        (some (.ok history), after) ∧
      trainer.Ready after ∧
      List.Forall₂
        (fun before after =>
          trainer.TurnsIn answers reward count before.built after)
        (world.stores trainer.store).entries
        (after.stores trainer.store).entries := by
  obtain ⟨answer, built, ran, unlockedBuilt, ended⟩ :=
    Optimizer.run_buildStored host Run.foreground
      limit trainer.optimizer unlocked distinct
  rw [World.useProgram_fst_of_ownsProgram owns, builds] at ended
  obtain ⟨rfl, entries⟩ := ended
  set between := (world.useProgram trainer.optimizer).2.setStore trainer.store
    built with starts
  have stored : between.stores trainer.store = built :=
    World.stores_setStore_self _ _ _
  have keys : built.keys = (world.stores trainer.store).keys := by
    rw [Store.keys, entries, List.map_map]
    exact List.map_congr_left fun entry _ => entry.key_built
  have ready : trainer.Ready between := by
    refine ⟨?_, ?_, ?_⟩
    · intro other found
      have own : between.programs trainer.optimizer.id = some program :=
        World.programs_of_useProgram_eq_ok
          ((World.useProgram_fst_of_ownsProgram owns).trans builds)
      obtain rfl := Option.some.inj (own.symm.trans found)
      exact builds
    · rw [stored, keys]
      exact distinct
    · rw [stored]
      exact fun key _ lock found =>
        unlockedBuilt lock (List.mem_of_find?_eq_some found)
  have begins :
      between.clock + (List.range count).length * trainer.timeout ≤ limit := by
    rw [List.length_range]
    exact Nat.le_trans
      (Nat.add_le_add_right (Nat.le_of_eq (world.useProgram_clock _)) _) within
  obtain ⟨history, after, went, readyAfter, _, turns⟩ :=
    ready.runEpochs valid answered paced inTime
      (List.range count) begins
  rw [List.length_range, stored, entries, List.forall₂_map_left_iff] at turns
  refine ⟨history, after, ?_, readyAfter, turns.imp fun before after turns =>
    turns.congr_left (.refl trainer) rfl⟩
  have building :
      (trainer.build host limit).run.run world = (some (.ok ()), between) :=
    Run.bind_of_run
      (show (Run.activity host limit (trainer.optimizer.buildStored
        trainer.store)).run.run world = (some (.ok ()), between) from ran) _
  unfold fit
  rw [if_neg (Nat.pos_iff_ne_zero.mp trains)]
  exact (Run.bind_of_run building _).trans went

end Answered
end Trainer
end PromptTuning
