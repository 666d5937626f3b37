import PromptTuning.Proofs.Trainer.SideBySide

/-!
# What an epoch comes to

An epoch reports one outcome for every variable, in storage order, and the store
agrees with the report: what a variable was told to be, it has become.
Finalization at the end only drops the candidates and moves the phase.
-/

namespace PromptTuning

variable {σ : Type}

namespace Run

variable {α β : Type} {host : ModelHost σ} {world after : World σ}

theorem bind_of_run
    {first : Run σ α}
    {result : α}
    (ran : first.run.run world = (some result, after))
    (next : α -> Run σ β) :
    (first >>= next).run.run world = (next result).run.run after := by
  rw [OptionT.run_bind, Option.elimM, StateT.run_bind, ran]
  rfl

/-- What ended went through its first part. -/
theorem exists_run_of_bind
    {first : Run σ α}
    {next : α -> Run σ β}
    {result : β}
    (ended : (first >>= next).run.run world = (some result, after)) :
    ∃ value between, first.run.run world = (some value, between) ∧
      (next value).run.run between = (some result, after) := by
  rw [OptionT.run_bind, Option.elimM, StateT.run_bind] at ended
  generalize ran : first.run.run world = reached at ended
  obtain ⟨_ | value, between⟩ := reached
  · exact absurd (congrArg Prod.fst ended).symm (Option.some_ne_none result)
  · exact ⟨value, between, rfl, ended⟩

end Run

/-- Finalizing variables whose locks are free commits each without its
candidates. -/
theorem Trainer.run_finalizeAll
    (trainer : Trainer)
    (host : ModelHost σ)
    (owner : Owner)
    (limit : Nat)
    {keys : List String}
    {world : World σ}
    (distinct : keys.Nodup)
    (free : ∀ key ∈ keys, (world.stores trainer.store).IsFree key)
    (stored : ∀ key ∈ keys,
      ∃ entry, (world.stores trainer.store).find? key = some entry) :
    ∃ after,
      (trainer.finalizeAll keys).run host owner limit world = (some (), after) ∧
      world.Touches host trainer.store (keys.map fun key => (key, owner))
        after ∧
      (∀ key ∈ keys, (after.stores trainer.store).IsFree key) ∧
      ∀ key ∈ keys,
        ∀ entry, (world.stores trainer.store).find? key = some entry ->
          (after.stores trainer.store).find? key =
            some (entry.finalized.touch world.now) := by
  induction keys generalizing world with
  | nil => exact ⟨world, rfl, .refl _ world, nofun, nofun⟩
  | cons key keys inductionHypothesis =>
      obtain ⟨fresh, distinct⟩ := List.nodup_cons.mp distinct
      obtain ⟨freeFirst, free⟩ := List.forall_mem_cons.mp free
      obtain ⟨⟨entry, storedFirst⟩, stored⟩ := List.forall_mem_cons.mp stored
      obtain ⟨between, ran, touched, freed, found⟩ :=
        Optimizer.run_finalizeStored_of_isFree freeFirst storedFirst
      have apart (other : String) (listed : other ∈ keys) :
          other ∉ [(key, owner)].map (·.1) := by
        rw [List.map_singleton, List.mem_singleton]
        rintro rfl
        exact fresh listed
      obtain ⟨after, ranRest, touchedRest, freedRest, finals⟩ :=
        inductionHypothesis distinct
          (fun other listed =>
            touched.store.free other (apart other listed) (free other listed))
          (fun other listed => by
            rw [touched.store.found other (apart other listed)]
            exact stored other listed)
      refine ⟨after, ?_,
        (touched.mono (by simp)).trans (touchedRest.mono (by simp)),
        List.forall_mem_cons.mpr
          ⟨touchedRest.store.free key (by simpa using fresh) freed, freedRest⟩,
        ?_⟩
      · exact (Activity.run_bind_of_run host owner limit ran _).trans ranRest
      · intro other listed before present
        obtain rfl | later := List.mem_cons.mp listed
        · obtain rfl := Option.some.inj (storedFirst.symm.trans present)
          rw [touchedRest.store.found other (by simpa using fresh)]
          exact found
        · rw [← touched.store.found other (apart other later)] at present
          rw [← touched.now]
          exact finals other later before present

/-- A host whose replies and waiting times depend on the model and the
request alone. -/
def ModelHost.Steady (host : ModelHost σ) : Prop :=
  ∀ model request before after,
    host.wait before model request = host.wait after model request ∧
    (host.handle model request before).1 = (host.handle model request after).1

/-- Numbered items with distinct keys differ in their keys and in
their numbers. -/
theorem pairwise_zipIdx
    {ι : Type}
    {key : ι -> String}
    {items : List ι}
    (distinct : (items.map key).Nodup)
    (index : Nat) :
    (items.zipIdx index).Pairwise fun first second =>
      key first.1 ≠ key second.1 ∧ first.2 ≠ second.2 := by
  induction items generalizing index with
  | nil => exact .nil
  | cons item items inductionHypothesis =>
      obtain ⟨fresh, distinct⟩ := List.nodup_cons.mp distinct
      refine List.pairwise_cons.mpr
        ⟨?_, inductionHypothesis distinct (index + 1)⟩
      rintro ⟨other, place⟩ listed
      obtain ⟨later, _, _⟩ := List.mem_zipIdx listed
      refine ⟨fun same => fresh ?_, fun same => ?_⟩
      · exact List.mem_map.mpr
          ⟨other, List.fst_mem_of_mem_zipIdx listed, same.symm⟩
      · subst same
        omega

namespace Epoch

open Optimizer (linesOfReply)

variable {epoch : Epoch σ} {world : World σ}

/-- The program that an optimizer builds itself asks one question about a
variable. The generation ends with what the reply to it stands for, unless the
reply takes longer than a pass may. -/
theorem generationEnds_iff_of_buildProgram
    {last : σ}
    {entry : Variable}
    {generation : Generation}
    (built : epoch.trainer.optimizer.buildProgram = .ok epoch.program) :
    ∃ model, epoch.trainer.optimizer.languageModel = some model ∧
      let question :=
        epoch.trainer.optimizer.question (entry.scoredAt epoch.reward)
      (epoch.GenerationEnds last entry generation ↔
        ∃ asked, epoch.host.Reaches epoch.initial asked ∧
          if epoch.trainer.timeout < epoch.host.wait asked model question then
            generation = none ∧ epoch.host.Reaches asked last
          else
            ∃ later, epoch.host.Reaches asked later ∧
              generation =
                some (linesOfReply (epoch.host.handle model question later).1) ∧
              epoch.host.Reaches (epoch.host.handle model question later).2
                last) := by
  obtain ⟨model, described, asks⟩ :=
    Optimizer.generate_eq built (entry.scoredAt epoch.reward)
  refine ⟨model, described, ?_⟩
  intro question
  constructor
  · intro ends
    cases ends with
    | inTime heard reached =>
        rw [Hears, asks] at heard
        obtain ⟨same, _⟩ | ⟨asked, later, before, between, inTime, rfl, same⟩ :=
          heard.of_question
        · contradiction
        · have short :
              epoch.host.wait asked model question ≤ epoch.trainer.timeout :=
            Nat.le_of_add_le_add_left inTime
          refine ⟨asked, before, ?_⟩
          rw [if_neg (Nat.not_lt.mpr short)]
          exact ⟨later, between, congrArg some (Activity.done.inj same),
            reached⟩
    | late heard reached past =>
        rw [Hears, asks] at heard
        obtain ⟨same, rfl, before⟩ | ⟨_, _, _, _, _, _, same⟩ :=
          heard.of_question
        · obtain ⟨rfl, rfl, rfl⟩ := Activity.generate.inj same
          refine ⟨_, before, ?_⟩
          rw [if_pos (Nat.lt_of_add_lt_add_left past)]
          exact ⟨rfl, reached⟩
        · contradiction
  · rintro ⟨asked, before, ends⟩
    have heard : epoch.Hears entry epoch.start asked
        (.generate model question fun reply => .done (linesOfReply reply)) := by
      rw [Hears, asks]
      exact .begin before
    split at ends
    · rename_i past
      obtain ⟨rfl, reached⟩ := ends
      exact .late heard reached (Nat.add_lt_add_left past _)
    · rename_i short
      obtain ⟨later, between, rfl, reached⟩ := ends
      exact .inTime (heard.answered between
        (Nat.add_le_add_left (Nat.not_lt.mp short) _)) reached

/-- Where replies and waiting times depend on the request alone, a built
program's generation for a variable can end in one way only. -/
theorem GenerationEnds.eq_of_steady
    {last later : σ}
    {entry : Variable}
    {generation other : Generation}
    (built : epoch.trainer.optimizer.buildProgram = .ok epoch.program)
    (steady : epoch.host.Steady)
    (ends : epoch.GenerationEnds last entry generation)
    (endsLater : epoch.GenerationEnds later entry other) :
    generation = other := by
  obtain ⟨model, described, settled⟩ :=
    @generationEnds_iff_of_buildProgram σ epoch last entry generation built
  obtain ⟨same, describedLater, settledLater⟩ :=
    @generationEnds_iff_of_buildProgram σ epoch later entry other built
  obtain rfl : model = same :=
    Option.some.inj (described.symm.trans describedLater)
  obtain ⟨asked, _, ends⟩ := settled.mp ends
  obtain ⟨askedLater, _, endsLater⟩ := settledLater.mp endsLater
  rw [(steady model _ askedLater asked).1] at endsLater
  split at ends
  · rename_i past
    rw [if_pos past] at endsLater
    rw [ends.1, endsLater.1]
  · rename_i short
    rw [if_neg short] at endsLater
    obtain ⟨answered, _, rfl, _⟩ := ends
    obtain ⟨answeredLater, _, rfl, _⟩ := endsLater
    rw [(steady model _ answered answeredLater).2]

/-- Variables with distinct keys have passes that are apart. -/
theorem apart_zipIdx {entries : List Variable}
    (distinct : (entries.map (·.key)).Nodup)
    (index : Nat) : Apart (entries.zipIdx index) :=
  pairwise_zipIdx distinct index

/-- Every variable has the outcome that is paired with its key. -/
theorem AllEnded.exists_outcome
    {entries : List Variable}
    {entry : Variable}
    {index : Nat}
    {outcomes : List Outcome}
    (ended : epoch.AllEnded world (entries.zipIdx index) outcomes)
    (listed : entry ∈ entries) :
    ∃ outcome final, (entry.key, outcome) ∈ (entries.map (·.key)).zip outcomes ∧
      (world.stores epoch.trainer.store).find? entry.key = some final ∧
      (world.stores epoch.trainer.store).IsFree entry.key ∧
      epoch.Passed world.models entry outcome final := by
  induction entries generalizing index outcomes with
  | nil => contradiction
  | cons other entries inductionHypothesis =>
      obtain _ | ⟨⟨final, lets, passed⟩, ended⟩ := ended
      obtain rfl | later := List.mem_cons.mp listed
      · exact ⟨_, final, List.mem_cons_self, lets.found, lets.free, passed⟩
      · obtain ⟨outcome, final, paired, rest⟩ := inductionHypothesis ended later
        exact ⟨outcome, final, List.mem_cons_of_mem _ paired, rest⟩

end Epoch

/-- The world once its observers are told of an event. -/
def World.told (world : World σ) (event : Event) : World σ :=
  { world with observers := world.observers.notify event }

namespace Trainer

variable {trainer : Trainer} {reward : Double} {entry final : Variable}
  {outcome : Outcome}

/-- What the end of an epoch makes of a variable. -/
def atEpochEnd (trainer : Trainer) (entry : Variable) : Variable :=
  if trainer.finalizeOnEpochEnd then entry.finalized else entry

@[simp] theorem predictions_atEpochEnd (trainer : Trainer) (entry : Variable) :
    (trainer.atEpochEnd entry).predictions = entry.predictions := by
  unfold atEpochEnd
  split <;> rfl

@[simp] theorem instructions_atEpochEnd (trainer : Trainer) (entry : Variable) :
    (trainer.atEpochEnd entry).instructions = entry.instructions := by
  unfold atEpochEnd
  split <;> rfl

theorem atEpochEnd_of_not_finalizing
    (goesOn : trainer.finalizeOnEpochEnd = false) :
    trainer.atEpochEnd entry = entry := by
  rw [atEpochEnd, goesOn]
  rfl

theorem atEpochEnd_of_finalizing (finalizes : trainer.finalizeOnEpochEnd = true)
    (built : entry.phase ≠ .unbuilt) :
    (trainer.atEpochEnd entry).phase = .finalized ∧
    (trainer.atEpochEnd entry).candidates = [] := by
  rw [atEpochEnd, finalizes]
  simp [Variable.finalized, Phase.isBuilt, built]

/-- What an epoch reports of a variable and what it leaves of it, according to
how its generation ended: with instructions, with an error, or not in time. -/
structure Accounts (trainer : Trainer) (reward : Double) (entry : Variable)
    (generation : Epoch.Generation) (outcome : Outcome) (final : Variable) :
    Prop where
  noop : outcome = .noop ↔ entry.unscoredCount = 0
  optimized : ∀ count, outcome = .optimized count ↔
    entry.unscoredCount ≠ 0 ∧ (∃ lines, generation = some (.ok lines)) ∧
    count = entry.unscoredCount
  failed : ∀ text, outcome = .failed text ↔
    entry.unscoredCount ≠ 0 ∧
    ∃ reason, generation = some (.error reason) ∧ text = reason.message
  skipped : ∀ text, outcome = .skipped text ↔
    entry.unscoredCount ≠ 0 ∧ generation = none ∧
      text = "timed out after " ++ renderMilliseconds trainer.timeout
  /-- An optimized or failed variable has the reward on what was unscored. -/
  scored :
    ((∃ count, outcome = .optimized count) ∨ ∃ text, outcome = .failed text) ->
    List.Forall₂ (Prediction.ScoredAt reward) entry.predictions
      final.predictions ∧
      (trainer.finalizeOnEpochEnd = false ->
        final.candidates = (entry.archive reward).candidates)
  /-- Any other has its predictions as they were. -/
  kept : (outcome = .noop ∨ ∃ text, outcome = .skipped text) ->
    final.predictions = entry.predictions ∧
      (trainer.finalizeOnEpochEnd = false ->
        final.candidates = entry.candidates)
  regenerated :
    ∀ count lines, outcome = .optimized count ->
      generation = some (.ok lines) ->
      final.instructions = some (.ofLines lines)
  instructions :
    (∀ count, outcome ≠ .optimized count) ->
    final.instructions = entry.instructions
  finalized :
    trainer.finalizeOnEpochEnd = true ->
    final.phase = .finalized ∧ final.candidates = []

/-- The end of an epoch makes the same of variables with the same contents. -/
theorem sameContents_atEpochEnd {left : Variable}
    (same : final.SameContents left) :
    (trainer.atEpochEnd final).SameContents (trainer.atEpochEnd left) := by
  unfold atEpochEnd
  split
  · exact same.finalized
  · exact same

namespace Accounts

/-- A variable with every prediction scored is left to itself. -/
theorem of_scored
    (scored : entry.unscoredCount = 0)
    (generation : Epoch.Generation)
    (same : final.SameContents (trainer.atEpochEnd (entry.inPhase .idle))) :
    trainer.Accounts reward entry generation .noop final := by
  obtain ⟨version, now, rfl⟩ := same
  constructor
  case finalized =>
    exact fun finalizes => atEpochEnd_of_finalizing finalizes (by rintro ⟨⟩)
  case kept =>
    refine fun _ => ⟨trainer.predictions_atEpochEnd _, fun goesOn => ?_⟩
    rw [atEpochEnd_of_not_finalizing goesOn]
    rfl
  case instructions => exact fun _ => trainer.instructions_atEpochEnd _
  all_goals simp [scored]

variable {epoch : Epoch σ}

/-- A variable whose generation was not done in time is as it was. -/
theorem of_late
    (built : entry.phase ≠ .unbuilt)
    (unscored : entry.unscoredCount ≠ 0)
    (same : final.SameContents (trainer.atEpochEnd entry)) :
    trainer.Accounts reward entry none (.ofPass trainer.timeout none)
      final := by
  obtain ⟨version, now, rfl⟩ := same
  constructor
  case finalized =>
    exact fun finalizes => atEpochEnd_of_finalizing finalizes built
  case kept =>
    refine fun _ => ⟨trainer.predictions_atEpochEnd _, fun goesOn => ?_⟩
    rw [atEpochEnd_of_not_finalizing goesOn]
  case instructions => exact fun _ => trainer.instructions_atEpochEnd _
  case skipped =>
    intro text
    constructor
    · rintro ⟨⟩
      exact ⟨unscored, rfl, rfl⟩
    · rintro ⟨_, _, rfl⟩
      rfl
  all_goals simp [Outcome.ofPass, unscored]

/-- A variable whose generation failed keeps the reward. -/
theorem of_failed
    (unscored : entry.unscoredCount ≠ 0)
    {reason : OptimizationError}
    (kept : reason.isPartial = true)
    (same : final.SameContents (trainer.atEpochEnd (entry.scoredAt reward))) :
    trainer.Accounts reward entry (some (.error reason))
      (.ofPass trainer.timeout (some (.error reason))) final := by
  have failed :
      Outcome.ofPass trainer.timeout (some (.error reason)) =
        .failed reason.message := by
    cases reason with
    | notBuilt key => contradiction
    | _ => rfl
  obtain ⟨version, now, rfl⟩ := same
  rw [failed]
  constructor
  case finalized =>
    exact fun finalizes => atEpochEnd_of_finalizing finalizes (by rintro ⟨⟩)
  case scored =>
    refine fun _ => ⟨?_, fun goesOn => ?_⟩
    · rw [predictions_atEpochEnd]
      exact entry.scoredAt_broadcast reward
    · rw [atEpochEnd_of_not_finalizing goesOn]
      rfl
  case instructions => exact fun _ => trainer.instructions_atEpochEnd _
  case failed =>
    intro text
    constructor
    · rintro ⟨⟩
      exact ⟨unscored, reason, rfl, rfl⟩
    · rintro ⟨_, _, ⟨⟩, rfl⟩
      rfl
  all_goals simp [unscored]

/-- A variable whose generation succeeded has the reward and the new
instructions. -/
theorem of_optimized
    (unscored : entry.unscoredCount ≠ 0)
    {lines : List String}
    (same : final.SameContents (trainer.atEpochEnd
      { entry.scoredAt reward with instructions := some (.ofLines lines) })) :
    trainer.Accounts reward entry (some (.ok lines))
      (.ofPass trainer.timeout (some (.ok ⟨entry.unscoredCount, true⟩)))
      final := by
  have optimized :
      Outcome.ofPass trainer.timeout (some (.ok ⟨entry.unscoredCount, true⟩)) =
        .optimized entry.unscoredCount := by
    simp [Outcome.ofPass, OptimizeReport.isNoop, unscored]
  obtain ⟨version, now, rfl⟩ := same
  rw [optimized]
  constructor
  case finalized =>
    exact fun finalizes => atEpochEnd_of_finalizing finalizes (by rintro ⟨⟩)
  case scored =>
    refine fun _ => ⟨?_, fun goesOn => ?_⟩
    · rw [predictions_atEpochEnd]
      exact entry.scoredAt_broadcast reward
    · rw [atEpochEnd_of_not_finalizing goesOn]
      rfl
  case regenerated =>
    rintro count _ _ ⟨⟩
    exact trainer.instructions_atEpochEnd _
  case optimized =>
    intro count
    constructor
    · rintro ⟨⟩
      exact ⟨unscored, ⟨lines, rfl⟩, rfl⟩
    · rintro ⟨_, _, rfl⟩
      rfl
  all_goals simp [unscored]

/-- The report and what is left of a variable agree, whatever its
pass came to. -/
theorem of_passed
    {last : σ}
    {left : Variable}
    (built : entry.phase ≠ .unbuilt)
    (passed : epoch.Passed last entry outcome left)
    (same : final.SameContents (epoch.trainer.atEpochEnd left)) :
    ∃ generation : Epoch.Generation,
      (entry.unscoredCount ≠ 0 -> epoch.GenerationEnds last entry generation) ∧
      epoch.trainer.Accounts epoch.reward entry generation outcome final := by
  cases passed with
  | noop scored stays =>
      exact ⟨none, fun unscored => absurd scored unscored,
        of_scored scored none (same.trans (sameContents_atEpochEnd stays))⟩
  | generated generation unscored ends kept stays =>
      have same := same.trans (sameContents_atEpochEnd stays)
      refine ⟨generation, fun _ => ends, ?_⟩
      match generation with
      | none => exact of_late built unscored same
      | some (.error reason) => exact of_failed unscored (kept reason rfl) same
      | some (.ok lines) => exact of_optimized unscored same

end Accounts

/-- A trainer whose build succeeded has a generation program. -/
theorem exists_program_of_build
    {host : ModelHost σ}
    {limit : Nat}
    {world after : World σ}
    (ran : (trainer.build host limit).run.run world = (some (.ok ()), after)) :
    ∃ program, after.programs trainer.optimizer.id = some program := by
  have building : (Run.activity host limit
      (trainer.optimizer.buildStored trainer.store)).run.run world =
        (trainer.optimizer.buildStored trainer.store).run host
          Run.foreground limit world := rfl
  unfold build at ran
  rw [OptionT.run_bind, Option.elimM, StateT.run_bind, building] at ran
  generalize built : (trainer.optimizer.buildStored trainer.store).run host
    Run.foreground limit
    world = ended at ran
  match ended with
  | (none, between) =>
      have abandoned : none = some (Except.ok ()) := congrArg (·.1) ran
      contradiction
  | (some (.error cause), between) =>
      have failed :
          some (.error (TrainerError.optimization cause)) =
            some (Except.ok ()) :=
        congrArg (·.1) ran
      exact nomatch failed
  | (some (.ok ()), between) =>
      obtain rfl : between = after := congrArg (·.2) ran
      exact Optimizer.exists_program_of_buildStored host
        Run.foreground limit built

/-- The epoch of a trainer that starts in a world. -/
def epochIn (trainer : Trainer) (host : ModelHost σ) (program : Module)
    (number : Nat) (reward : Double)
    (world : World σ) : Epoch σ :=
  ⟨trainer, host, program, number, reward, world.clock, world.models⟩

/-- All passes of an epoch end, each with what becomes of its variable. -/
theorem run_passes
    (trainer : Trainer)
    (host : ModelHost σ)
    (limit number : Nat)
    (reward : Double)
    {world : World σ}
    {program : Module}
    (ready : world.programs trainer.optimizer.id = some program)
    (valid : isValidReward reward = true)
    (distinct : (world.stores trainer.store).keys.Nodup)
    (unlocked : (world.stores trainer.store).Unlocked)
    (built :
      ∀ entry ∈ (world.stores trainer.store).entries, entry.phase ≠ .unbuilt)
    (within : world.clock + trainer.timeout ≤ limit) :
    ∃ outcomes after,
      (Run.sideBySide host limit (trainer.questionCount world)
        ((world.stores trainer.store).keys.zipIdx.map fun item =>
          trainer.passTask world.clock number reward item.1 item.2)).run.run
        world =
        (some outcomes, after) ∧
      (after.stores trainer.store).keys = (world.stores trainer.store).keys ∧
      (trainer.epochIn host program number reward world).AllEnded after
        (world.stores trainer.store).entries.zipIdx outcomes := by
  set epoch := trainer.epochIn host program number reward world
  have tasks : ((world.stores trainer.store).keys.zipIdx.map fun item =>
      trainer.passTask world.clock number reward item.1 item.2) =
        (world.stores trainer.store).entries.zipIdx.map epoch.task := by
    rw [Store.keys, List.zipIdx_map, List.map_map]
    rfl
  have counted : trainer.questionCount world = program.questionCount := by
    rw [questionCount, ready]
  rw [tasks, counted]
  have listed (item : Variable × Nat)
      (among : item ∈ (world.stores trainer.store).entries.zipIdx) :
      item.1 ∈ (world.stores trainer.store).entries :=
    List.fst_mem_of_mem_zipIdx among
  have begins (item : Variable × Nat)
      (among : item ∈ (world.stores trainer.store).entries.zipIdx) :
      epoch.Begins world item :=
    { ready := ready
      starts := rfl
      reached := .refl
      lets :=
        ⟨Store.find?_of_mem distinct (listed item among), fun lock found =>
          unlocked lock (List.mem_of_find?_eq_some found)⟩
      built := built item.1 (listed item among) }
  exact epoch.runAll valid begins (Epoch.apart_zipIdx distinct 0) within

/-- Finalize variables one after another, if that is asked for. -/
def close (trainer : Trainer) (keys : List String) : Activity Unit :=
  if trainer.finalizeOnEpochEnd then trainer.finalizeAll keys else pure ()

/-- What the end of an epoch commits of a variable at some date, if it
commits anything. -/
def closedAt (trainer : Trainer) (now : Timestamp) (entry : Variable) :
    Variable :=
  if trainer.finalizeOnEpochEnd then entry.finalized.touch now else entry

theorem sameContents_closedAt (trainer : Trainer) (now : Timestamp)
    (entry : Variable) :
    (trainer.closedAt now entry).SameContents (trainer.atEpochEnd entry) := by
  unfold closedAt atEpochEnd
  split
  · exact ⟨_, _, rfl⟩
  · exact .refl entry

/-- At the end of an epoch all variables are finalized, if that is asked for. -/
theorem run_close
    (trainer : Trainer)
    (host : ModelHost σ)
    (owner : Owner)
    (limit : Nat)
    {keys : List String}
    {world : World σ}
    (distinct : keys.Nodup)
    (free : ∀ key ∈ keys, (world.stores trainer.store).IsFree key)
    (stored : ∀ key ∈ keys,
      ∃ entry, (world.stores trainer.store).find? key = some entry) :
    ∃ after,
      (trainer.close keys).run host owner limit world = (some (), after) ∧
      world.Touches host trainer.store (keys.map fun key => (key, owner))
        after ∧
      (∀ key ∈ keys, (after.stores trainer.store).IsFree key) ∧
      ∀ key ∈ keys,
        ∀ entry, (world.stores trainer.store).find? key = some entry ->
          (after.stores trainer.store).find? key =
            some (trainer.closedAt world.now entry) := by
  unfold close closedAt
  cases finalizes : trainer.finalizeOnEpochEnd with
  | false => exact ⟨world, rfl, .refl _ world, free, fun _ _ _ found => found⟩
  | true => exact trainer.run_finalizeAll host owner limit distinct free stored

/-- What follows the end of an epoch goes on from there. -/
theorem run_closing
    {β : Type}
    {host : ModelHost σ}
    {limit : Nat}
    {keys : List String}
    {world after : World σ}
    (ran : (trainer.close keys).run host Run.foreground limit world =
      (some (), after))
    (rest : Run σ β) :
    (if trainer.finalizeOnEpochEnd = true then do
        Run.activity host limit (trainer.finalizeAll keys)
        rest
      else rest).run.run world = rest.run.run after := by
  unfold close at ran
  cases finalizes : trainer.finalizeOnEpochEnd with
  | false =>
      rw [finalizes] at ran
      obtain rfl : world = after := congrArg (·.2) ran
      rfl
  | true =>
      rw [finalizes] at ran
      exact Run.bind_of_run ran _

/-- An epoch that goes on past its end has come through it. -/
theorem exists_run_close
    {β : Type}
    {host : ModelHost σ}
    {limit : Nat}
    {keys : List String}
    {world after : World σ}
    {rest : Run σ β}
    {result : β}
    (ran : (if trainer.finalizeOnEpochEnd = true then do
        Run.activity host limit (trainer.finalizeAll keys)
        rest
      else rest).run.run world = (some result, after)) :
    ∃ closed,
      (trainer.close keys).run host Run.foreground limit world =
        (some (), closed) ∧
      rest.run.run closed = (some result, after) := by
  unfold close
  cases finalizes : trainer.finalizeOnEpochEnd with
  | false =>
      rw [finalizes] at ran
      exact ⟨world, rfl, ran⟩
  | true =>
      rw [finalizes] at ran
      obtain ⟨_, closed, closes, ran⟩ := Run.exists_run_of_bind ran
      exact ⟨closed, closes, ran⟩

/-- An epoch tells observers that it begins, lets the passes run side by side,
comes to its end and tells observers of that. -/
theorem runEpoch_eq_some_iff
    {host : ModelHost σ}
    {limit number : Nat}
    {reward : Double}
    {world after : World σ}
    {result : Except TrainerError EpochReport}
    (valid : isValidReward reward = true) :
    (trainer.runEpoch host limit number reward).run.run world =
      (some result, after) ↔
      ∃ outcomes passed closed,
        (Run.sideBySide host limit (trainer.questionCount world)
          ((world.stores trainer.store).keys.zipIdx.map fun item =>
            trainer.passTask world.clock number reward item.1 item.2)).run.run
          (world.told (EpochReport.beginEvent number reward)) =
          (some outcomes, passed) ∧
        (trainer.close (world.stores trainer.store).keys).run host
          Run.foreground limit passed =
          (some (), closed) ∧
        let report : EpochReport :=
          ⟨number, reward, (world.stores trainer.store).keys.zip outcomes⟩
        result = .ok report ∧ after = closed.told report.endEvent := by
  set begun := world.told (EpochReport.beginEvent number reward)
  have begins : (Run.activity host limit (Activity.perform
      (.notify (EpochReport.beginEvent number reward)))).run.run world =
    (some (), begun) := rfl
  have listed :
      (Run.activity host limit (Activity.perform (.keys trainer.store))).run.run
        begun =
        (some (begun.stores trainer.store).keys, begun) := rfl
  have looks :
      (getThe (World σ) : Run σ (World σ)).run.run begun =
        (some begun, begun) := rfl
  unfold runEpoch
  simp only [valid, Bool.not_true, Bool.false_eq_true, if_false]
  rw [Run.bind_of_run begins, Run.bind_of_run listed, Run.bind_of_run looks]
  constructor
  · intro ran
    obtain ⟨outcomes, passed, passes, ran⟩ := Run.exists_run_of_bind ran
    obtain ⟨closed, closes, ran⟩ := exists_run_close ran
    obtain ⟨ended, told⟩ := Prod.mk.inj ran
    exact ⟨outcomes, passed, closed, passes, closes,
      (Option.some.inj ended).symm, told.symm⟩
  · rintro ⟨outcomes, passed, closed, passes, closes, rfl, rfl⟩
    exact (Run.bind_of_run passes _).trans (run_closing closes _)

/-- An epoch reports one outcome for each variable, in storage order, and leaves
of every variable what it reports. -/
theorem epoch_accounts_for_variables
    (trainer : Trainer)
    (host : ModelHost σ)
    (limit number : Nat)
    (reward : Double)
    (world : World σ)
    (program : Module)
    (ready : world.programs trainer.optimizer.id = some program)
    (valid : isValidReward reward = true)
    (distinct : (world.stores trainer.store).keys.Nodup)
    (unlocked : (world.stores trainer.store).Unlocked)
    (built :
      ∀ entry ∈ (world.stores trainer.store).entries, entry.phase ≠ .unbuilt)
    (within : world.clock + trainer.timeout ≤ limit) :
    ∃ outcomes after,
      (trainer.runEpoch host limit number reward).run.run world =
        (some (.ok ⟨number, reward, outcomes⟩), after) ∧
      outcomes.map (·.1) = (world.stores trainer.store).keys ∧
      (after.stores trainer.store).keys = (world.stores trainer.store).keys ∧
      ∀ entry ∈ (world.stores trainer.store).entries,
        ∃ outcome final generation,
          (entry.key, outcome) ∈ outcomes ∧
          (after.stores trainer.store).find? entry.key = some final ∧
          (entry.unscoredCount ≠ 0 ->
            (trainer.epochIn host program number reward world).GenerationEnds
              after.models entry generation)
              ∧
          trainer.Accounts reward entry generation outcome final := by
  set begun : World σ :=
    { world with
      observers :=
        world.observers.notify (EpochReport.beginEvent number reward) }
  have begins : (Run.activity host limit (Activity.perform
      (.notify (EpochReport.beginEvent number reward)))).run.run world =
    (some (), begun) := rfl
  have listed :
      (Run.activity host limit (Activity.perform (.keys trainer.store))).run.run
        begun =
        (some (begun.stores trainer.store).keys, begun) := rfl
  have looks :
      (getThe (World σ) : Run σ (World σ)).run.run begun =
        (some begun, begun) := rfl
  have readyBegun : begun.programs trainer.optimizer.id = some program := ready
  obtain ⟨outcomes, passed, ran, keys, ended⟩ :=
    trainer.run_passes host limit number reward
      readyBegun valid distinct unlocked built within
  have free : ∀ key ∈ (passed.stores trainer.store).keys,
      (passed.stores trainer.store).IsFree key := by
    intro key stored
    rw [keys] at stored
    obtain ⟨entry, listed, rfl⟩ := List.mem_map.mp stored
    obtain ⟨outcome, left, _, _, free, _⟩ := ended.exists_outcome listed
    exact free
  have stored : ∀ key ∈ (passed.stores trainer.store).keys,
      ∃ entry,
        (passed.stores trainer.store).find? key =
          some entry := fun key listed =>
    Store.contains_iff_find?.mp (Store.contains_iff_mem_keys.mpr listed)
  obtain ⟨closed, closes, touched, _, finals⟩ :=
    trainer.run_close host Run.foreground limit (keys ▸ distinct) free stored
  rw [keys] at closes
  unfold runEpoch
  simp only [valid, Bool.not_true, Bool.false_eq_true, if_false]
  rw [Run.bind_of_run begins, Run.bind_of_run listed, Run.bind_of_run looks,
    Run.bind_of_run ran, run_closing closes]
  refine ⟨_, _, rfl, ?_, touched.store.keys.trans keys, fun entry listed => ?_⟩
  · refine List.map_fst_zip (Nat.le_of_eq ?_)
    rw [← ended.length_eq, List.length_zipIdx, Store.keys, List.length_map]
  · obtain ⟨outcome, left, paired, stored, _, became⟩ :=
      ended.exists_outcome listed
    have among : entry.key ∈ (passed.stores trainer.store).keys :=
      Store.contains_iff_mem_keys.mp (Store.contains_of_find? stored)
    have found := finals entry.key among left stored
    obtain ⟨generation, ends, accounts⟩ :=
      Accounts.of_passed (built entry listed)
        (became.of_reaches touched.models)
        (trainer.sameContents_closedAt passed.now left)
    exact ⟨outcome, _, generation, paired, found, ends, accounts⟩

/-- Four variables, of which one has nothing to score, one is asked about for
too long, one gets new instructions and one an error. -/
theorem epoch_accounts_for_variables_of_each_outcome :
    let trainer : Trainer :=
      ⟨.standard 0 (some (.scripted "writer")), 0, 60000, true⟩
    let shown (request : GenerationRequest) : Nat :=
      (((request.input.field? "predictions").bind Json.asArray?).getD []).length
    let answer : Value :=
      ⟨Optimizer.answerSchema, [("instructions", .ofStrings ["be brief"])]⟩
    let host : ModelHost Unit :=
      { delay := fun _ _ => 70000
        pace :=
          ⟨fun _ _ request => if shown request = 2 then 70000 else 10,
            fun _ _ _ => by split <;> decide⟩
        handle := fun _ request state =>
          (if shown request = 1 then .ok answer else .error (.response "busy"),
            state) }
    let unscored (key : String) (count : Nat) : Variable :=
      { Variable.create key default with
        phase := .idle
        predictions := List.replicate count (.unscored [] [])
        instructions := some (.ofLines ["be helpful"]) }
    let entries := [unscored "scored" 0, unscored "late" 2, unscored "good" 1,
      unscored "bad" 3]
    let world : World Unit :=
      ⟨fun _ => ⟨4, entries, [], false, by decide⟩,
        fun _ => trainer.optimizer.buildProgram.toOption, (),
        ⟨[], []⟩, 0, default⟩
    let half : Double := .ofDecimal false 5 (-1)
    ∃ program outcomes after,
      world.programs trainer.optimizer.id = some program ∧
      isValidReward half = true ∧
      (world.stores trainer.store).keys.Nodup ∧
      (world.stores trainer.store).Unlocked ∧
      (∀ entry ∈ (world.stores trainer.store).entries, entry.phase ≠ .unbuilt) ∧
      world.clock + trainer.timeout ≤ 60000 ∧
      (trainer.runEpoch host 60000 0 half).run.run world =
        (some (.ok ⟨0, half, outcomes⟩), after) ∧
      outcomes =
        [("scored", .noop), ("late", .skipped "timed out after 60s"),
          ("good", .optimized 1),
          ("bad",
            .failed
              "generation failed: language model error: response error: busy")] ∧
      ∀ entry ∈ (world.stores trainer.store).entries,
        ∃ outcome final generation,
          (entry.key, outcome) ∈ outcomes ∧
          (after.stores trainer.store).find? entry.key = some final ∧
          (entry.unscoredCount ≠ 0 ->
            (trainer.epochIn host program 0 half world).GenerationEnds
              after.models entry generation)
              ∧
          trainer.Accounts half entry generation outcome final := by
  intro trainer shown answer host unscored entries world half
  have ready : ∃ program, world.programs trainer.optimizer.id = some program :=
    ⟨_, rfl⟩
  have valid : isValidReward half = true := by decide +kernel
  have distinct : (world.stores trainer.store).keys.Nodup := by decide +kernel
  have unlocked : (world.stores trainer.store).Unlocked := nofun
  have built :
      ∀ entry ∈ (world.stores trainer.store).entries,
        entry.phase ≠ .unbuilt := by
    decide +kernel
  have within : world.clock + trainer.timeout ≤ 60000 := by decide +kernel
  have reported : ((trainer.runEpoch host 60000 0 half).run.run world).1.map
      (fun report => report.toOption.map (·.outcomes)) =
        some (some [("scored", .noop), ("late", .skipped "timed out after 60s"),
          ("good", .optimized 1),
          ("bad",
            .failed
              "generation failed: language model error: response error: busy")]) := by
    decide +kernel
  obtain ⟨program, ready⟩ := ready
  clear_value trainer host world half
  obtain ⟨outcomes, after, ran, _, _, accounts⟩ :=
    epoch_accounts_for_variables trainer host 60000 0
      half world program ready valid distinct unlocked built within
  rw [ran] at reported
  exact ⟨program, outcomes, after, ready, valid, distinct, unlocked,
    built, within, ran, Option.some.inj (Option.some.inj reported),
    accounts⟩

end Trainer
end PromptTuning
