import PromptTuning.Proofs.Concurrency.Rehearsal
import PromptTuning.Proofs.Concurrency.Touching
import PromptTuning.Proofs.Optimizer.Determined

/-!
# Passes let go of their locks

Once a pass has the lock of its key it waits for answers alone, at most as often
as its program asks, whatever the variable is and whether the program is there,
still to be built or cannot be built. Each answer brings it closer to its end,
where it lets go of the lock.
-/

namespace PromptTuning

variable {σ : Type}

/-- The work of some owners on a key each leaves all else as it is, except that
an optimizer may have built its program. No time passes. -/
structure World.Works (optimizer : Optimizer) (id : StoreId)
    (items : List (String × Owner))
    (before after : World σ) : Prop where
  store : (before.stores id).Touches items (after.stores id)
  program : (after.useProgram optimizer).1 = (before.useProgram optimizer).1
  clock : after.clock = before.clock

namespace World

variable {optimizer : Optimizer} {id : StoreId} {items : List (String × Owner)}
  {before between after world : World σ}

namespace Works

theorem refl (world : World σ) : Works optimizer id items world world :=
  ⟨.refl items _, rfl, rfl⟩

theorem trans (first : Works optimizer id items before between)
    (second : Works optimizer id items between after) :
    Works optimizer id items before after where
  store := first.store.trans second.store
  program := second.program.trans first.program
  clock := second.clock.trans first.clock

/-- Who touches no program keeps the one that would be used. -/
theorem of_touches
    (store : (before.stores id).Touches items (after.stores id))
    (programs : after.programs = before.programs)
    (clock : after.clock = before.clock) :
    Works optimizer id items before after where
  store := store
  program := by rw [useProgram_fst, useProgram_fst, programs]
  clock := clock

theorem setStore {store : Store}
    (touches : (world.stores id).Touches items store) :
    Works optimizer id items world (world.setStore id store) := by
  refine .of_touches ?_ rfl rfl
  rw [stores_setStore_self]
  exact touches

theorem useProgram :
    Works optimizer id items world (world.useProgram optimizer).2 := by
  obtain ⟨programs, after⟩ := world.exists_useProgram_eq optimizer
  refine ⟨?_, ?_, ?_⟩
  · rw [after]
    exact .refl items _
  · rw [useProgram_fst, useProgram_fst]
    obtain kept | ⟨_, absent, program, built, stored⟩ :=
      world.programs_useProgram optimizer optimizer.id
    · rw [kept]
    · rw [stored, absent, Option.elim_some, Option.elim_none, built]
  · rw [after]

end Works
end World

section LettingGo

variable (optimizer : Optimizer) (known : Except BuildError Module)
  (store : StoreId) (key : String)

/-- An activity under the lock of a key: it reads, asks a number of questions at
most with the program that is known, commits under its key, and lets go of the
lock in the end. -/
inductive Activity.LetsGo {α : Type} : Nat -> Activity α -> Prop
  | release {count : Nat} {result : α} :
      LetsGo count (Optimizer.release store key result)
  | read {count : Nat} {id : StoreId} {name : String}
      {resume : Option Variable -> Activity α}
      (resumed : ∀ found, LetsGo count (resume found)) :
      LetsGo count (.act (.read id name) resume)
  | program {count : Nat} {resume : Except BuildError Module -> Activity α}
      (resumed : LetsGo count (resume known)) :
      LetsGo count (.act (.program optimizer) resume)
  | commit {count : Nat} {entry : Variable} {resume : Unit -> Activity α}
      (named : entry.key = key)
      (resumed : LetsGo count (resume ())) :
      LetsGo count (.act (.commit store entry) resume)
  | generate {count : Nat} {model : LanguageModel} {request : GenerationRequest}
      {resume : Reply -> Activity α}
      (resumed : ∀ reply, LetsGo count (resume reply)) :
      LetsGo (count + 1) (.generate model request resume)

/-- An activity holds the lock of its key, under which there is a variable, and
uses the program that is known. -/
structure World.Ready (owner : Owner) (world : World σ) : Prop where
  program : (world.useProgram optimizer).1 = known
  held : (world.stores store).HeldBy key owner
  stored : ∃ entry, (world.stores store).find? key = some entry

/-- Where an activity comes to rest that lets go of a lock: at its end, or
waiting for one of the answers that it may still get. -/
inductive Activity.Pause.LetsGo {α : Type} (owner : Owner) (world : World σ) :
    Nat -> Activity.Pause α -> Prop
  | finished {result : α} (free : (world.stores store).IsFree key) :
      LetsGo owner world 0 (.finished result)
  | awaiting {count due : Nat} {model : LanguageModel}
      {request : GenerationRequest} {resume : Reply -> Activity α}
      (ready : world.Ready optimizer known store key owner)
      (later : world.clock ≤ due)
      (resumed :
        ∀ reply, (resume reply).LetsGo optimizer known store key count) :
      LetsGo owner world (count + 1) (.awaitingModel due model request resume)

/-- An activity goes on until it lets go of its lock, or waits for one of so
many answers. -/
def Activity.ComesToRest {α : Type} (host : ModelHost σ) (owner : Owner)
    (world : World σ) (count : Nat)
    (activity : Activity α) : Prop :=
  ∃ left pause after, left ≤ count ∧
    activity.advance host owner world = (pause, after) ∧
    World.Works optimizer store [(key, owner)] world after ∧
    pause.LetsGo optimizer known store key owner after left

end LettingGo

variable {optimizer : Optimizer} {known : Except BuildError Module}
  {store : StoreId} {key : String} {owner : Owner} {world after : World σ}

namespace World.Ready

/-- Who still holds the lock and finds a variable after some work is
ready as before. -/
theorem of_works
    (ready : world.Ready optimizer known store key owner)
    (works : World.Works optimizer store [(key, owner)] world after)
    (held : (after.stores store).HeldBy key owner) :
    after.Ready optimizer known store key owner where
  program := works.program.trans ready.program
  held := held
  stored := by
    obtain ⟨entry, found⟩ := ready.stored
    have present :=
      Store.contains_iff_mem_keys.mp (Store.contains_of_find? found)
    rw [← works.store.keys] at present
    exact Store.contains_iff_find?.mp (Store.contains_iff_mem_keys.mpr present)

/-- Time changes nothing for who holds a lock. -/
theorem atClock (ready : world.Ready optimizer known store key owner)
    (clock : Nat) :
    (world.atClock clock).Ready optimizer known store key owner where
  program := by
    rw [World.useProgram_fst]
    exact (world.useProgram_fst optimizer).symm.trans ready.program
  held := ready.held
  stored := ready.stored

end World.Ready

namespace Activity

variable {α : Type} {activity rest : Activity α} {host : ModelHost σ}
  {count more : Nat}

/-- A step of work before an activity that comes to rest. -/
theorem ComesToRest.of_works
    (rests : rest.ComesToRest optimizer known store key host owner after count)
    (works : World.Works optimizer store [(key, owner)] world after)
    (fits : count ≤ more)
    (goesOn :
      activity.advance host owner world = rest.advance host owner after) :
    activity.ComesToRest optimizer known store key host owner world more := by
  obtain ⟨left, pause, final, leftFits, advanced, worksOn, letsGo⟩ := rests
  exact ⟨left, pause, final, Nat.le_trans leftFits fits, goesOn.trans advanced,
    works.trans worksOn, letsGo⟩

end Activity

namespace Activity.LetsGo

variable {α : Type} {count : Nat}

/-- An activity under a lock goes on until it has to wait for an answer,
or lets go. -/
theorem advance
    {activity : Activity α}
    (letsGo : activity.LetsGo optimizer known store key count)
    (ready : world.Ready optimizer known store key owner)
    (host : ModelHost σ) :
    activity.ComesToRest optimizer known store key host owner world count := by
  induction letsGo generalizing world with
  | release =>
      obtain ⟨free, touched⟩ := ready.held.releaseLock
      refine ⟨0, _, _, Nat.zero_le _, rfl, .setStore touched, .finished ?_⟩
      rw [World.stores_setStore_self]
      exact free
  | read _ inductionHypothesis => exact inductionHypothesis _ ready
  | program _ inductionHypothesis =>
      have held :
          (((world.useProgram optimizer).2).stores store).HeldBy key owner := by
        rw [World.stores_useProgram]
        exact ready.held
      refine (inductionHypothesis (ready.of_works .useProgram held)).of_works
        .useProgram (Nat.le_refl _)
        ?_
      rw [← ready.program]
      rfl
  | commit named _ inductionHypothesis =>
      obtain ⟨stored, found⟩ := ready.stored
      obtain ⟨_, held, touched⟩ := ready.held.commit found named world.now
      have works : World.Works optimizer store [(key, owner)] world _ :=
        .setStore touched
      refine (inductionHypothesis (ready.of_works works ?_)).of_works works
        (Nat.le_refl _) rfl
      rw [World.stores_setStore_self]
      exact held
  | @generate count model request resume resumed inductionHypothesis =>
      by_cases soon : host.wait world.models model request = 0
      · have works : World.Works optimizer store [(key, owner)] world
          (world.ask host model request).2 := .of_touches (.refl _ _) rfl rfl
        refine (inductionHypothesis (world.ask host model request).1
          (ready.of_works works ready.held)).of_works works (Nat.le_succ _) ?_
        simp only [Activity.advance, soon, if_true]
      · have advanced :
            (Activity.generate model request resume).advance host owner world =
              (.awaitingModel
                (world.clock + host.wait world.models model request) model
                request resume,
                world) := by
          simp only [Activity.advance, soon, if_false]
        exact ⟨count + 1, _, world, Nat.le_refl _, advanced, .refl world,
          .awaiting ready (Nat.le_add_right _ _) resumed⟩

end Activity.LetsGo

namespace Activity.Asks

variable {α β : Type} {post : α -> Prop} {count : Nat}

/-- Who asks some questions and then lets go asks no more than these. -/
theorem letsGo_bind
    {activity : Activity α}
    {next : α -> Activity β}
    (asks : activity.Asks post count)
    (letsGo :
      ∀ result more, (next result).LetsGo optimizer known store key more) :
    (activity.bind next).LetsGo optimizer known store key count := by
  induction asks with
  | done _ => exact letsGo _ _
  | read _ inductionHypothesis => exact .read inductionHypothesis
  | generate _ inductionHypothesis => exact .generate inductionHypothesis

end Activity.Asks

namespace Optimizer

theorem letsGo_settle
    {count : Nat}
    {entry : Variable}
    {ended : Except OptimizationError OptimizeReport × Variable}
    (named : ended.2.key = key) :
    (settle store key entry ended).LetsGo optimizer known store key count := by
  unfold settle
  split
  · exact .commit named .release
  · exact .release

/-- A pass that has read its variable asks no more questions than its program,
and lets go. -/
theorem letsGo_optimize
    (optimizer : Optimizer)
    (known : Except BuildError Module)
    (store : StoreId)
    (entry : Variable)
    (reward : Double) :
    ((optimizer.optimize entry reward).bind
      (settle store entry.key entry)).LetsGo optimizer known store
      entry.key (questionsOf known) := by
  by_cases valid : isValidReward reward = true
  case neg =>
    rw [optimizer.optimize_of_invalid entry (Bool.eq_false_iff.mpr valid),
      Activity.bind_done]
    exact letsGo_settle rfl
  by_cases unbuilt : entry.phase = .unbuilt
  · rw [optimizer.optimize_of_unbuilt valid unbuilt, Activity.bind_done]
    exact letsGo_settle rfl
  rw [optimizer.optimize_of_built valid unbuilt]
  refine .program ?_
  cases known with
  | error cause =>
      rw [proceed, Activity.bind_done]
      exact letsGo_settle rfl
  | ok program =>
      by_cases scored : entry.unscoredCount = 0
      · rw [proceed, if_pos scored, Activity.bind_done]
        exact letsGo_settle rfl
      · rw [proceed, if_neg scored, Activity.bind_assoc]
        refine (optimizer.asks_generate program
          (entry.scoredAt reward)).letsGo_bind ?_
        intro outcome more
        rw [Activity.bind_done]
        refine letsGo_settle ?_
        cases outcome <;> rfl

end Optimizer
end PromptTuning
