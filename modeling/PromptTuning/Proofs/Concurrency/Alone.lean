import PromptTuning.Proofs.Concurrency.Invariance
import PromptTuning.Proofs.Concurrency.Serial

/-!
# Activities that run alone

An activity that runs alone is answered by the world as it left it. A property
of the stored variables that each of its steps keeps is kept to its end, and
once its owner has let go of everything, nobody holds or awaits a lock.
-/

namespace PromptTuning

variable {σ : Type}

namespace Activity

variable {α β : Type} (host : ModelHost σ) (owner : Owner) (limit : Nat)

/-- What comes next runs in the world that the first part leaves, unless that
is given up. -/
theorem run_bind (activity : Activity α) (next : α -> Activity β)
    (world : World σ) :
    (activity.bind next).run host owner limit world =
      match activity.run host owner limit world with
      | (some result, after) => (next result).run host owner limit after
      | (none, after) => (none, after) := by
  induction activity generalizing world with
  | done result => rfl
  | act action resume inductionHypothesis => exact inductionHypothesis _ _
  | lock store key resume inductionHypothesis =>
      simp only [bind, run]
      cases (world.stores store).requestLock owner key with
      | refused reason => exact inductionHypothesis _ _
      | granted after => exact inductionHypothesis _ _
      | queued after => rfl
  | generate model request resume inductionHypothesis =>
      simp only [bind, run]
      split
      · exact inductionHypothesis _ _
      · rfl

/-- A run that ended goes on with what follows its result. -/
theorem run_bind_of_run
    {activity : Activity α}
    {world after : World σ}
    {result : α}
    (ran : activity.run host owner limit world = (some result, after))
    (next : α -> Activity β) :
    (activity.bind next).run host owner limit world =
      (next result).run host owner limit after := by
  rw [run_bind, ran]

variable {world : World σ} {id : StoreId} {valid : Variable -> Prop}

/-- What an activity alone comes to is what its steps lead to, and the stored
variables have the property that its steps keep. -/
theorem Keeps.run
    {post : α -> Prop}
    {activity : Activity α}
    (keeps : activity.Keeps id valid post)
    (all : (world.stores id).All valid) :
    (∀ result,
      (activity.run host owner limit world).1 = some result -> post result) ∧
      ((activity.run host owner limit world).2.stores id).All valid := by
  induction keeps generalizing world with
  | done fits =>
      refine ⟨?_, all⟩
      rintro result ⟨⟩
      exact fits
  | act keeps _ inductionHypothesis =>
      obtain ⟨told, kept⟩ := World.all_perform all keeps owner
      exact inductionHypothesis _ told kept
  | @lock store key resume _ inductionHypothesis =>
      simp only [Activity.run]
      cases request : (world.stores store).requestLock owner key with
      | refused reason => exact inductionHypothesis _ all
      | granted after =>
          refine inductionHypothesis _ (World.all_setStore all ?_)
          rintro rfl
          exact all.requestLock (.inl request)
      | queued after => exact ⟨by rintro _ ⟨⟩, all⟩
  | generate _ inductionHypothesis =>
      simp only [Activity.run]
      split
      · exact inductionHypothesis _ all
      · exact ⟨by rintro _ ⟨⟩, all⟩

/-- Whatever an activity does alone, order and contents stay in step. -/
theorem consistent_run
    (activity : Activity α)
    (inStep : (world.stores id).view.Consistent) :
    ((activity.run host owner limit world).2.stores id).view.Consistent := by
  induction activity generalizing world with
  | done result => exact inStep
  | act action resume inductionHypothesis =>
      exact inductionHypothesis _
        ((World.written_perform inStep owner action).consistent inStep)
  | lock store key resume inductionHypothesis =>
      simp only [Activity.run]
      cases request : (world.stores store).requestLock owner key with
      | refused reason => exact inductionHypothesis _ inStep
      | granted after =>
          refine inductionHypothesis _ ?_
          rw [World.view_setStore (Store.view_of_granted request)]
          exact inStep
      | queued after => exact inStep
  | generate model request resume inductionHypothesis =>
      simp only [Activity.run]
      split
      · exact inductionHypothesis _ inStep
      · exact inStep

end Activity

namespace Progress

variable {α : Type} {world : World σ} {id : StoreId}

/-- What every entry of a store has, it has after any number of steps
that keep it. -/
theorem all_steps
    {valid : Variable -> Prop}
    {progress : Progress α}
    (host : ModelHost σ)
    (owner : Owner)
    (count : Nat)
    (all : (world.stores id).All valid)
    (keeps : progress.Keeps id valid) :
    ((progress.steps host owner count world).2.stores id).All valid := by
  induction count generalizing progress world with
  | zero => exact all
  | succ count inductionHypothesis =>
      obtain ⟨left, kept⟩ := all_step all keeps host owner
      exact inductionHypothesis kept left

/-- The tables of a store stay in step over any number of steps. -/
theorem consistent_steps
    (host : ModelHost σ)
    (owner : Owner)
    (count : Nat)
    (progress : Progress α)
    (inStep : (world.stores id).view.Consistent) :
    ((progress.steps host owner count world).2.stores id).view.Consistent := by
  induction count generalizing progress world with
  | zero => exact inStep
  | succ count inductionHypothesis =>
      exact inductionHypothesis _
        ((written_step inStep host owner progress).consistent inStep)

/-- A step takes no lock for anyone but its owner. -/
theorem usedBy_step
    {owner : Owner}
    (host : ModelHost σ)
    (progress : Progress α)
    (used : (world.stores id).UsedBy owner) :
    ((progress.step host owner world).2.stores id).UsedBy owner := by
  have replaced {other : StoreId} {key : String} {after : Store}
      (request : (world.stores other).requestLock owner key = .granted after ∨
        (world.stores other).requestLock owner key = .queued after) :
      ((world.setStore other after).stores id).UsedBy owner := by
    by_cases same : id = other
    · subst same
      rw [World.stores_setStore_self]
      exact used.requestLock request
    · rw [World.stores_setStore_of_ne world same]
      exact used
  have goes := progress.goesOn_step host owner world
  generalize progress.step host owner world = next at goes ⊢
  cases goes with
  | acted action resume => exact Activity.usedBy_perform used action
  | granted after request => exact replaced (.inl request)
  | queued after request => exact replaced (.inr request)
  | _ => exact used

/-- Whoever is dropped after some steps alone leaves no lock in use. -/
theorem unlocked_steps
    (host : ModelHost σ)
    (owner : Owner)
    (count : Nat)
    (progress : Progress α)
    (unlocked : (world.stores id).Unlocked) :
    (((progress.steps host owner count world).2.abandon owner).stores
      id).Unlocked := by
  suffices used : ((progress.steps host owner count world).2.stores id).UsedBy
    owner from
    used.releaseAll
  have used := unlocked.usedBy owner
  clear unlocked
  induction count generalizing progress world with
  | zero => exact used
  | succ count inductionHypothesis =>
      exact inductionHypothesis _ (usedBy_step host progress used)

end Progress
end PromptTuning
