import Mathlib.Data.List.Forall2
import PromptTuning.Concurrency.Progress

/-!
# What a step does

A step of an activity goes one of a few ways, each a case of one relation, so
that what holds of a step is proved case by case. An activity alone and an
activity in a schedule do nothing but take such steps until they have to wait.
The members of a crew are all done exactly if each of them has an outcome.
-/

namespace PromptTuning

variable {σ : Type}

namespace Progress

variable {α : Type}

/-- What a step makes of an activity and its world, one case for each way
that it can go. -/
inductive GoesOn (host : ModelHost σ) (owner : Owner) (world : World σ) :
    Progress α -> Progress α × World σ -> Prop
  | through (result : α) :
      GoesOn host owner world (.active (.done result))
        (.active (.done result), world)
  | acted (action : Action) (resume : action.Answer -> Activity α) :
      GoesOn host owner world (.active (.act action resume))
        (.active (resume (world.perform owner action).1),
          (world.perform owner action).2)
  | replied
      (model : LanguageModel)
      (request : GenerationRequest)
      (resume : Except LanguageModelError Value -> Activity α) :
      GoesOn host owner world (.active (.generate model request resume))
        (.active (resume (world.ask host model request).1),
          (world.ask host model request).2)
  | refused
      {store : StoreId}
      {key : String}
      {resume : Except StoreError Unit -> Activity α}
      (reason : StoreError)
      (request : (world.stores store).requestLock owner key = .refused reason) :
      GoesOn host owner world (.active (.lock store key resume))
        (.active (resume (.error reason)), world)
  | granted
      {store : StoreId}
      {key : String}
      {resume : Except StoreError Unit -> Activity α}
      (after : Store)
      (request : (world.stores store).requestLock owner key = .granted after) :
      GoesOn host owner world (.active (.lock store key resume))
        (.active (resume (.ok ())), world.setStore store after)
  | queued
      {store : StoreId}
      {key : String}
      {resume : Except StoreError Unit -> Activity α}
      (after : Store)
      (request : (world.stores store).requestLock owner key = .queued after) :
      GoesOn host owner world (.active (.lock store key resume))
        (.waiting store key resume, world.setStore store after)
  | resumed
      {store : StoreId}
      {key : String}
      {resume : Except StoreError Unit -> Activity α}
      (holds : (world.stores store).isHolder owner key = true) :
      GoesOn host owner world (.waiting store key resume)
        (.active (resume (.ok ())), world)
  | waits
      {store : StoreId}
      {key : String}
      {resume : Except StoreError Unit -> Activity α}
      (lacks : (world.stores store).isHolder owner key = false) :
      GoesOn host owner world (.waiting store key resume)
        (.waiting store key resume, world)

theorem goesOn_step
    (host : ModelHost σ)
    (owner : Owner)
    (progress : Progress α)
    (world : World σ) :
    progress.GoesOn host owner world (progress.step host owner world) := by
  cases progress with
  | waiting store key resume =>
      cases holds : (world.stores store).isHolder owner key with
      | true =>
          simp only [step, holds, if_true]
          exact .resumed holds
      | false =>
          simp only [step, holds, Bool.false_eq_true, if_false]
          exact .waits holds
  | active rest =>
      cases rest with
      | done result => exact .through result
      | act action resume => exact .acted action resume
      | generate model request resume => exact .replied model request resume
      | lock store key resume =>
          cases request : (world.stores store).requestLock owner key with
          | refused reason =>
              simp only [step, request]
              exact .refused reason request
          | granted after =>
              simp only [step, request]
              exact .granted after request
          | queued after =>
              simp only [step, request]
              exact .queued after request

theorem steps_succ (host : ModelHost σ) (owner : Owner) (count : Nat)
    (progress : Progress α) (world : World σ) :
    steps host owner (count + 1) progress world =
      steps host owner count (progress.step host owner world).1
        (progress.step host owner world).2 := rfl

/-- An activity with an outcome is done. -/
theorem eq_done_of_outcome?
    {progress : Progress α}
    {outcome : α}
    (came : progress.outcome? = some outcome) :
    progress = .active (.done outcome) := by
  unfold outcome? at came
  split at came
  · rw [Option.some.inj came]
  · contradiction

end Progress

namespace Activity

variable {α : Type}

/-- A schedule that lets an activity go on until it has to wait takes some
number of steps. -/
theorem exists_steps_eq_advance
    (host : ModelHost σ)
    (owner : Owner)
    (activity : Activity α)
    (world : World σ) :
    ∃ count, Progress.steps host owner count (.active activity) world =
      (.ofPause (activity.advance host owner world).1,
        (activity.advance host owner world).2) := by
  induction activity generalizing world with
  | done result => exact ⟨0, rfl⟩
  | act action resume inductionHypothesis =>
      obtain ⟨count, reached⟩ :=
        inductionHypothesis (world.perform owner action).1
          (world.perform owner action).2
      exact ⟨count + 1, by rw [Progress.steps_succ]; exact reached⟩
  | lock store key resume inductionHypothesis =>
      cases request : (world.stores store).requestLock owner key with
      | refused reason =>
          obtain ⟨count, reached⟩ := inductionHypothesis (.error reason) world
          refine ⟨count + 1, ?_⟩
          rw [Progress.steps_succ]
          simpa only [Progress.step, advance, request] using reached
      | granted after =>
          obtain ⟨count, reached⟩ :=
            inductionHypothesis (.ok ()) (world.setStore store after)
          refine ⟨count + 1, ?_⟩
          rw [Progress.steps_succ]
          simpa only [Progress.step, advance, request] using reached
      | queued after =>
          refine ⟨1, ?_⟩
          simp only [Progress.steps, Progress.step, advance, request,
            Progress.ofPause]
  | generate model request resume inductionHypothesis =>
      by_cases soon : host.wait world.models model request = 0
      · obtain ⟨count, reached⟩ :=
          inductionHypothesis (world.ask host model request).1
            (world.ask host model request).2
        refine ⟨count + 1, ?_⟩
        rw [Progress.steps_succ]
        simpa only [Progress.step, advance, soon, if_true] using reached
      · exact ⟨0,
          by simp only [Progress.steps, advance, soon, if_false,
            Progress.ofPause]⟩

/-- Whether the next step is one that no answer is waited for. -/
def actsNext : Activity α -> Bool
  | .act _ _ | .lock _ _ _ => true
  | _ => false

/-- What comes next goes on where the first part ends, and waits where the first
part waits. -/
theorem advance_bind
    {β : Type}
    (host : ModelHost σ)
    (owner : Owner)
    (activity : Activity α)
    (next : α -> Activity β)
    (world : World σ) :
    (activity.bind next).advance host owner world =
      match activity.advance host owner world with
      | (.finished result, after) => (next result).advance host owner after
      | (.awaitingLock store key resume, after) =>
          (.awaitingLock store key fun outcome => (resume outcome).bind next,
            after)
      | (.awaitingModel due model request resume, after) =>
          (.awaitingModel due model request fun reply =>
            (resume reply).bind next, after) := by
  induction activity generalizing world with
  | done result => rfl
  | act action resume inductionHypothesis => exact inductionHypothesis _ _
  | lock store key resume inductionHypothesis =>
      simp only [bind, advance]
      cases (world.stores store).requestLock owner key with
      | refused reason => exact inductionHypothesis _ _
      | granted after => exact inductionHypothesis _ _
      | queued after => rfl
  | generate model request resume inductionHypothesis =>
      simp only [bind, advance]
      split
      · exact inductionHypothesis _ _
      · rfl

section Steps

variable {host : ModelHost σ} {owner : Owner} {activity rest : Activity α}
  {world after : World σ}

/-- A step that no answer is waited for is what an activity alone does first. -/
theorem run_of_step
    (limit : Nat)
    (acts : activity.actsNext = true)
    (stepped : (Progress.active activity).step host owner world =
      (.active rest, after)) :
    activity.run host owner limit world = rest.run host owner limit after := by
  have goes := (Progress.active activity).goesOn_step host owner world
  rw [stepped] at goes
  cases goes with
  | through | replied => contradiction
  | acted => rfl
  | refused reason request => simp only [run, request]
  | granted after request => simp only [run, request]

/-- A step that no answer is waited for is what a schedule lets an
activity do first. -/
theorem advance_of_step
    (acts : activity.actsNext = true)
    (stepped : (Progress.active activity).step host owner world =
      (.active rest, after)) :
    activity.advance host owner world = rest.advance host owner after := by
  have goes := (Progress.active activity).goesOn_step host owner world
  rw [stepped] at goes
  cases goes with
  | through | replied => contradiction
  | acted => rfl
  | refused reason request => simp only [advance, request]
  | granted after request => simp only [advance, request]

end Steps

end Activity

namespace Crew

/-- All members are done if each has an outcome. -/
theorem outcomes?_eq_some {α : Type} {crew : Crew σ α} {outcomes : List α} :
    crew.outcomes? = some outcomes ↔
      List.Forall₂ (fun member outcome => member.2.outcome? = some outcome)
        crew.members outcomes := by
  obtain ⟨world, members⟩ := crew
  change members.mapM (·.2.outcome?) = some outcomes ↔
    List.Forall₂ _ members outcomes
  induction members generalizing outcomes with
  | nil => simp [eq_comm]
  | cons member members inductionHypothesis =>
      rw [List.forall₂_cons_left_iff, List.mapM_cons]
      simp only [← inductionHypothesis]
      cases member.2.outcome? <;> cases members.mapM (·.2.outcome?) <;>
        simp [eq_comm]

end Crew
end PromptTuning
