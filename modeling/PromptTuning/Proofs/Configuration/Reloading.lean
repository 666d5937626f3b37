import Mathlib.Data.List.Induction
import PromptTuning.Configuration.Reloading

/-!
# The configuration in use

However often a configuration is loaded anew, the one in use is the one that was
accepted last, or the standard one before any was, and it is valid at any time.
Loads that overlap take effect in the order in which they store what they have
read.
-/

namespace PromptTuning
namespace Configuration

variable {path : String} {files : Files} {configuration : Configuration}

/-- The source at a path is read, understood and found to be free of faults. -/
def AcceptedFrom (files : Files) (path : String)
    (configuration : Configuration) : Prop :=
  ∃ source, files.read? path = some source ∧
    ofSource? source = some configuration ∧
    configuration.validate = .ok configuration

/-- A valid configuration passes validation as it is. -/
theorem validate_eq_ok_self_iff :
    configuration.validate = .ok configuration ↔ configuration.IsValid := by
  rw [validate_eq_ok_iff, and_iff_left rfl]

/-- What is loaded is the configuration that is accepted from the files. -/
theorem load_eq_ok_iff :
    load files path = .ok configuration ↔
    AcceptedFrom files path configuration := by
  unfold load AcceptedFrom
  cases files.read? path with
  | none => simp
  | some source =>
      simp only [Option.some.injEq, exists_eq_left', read]
      cases ofSource? source with
      | none => simp
      | some described =>
          simp only [mapError_eq_ok_iff, validate_eq_ok_iff, Option.some.injEq,
            and_true]
          constructor
          · rintro ⟨valid, rfl⟩
            exact ⟨rfl, valid⟩
          · rintro ⟨rfl, valid⟩
            exact ⟨valid, rfl⟩

/-- There is a configuration that is accepted from the files. -/
def Loadable (path : String) (files : Files) : Prop :=
  ∃ configuration, AcceptedFrom files path configuration

/-- An accepted configuration comes into use. -/
theorem reload_of_accepted {current : Configuration}
    (accepted : AcceptedFrom files path configuration) :
    reload path current files = configuration := by
  rw [reload, load_eq_ok_iff.mpr accepted, replaceWith_ok]

/-- Without an accepted configuration the one in use stays. -/
theorem reload_of_not_loadable {current : Configuration}
    (refused : ¬ Loadable path files) :
    reload path current files = current := by
  unfold reload
  cases loaded : load files path with
  | error => rfl
  | ok found => exact absurd ⟨found, load_eq_ok_iff.mp loaded⟩ refused

@[simp] theorem afterLoading_nil : afterLoading path [] = standard := rfl

/-- The latest files are loaded after all earlier ones. -/
theorem afterLoading_concat {history : List Files} :
    afterLoading path (history ++ [files]) =
      reload path (afterLoading path history) files := by
  simp [afterLoading]

/-- Files from which nothing is accepted change nothing. -/
theorem afterLoading_append_of_refused (history : List Files)
    {later : List Files} (refused : ∀ files ∈ later, ¬ Loadable path files) :
    afterLoading path (history ++ later) = afterLoading path history := by
  induction later using List.reverseRecOn with
  | nil => rw [List.append_nil]
  | append_singleton later files inductionHypothesis =>
      rw [← List.append_assoc, afterLoading_concat,
        reload_of_not_loadable (refused files (by simp))]
      exact inductionHypothesis fun earlier among =>
        refused earlier (by simp [among])

/-- The configuration was accepted from the latest of the files that any was
accepted from, or is the standard one and none was. -/
inductive LatestAccepted (path : String) : List Files -> Configuration -> Prop
  | standard {history : List Files}
      (refused : ∀ files ∈ history, ¬ Loadable path files) :
      LatestAccepted path history standard
  | loaded (earlier : List Files) {files : Files} {later : List Files}
      {configuration : Configuration}
      (accepted : AcceptedFrom files path configuration)
      (refused : ∀ files ∈ later, ¬ Loadable path files) :
      LatestAccepted path (earlier ++ files :: later) configuration

namespace LatestAccepted

variable {history : List Files}

/-- The configuration accepted last stays so when nothing new is accepted. -/
theorem concat_of_not_loadable
    (latest : LatestAccepted path history configuration)
    (refused : ¬ Loadable path files) :
    LatestAccepted path (history ++ [files]) configuration := by
  have refusedAfter {later : List Files}
      (before : ∀ other ∈ later, ¬ Loadable path other) :
        ∀ other ∈ later ++ [files], ¬ Loadable path other :=
    List.forall_mem_append.mpr ⟨before, List.forall_mem_singleton.mpr refused⟩
  cases latest with
  | standard before => exact .standard (refusedAfter before)
  | loaded earlier accepted before =>
      rw [List.append_assoc, List.cons_append]
      exact .loaded earlier accepted (refusedAfter before)

/-- The configuration in use is the one that was accepted last. -/
theorem of_afterLoading (path : String) (history : List Files) :
    LatestAccepted path history (afterLoading path history) := by
  induction history using List.reverseRecOn with
  | nil => exact .standard (List.forall_mem_nil _)
  | append_singleton history files inductionHypothesis =>
      rw [afterLoading_concat]
      by_cases loadable : Loadable path files
      · obtain ⟨configuration, accepted⟩ := loadable
        rw [reload_of_accepted accepted]
        exact .loaded history accepted (List.forall_mem_nil _)
      · rw [reload_of_not_loadable loadable]
        exact inductionHypothesis.concat_of_not_loadable loadable

/-- There is only one configuration that was accepted last. -/
theorem eq_afterLoading (latest : LatestAccepted path history configuration) :
    afterLoading path history = configuration := by
  cases latest with
  | standard refused => exact afterLoading_append_of_refused [] refused
  | loaded earlier accepted refused =>
      rw [← List.singleton_append, ← List.append_assoc,
        afterLoading_append_of_refused _ refused, afterLoading_concat,
        reload_of_accepted accepted]

/-- The configuration accepted last is valid. -/
theorem validate_eq_ok (latest : LatestAccepted path history configuration) :
    configuration.validate = .ok configuration := by
  cases latest with
  | standard => exact validate_eq_ok_self_iff.mpr isValid_standard
  | loaded _ accepted =>
      obtain ⟨_, _, _, valid⟩ := accepted
      exact valid

end LatestAccepted
end Configuration

namespace LoadStep

/-- The files whose configurations calls store, in the order in which they do,
if certain files are fetched already. -/
def stored (fetched : Nat -> Option Files) : List LoadStep -> List Files
  | [] => []
  | .fetch call files :: rest =>
      stored (Function.update fetched call (some files)) rest
  | .store call :: rest =>
      (fetched call).toList ++ stored (Function.update fetched call none) rest
  | .abandon call :: rest => stored (Function.update fetched call none) rest

/-- The steps of a call that no other call interrupts. -/
def uninterrupted (call : Nat) (files : Files) : List LoadStep :=
  [.fetch call files, .store call]

/-- Calls that nobody interrupts store the files in the order in
which they come. -/
theorem stored_flatMap_uninterrupted (call : Nat)
    (fetched : Nat -> Option Files) (history : List Files) :
    stored fetched (history.flatMap (uninterrupted call)) = history := by
  induction history generalizing fetched with
  | nil => rfl
  | cons files rest inductionHypothesis =>
      simp [uninterrupted, stored, inductionHypothesis]

end LoadStep

namespace SharedConfiguration

/-- What is accepted of the files that calls have fetched. -/
def loadedFrom (path : String) (fetched : Nat -> Option Files) (call : Nat) :
    Option Configuration :=
  (fetched call).bind fun files => (Configuration.load files path).toOption

/-- What a call has fetched next is what it has loaded next. -/
theorem update_loadedFrom (path : String) (fetched : Nat -> Option Files)
    (call : Nat) (files : Option Files) :
    Function.update (loadedFrom path fetched) call (files.bind fun files =>
        (Configuration.load files path).toOption) =
      loadedFrom path (Function.update fetched call files) := by
  funext other
  by_cases same : other = call
  · subst same
    simp [loadedFrom]
  · simp [loadedFrom, same]

/-- Storing what a call has loaded is loading what it has fetched. -/
theorem getD_loadedFrom (path : String) (current : Configuration)
    (fetched : Nat -> Option Files) (call : Nat) :
    (loadedFrom path fetched call).getD current =
      (fetched call).toList.foldl (Configuration.reload path) current := by
  unfold loadedFrom
  cases fetched call with
  | none => rfl
  | some files =>
      cases loaded : Configuration.load files path <;>
        simp [Configuration.reload, loaded, Except.toOption]

/-- Calls that overlap have the effect that they would have one after another,
in the order in which they store. -/
theorem current_foldl_step (path : String) (current : Configuration)
    (fetched : Nat -> Option Files) (steps : List LoadStep) :
    (steps.foldl (step path) ⟨current, loadedFrom path fetched⟩).current =
      (LoadStep.stored fetched steps).foldl
        (Configuration.reload path) current := by
  -- By induction on the steps: what waits to be stored is what is accepted of
  -- the fetched files, so that storing it is loading those files.
  induction steps generalizing current fetched with
  | nil => rfl
  | cons next rest inductionHypothesis =>
      rw [List.foldl_cons]
      cases next with
      | fetch call files =>
          exact (congrArg
            (fun waiting => (rest.foldl (step path) ⟨current, waiting⟩).current)
            (update_loadedFrom path fetched call (some files))).trans
            (inductionHypothesis _ _)
      | store call =>
          rw [LoadStep.stored, List.foldl_append, ← getD_loadedFrom,
            ← inductionHypothesis, ← update_loadedFrom]
          rfl
      | abandon call =>
          rw [LoadStep.stored, ← inductionHypothesis, ← update_loadedFrom]
          rfl

/-- The configuration in use is that of the stored files, loaded one
after another. -/
theorem current_run (path : String) (steps : List LoadStep) :
    (run path steps).current =
      Configuration.afterLoading path (LoadStep.stored (fun _ => none) steps) :=
  current_foldl_step path .standard (fun _ => none) steps

/-- A call that stores last prevails, even if it was the first to
read the file. -/
example (path : String) (first second : Files) :
    (run path [.fetch 0 first, .fetch 1 second, .store 1, .store 0]).current =
      Configuration.afterLoading path [second, first] :=
  current_run path _

end SharedConfiguration

namespace Configuration

/-- Whatever the files are each time, after every load the configuration in use
is the one accepted from the latest files that any was accepted from, or the
standard one if there are none; however loads overlap, the same holds of the
files in the order in which their configurations are stored, and the
configuration that can be read is always a valid one. -/
theorem latest_accepted_in_use (path : String) :
    (∀ history configuration,
      afterLoading path history = configuration ↔
      LatestAccepted path history configuration) ∧
    (∀ call history,
      (SharedConfiguration.run path
        (history.flatMap (LoadStep.uninterrupted call))).current =
        afterLoading path history) ∧
    ∀ steps,
      LatestAccepted path (LoadStep.stored (fun _ => none) steps)
          (SharedConfiguration.run path steps).current ∧
        (SharedConfiguration.run path steps).current.validate =
          .ok (SharedConfiguration.run path steps).current := by
  refine ⟨fun history configuration => ?_, fun call history => ?_,
    fun steps => ?_⟩
  · exact ⟨fun inUse => inUse ▸ .of_afterLoading path history,
      LatestAccepted.eq_afterLoading⟩
  · rw [SharedConfiguration.current_run, LoadStep.stored_flatMap_uninterrupted]
  · have latest := LatestAccepted.of_afterLoading path
      (LoadStep.stored (fun _ => none) steps)
    rw [SharedConfiguration.current_run]
    exact ⟨latest, latest.validate_eq_ok⟩

end Configuration
end PromptTuning
