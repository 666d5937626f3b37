import Mathlib.Logic.Function.Basic
import PromptTuning.Configuration.Loading

/-!
# Loading a configuration anew

A configuration is loaded anew from time to time, from a file that may have
changed, become unusable or gone. What is accepted replaces the configuration in
use; everything else leaves it alone. Loads may overlap: each reads the file
first and then waits until it may store what it has read.
-/

namespace PromptTuning

namespace Configuration

/-- The configuration in use after one more attempt to load it. -/
def reload (path : String) (current : Configuration) (files : Files) :
    Configuration :=
  current.replaceWith (load files path)

/-- The configuration in use after loading it from the files as they were, one
after another. -/
def afterLoading (path : String) (history : List Files) : Configuration :=
  history.foldl (reload path) standard

end Configuration

/-- A configuration that is shared while calls load it anew. -/
structure SharedConfiguration where
  current : Configuration
  /-- What a call has loaded and not yet stored. -/
  waiting : Nat -> Option Configuration

/-- What a call that loads a configuration does next. -/
inductive LoadStep
  /-- Read the file as it is now. -/
  | fetch (call : Nat) (files : Files)
  /-- Store what was loaded, once no other call uses the configuration. -/
  | store (call : Nat)
  /-- Be dropped before anything is stored. -/
  | abandon (call : Nat)

namespace SharedConfiguration

/-- The shared configuration before the first call. -/
def initial : SharedConfiguration :=
  ⟨.standard, fun _ => none⟩

/-- Take a step of a call. -/
def step (path : String) (shared : SharedConfiguration) :
    LoadStep -> SharedConfiguration
  | .fetch call files =>
      { shared with
        waiting :=
          Function.update shared.waiting call
            (Configuration.load files path).toOption }
  | .store call =>
      ⟨(shared.waiting call).getD shared.current,
        Function.update shared.waiting call none⟩
  | .abandon call =>
      { shared with waiting := Function.update shared.waiting call none }

/-- The shared configuration after the steps of calls, in any order. -/
def run (path : String) (steps : List LoadStep) : SharedConfiguration :=
  steps.foldl (step path) initial

end SharedConfiguration
end PromptTuning
