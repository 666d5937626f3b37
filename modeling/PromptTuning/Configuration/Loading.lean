import PromptTuning.Configuration.Source
import PromptTuning.Configuration.Validation
import PromptTuning.Diagnostic
import PromptTuning.Files

/-!
# Loading configurations

A configuration is loaded from a file: the file is read, its source understood
and the configuration checked. The configuration in use is replaced only by one
that was loaded.
-/

namespace PromptTuning

/-- Why a configuration cannot be loaded. -/
inductive ConfigurationError
  | unreadable
  | malformed
  | invalid (fault : ConfigurationFault)
  deriving DecidableEq

namespace ConfigurationError

/-- The wording of a configuration error, where it has one. -/
def message? : ConfigurationError -> Option String
  | .invalid fault => some ("Invalid config: " ++ fault.message)
  | .unreadable | .malformed => none

/-- The code of a configuration error. -/
def code : ConfigurationError -> String
  | .unreadable => "Config.Io"
  | .malformed => "Config.Parse"
  | .invalid _ => "Config.Invalid"

instance : Diagnostic ConfigurationError :=
  ⟨code, fun error => error.message?.getD "", fun _ => []⟩

end ConfigurationError

namespace Configuration

/-- The valid configuration that a source describes. -/
def read (source : String) : Except ConfigurationError Configuration :=
  match ofSource? source with
  | none => .error .malformed
  | some configuration => configuration.validate.mapError .invalid

/-- The configuration in a file. -/
def load (files : Files) (path : String) :
    Except ConfigurationError Configuration :=
  match files.read? path with
  | none => .error .unreadable
  | some source => read source

/-- The configuration in use after an attempt to load another one. -/
def replaceWith (current : Configuration)
    (loaded : Except ConfigurationError Configuration) :
    Configuration :=
  match loaded with
  | .ok configuration => configuration
  | .error _ => current

@[simp] theorem replaceWith_ok (current loaded : Configuration) :
    current.replaceWith (.ok loaded) = loaded := rfl

@[simp] theorem replaceWith_error (current : Configuration)
    (reason : ConfigurationError) :
    current.replaceWith (.error reason) = current := rfl

/-- A configuration that is read is valid. -/
theorem isValid_of_read_eq_ok
    {source : String}
    {configuration : Configuration}
    (loaded : read source = .ok configuration) :
    configuration.IsValid := by
  unfold read at loaded
  split at loaded
  · simp at loaded
  · rename_i described _
    obtain ⟨valid, same⟩ :=
      (validate_eq_ok_iff described configuration).1
        (mapError_eq_ok_iff.mp loaded)
    exact same ▸ valid

end Configuration

end PromptTuning
