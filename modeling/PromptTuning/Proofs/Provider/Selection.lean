import PromptTuning.Provider.Serving

/-!
# Selecting backends and profiles

Where names are repeated the first one counts. So a backend that is selected in
whatever way, by the name in a profile, by the name of the default or as the
first one, is the backend that its own name leads to, and the same holds of
profiles. What a backend serves has the parameters it was asked for and carries
the name of the backend.
-/

namespace PromptTuning
namespace Providers

section Named

variable {Item : Type} {nameOf : Item -> String} {items : List Item}
  {item : Item}

/-- The first item of a name is also the first of its own name. -/
theorem find?_named
    {name : String}
    (found : (items.find? fun other => nameOf other == name) = some item) :
    nameOf item = name ∧
    (items.find? fun other => nameOf other == nameOf item) = some item := by
  have named : nameOf item = name := by simpa using List.find?_some found
  exact ⟨named, named ▸ found⟩

/-- The first item of all is the first of its own name. -/
theorem find?_name_of_head? (first : items.head? = some item) :
    (items.find? fun other => nameOf other == nameOf item) = some item := by
  obtain ⟨rest, rfl⟩ := List.head?_eq_some_iff.mp first
  exact List.find?_cons_of_pos (by simp)

end Named

variable {providers : Providers}

/-- The backend that is found under a name has that name. -/
theorem name_of_backend? {name : String} {backend : Backend}
    (found : providers.backend? name = some backend) : backend.name = name :=
  (find?_named found).1

/-- A profile that is found is found again by its own name. -/
theorem profile?_name_of_profile? {name : String} {profile : Profile}
    (found : providers.profile? name = some profile) :
    providers.profile? profile.name = some profile :=
  (find?_named found).2

/-- The profile in force is found again by its name. -/
theorem profile?_name_of_effectiveProfile? {profile : Profile}
    (found : providers.effectiveProfile? = some profile) :
    providers.profile? profile.name = some profile := by
  unfold effectiveProfile? at found
  split at found
  · exact profile?_name_of_profile? found
  · exact find?_name_of_head? found

/-- The backend in force is found again by its name. -/
theorem backend?_name_of_effectiveBackend? {backend : Backend}
    (found : providers.effectiveBackend? = some backend) :
    providers.backend? backend.name = some backend := by
  unfold effectiveBackend? at found
  split at found
  · exact (find?_named found).2
  · exact find?_name_of_head? found

/-- The backend that serves a profile is found by its name. -/
theorem backend?_name_of_backendFor? {profile : Profile} {backend : Backend}
    (found : providers.backendFor? profile = some backend) :
    providers.backend? backend.name = some backend := by
  rw [backendFor?, Option.or_eq_some_iff] at found
  obtain named | ⟨_, fallback⟩ := found
  · obtain ⟨name, _, named⟩ := Option.bind_eq_some_iff.mp named
    exact (find?_named named).2
  · exact backend?_name_of_effectiveBackend? fallback

end Providers

/-- The invocation to which a served model answers. -/
def ServedModel.invocation (model : ServedModel) : Invocation :=
  ⟨model.model, model.temperature, model.maxTokens⟩

namespace Backend

variable {backend : Backend} {environment : Environment}
  {invocation : Invocation}

/-- A served model answers to the invocation and carries the name of
its backend. -/
theorem of_serve {model : ServedModel}
    (served : backend.serve environment invocation = .ok model) :
    model.invocation = invocation ∧ model.backend = some backend.name := by
  unfold serve at served
  split at served
  case h_1 => contradiction
  case h_2 kind known =>
    cases key : backend.keyFor environment kind with
    | error cause => simp [key, bind, Except.bind] at served
    | ok apiKey =>
        simp only [key, bind, Except.bind] at served
        split at served
        · contradiction
        · obtain rfl := Except.ok.inj served
          exact ⟨rfl, rfl⟩

/-- Asking for a key fails for its own reasons only. -/
theorem keyFor_eq_error {kind : BackendKind} {cause : ServingError}
    (failed : backend.keyFor environment kind = .error cause) :
    cause = .missingKey backend.name ∨
    ∃ name, cause = .notInEnvironment name := by
  unfold keyFor at failed
  split at failed
  case h_1 => contradiction
  case h_2 =>
    split at failed
    · exact .inl (Except.error.inj failed).symm
    · contradiction
  case h_3 name _ => exact .inr ⟨name, (Except.error.inj failed).symm⟩

/-- A backend that has been selected fails neither for want of a profile nor
of a backend. -/
theorem serve_eq_error {cause : ServingError}
    (failed : backend.serve environment invocation = .error cause) :
    (∀ name, cause ≠ .unknownProfile name) ∧
    ∀ name, cause ≠ .noBackend name := by
  unfold serve at failed
  split at failed
  case h_1 =>
    obtain rfl := Except.error.inj failed
    exact ⟨nofun, nofun⟩
  case h_2 kind known =>
    cases key : backend.keyFor environment kind with
    | error reason =>
        simp only [key, bind, Except.bind] at failed
        obtain rfl := Except.error.inj failed
        obtain rfl | ⟨name, rfl⟩ := keyFor_eq_error key <;> exact ⟨nofun, nofun⟩
    | ok apiKey =>
        simp only [key, bind, Except.bind] at failed
        split at failed
        · obtain rfl := Except.error.inj failed
          exact ⟨nofun, nofun⟩
        · contradiction

end Backend

namespace Providers

variable {providers : Providers} {environment : Environment} {profile : Profile}

/-- Building the model of a profile means asking the backend that serves
the profile. -/
theorem serve_of_backendFor? {backend : Backend}
    (selected : providers.backendFor? profile = some backend) :
    providers.serve environment profile =
      backend.serve environment (.ofProfile profile) := by
  simp only [serve, selected]

/-- The model of a declared profile is served. -/
theorem serveProfile_of_profile? {name : String}
    (found : providers.profile? name = some profile) :
    providers.serveProfile environment name =
      providers.serve environment profile := by
  simp only [serveProfile, found]

/-- A profile that is served has a backend. -/
theorem exists_backendFor?_of_serve {model : ServedModel}
    (served : providers.serve environment profile = .ok model) :
    ∃ backend, providers.backendFor? profile = some backend := by
  cases selected : providers.backendFor? profile with
  | none => simp [serve, selected] at served
  | some backend => exact ⟨backend, rfl⟩

/-- Building the model of a profile fails for want of a backend only if
none serves it. -/
theorem backendFor?_of_serve_eq_noBackend {name : String}
    (failed : providers.serve environment profile = .error (.noBackend name)) :
    providers.backendFor? profile = none := by
  cases selected : providers.backendFor? profile with
  | none => rfl
  | some backend =>
      rw [serve_of_backendFor? selected] at failed
      exact absurd rfl ((Backend.serve_eq_error failed).2 name)

/-- Once a profile is at hand, building its model does not fail for want
of a profile. -/
theorem serve_ne_unknownProfile (providers : Providers)
    (environment : Environment) (profile : Profile) (name : String) :
    providers.serve environment profile ≠ .error (.unknownProfile name) := by
  intro failed
  cases selected : providers.backendFor? profile with
  | none => simp [serve, selected] at failed
  | some backend =>
      rw [serve_of_backendFor? selected] at failed
      exact (Backend.serve_eq_error failed).1 name rfl

end Providers
end PromptTuning
