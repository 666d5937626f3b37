import PromptTuning.Configuration.Validation
import PromptTuning.Proofs.Provider.Selection

/-!
# No reference dangles

In a valid configuration every name of a backend or a profile that is referred
to is declared. So whatever is looked up afterwards is found: the profile of the
optimizer, by itself and by its name, the backend that a profile names, and some
backend for every profile, unless nothing of the kind is declared at all.
-/

namespace PromptTuning

namespace ConfigurationFault

theorem when_eq_nil_iff {condition : Bool} {fault : ConfigurationFault} :
    when condition fault = [] ↔ condition = false := by
  cases condition <;> simp [when]

/-- There is no fault exactly if the name that is given, if any, is known. -/
theorem ofUnknown_eq_nil_iff
    {isKnown : String -> Bool}
    {fault : String -> ConfigurationFault}
    {name : Option String} :
    ofUnknown isKnown fault name = [] ↔
    ∀ given, name = some given -> isKnown given = true := by
  cases name <;> simp [ofUnknown, when_eq_nil_iff]

end ConfigurationFault

open ConfigurationFault

namespace Providers

/-- Every backend and every profile that providers refer to is declared. -/
structure Closed (providers : Providers) : Prop where
  profileBackend :
    ∀ profile ∈ providers.profiles, ∀ name, profile.backend = some name ->
      ∃ backend, providers.backend? name = some backend
  defaultBackend : ∀ name, providers.defaultBackend = some name ->
    ∃ backend, providers.backend? name = some backend
  defaultProfile : ∀ name, providers.defaultProfile = some name ->
    ∃ profile, providers.profile? name = some profile

variable {providers : Providers}

theorem closed_of_faults (clean : providers.faults = []) :
    providers.Closed := by
  simp only [faults, List.append_eq_nil_iff, List.flatMap_eq_nil_iff,
    profileFaults, ofUnknown_eq_nil_iff, declaresBackend, declaresProfile,
    Option.isSome_iff_exists] at clean
  obtain ⟨⟨⟨_, profiles⟩, defaultBackend⟩, defaultProfile⟩ := clean
  exact ⟨fun profile declared => (profiles profile declared).2,
    defaultBackend, defaultProfile⟩

namespace Closed

/-- There is a default backend unless no backend is declared. -/
theorem effectiveBackend?_eq_none (closed : providers.Closed)
    (missing : providers.effectiveBackend? = none) :
    providers.backends = [] := by
  unfold effectiveBackend? at missing
  split at missing
  case h_1 name named =>
    obtain ⟨backend, found⟩ := closed.defaultBackend name named
    rw [found] at missing
    contradiction
  case h_2 => exact List.head?_eq_none_iff.mp missing

/-- There is a default profile unless no profile is declared. -/
theorem effectiveProfile?_eq_none (closed : providers.Closed)
    (missing : providers.effectiveProfile? = none) :
    providers.profiles = [] := by
  unfold effectiveProfile? at missing
  split at missing
  case h_1 name named =>
    obtain ⟨profile, found⟩ := closed.defaultProfile name named
    rw [found] at missing
    contradiction
  case h_2 => exact List.head?_eq_none_iff.mp missing

theorem backendFor?_eq_none (closed : providers.Closed) {profile : Profile}
    (missing : providers.backendFor? profile = none) :
    providers.backends = [] := by
  rw [backendFor?, Option.or_eq_none_iff] at missing
  exact closed.effectiveBackend?_eq_none missing.2

/-- A declared profile that names a backend is served by the backend
of that name. -/
theorem exists_backendFor? (closed : providers.Closed) {profile : Profile}
    {name : String} (declared : profile ∈ providers.profiles)
    (named : profile.backend = some name) :
    ∃ backend, backend.name = name ∧ providers.backend? name = some backend ∧
      providers.backendFor? profile = some backend := by
  obtain ⟨backend, found⟩ := closed.profileBackend profile declared name named
  refine ⟨backend, name_of_backend? found, found, ?_⟩
  rw [backendFor?, named, Option.bind_some, found, Option.some_or]

end Closed
end Providers

namespace Configuration

variable {configuration : Configuration}

/-- A valid configuration refers to declared backends and profiles only. -/
theorem IsValid.references (valid : configuration.IsValid) :
    configuration.providers.Closed ∧
      ∀ name, configuration.optimizer.profile = some name ->
        ∃ profile, configuration.providers.profile? name = some profile := by
  simp only [IsValid, faults, List.append_eq_nil_iff] at valid
  obtain ⟨⟨⟨⟨⟨⟨⟨⟨_, providers⟩, _⟩, _⟩, optimizer⟩, _⟩, _⟩, _⟩, _⟩ := valid
  simp only [ofUnknown_eq_nil_iff, Providers.declaresProfile,
    Option.isSome_iff_exists] at optimizer
  exact ⟨Providers.closed_of_faults providers, optimizer⟩

/-- The profile of the optimizer is found again by its name. -/
theorem profile?_name_of_optimizerProfile? {profile : Profile}
    (found : configuration.optimizerProfile? = some profile) :
    configuration.providers.profile? profile.name = some profile := by
  unfold optimizerProfile? at found
  split at found
  · exact Providers.profile?_name_of_profile? found
  · exact Providers.profile?_name_of_effectiveProfile? found

/-- The optimizer has a profile unless no profile is declared. -/
theorem IsValid.optimizerProfile?_eq_none (valid : configuration.IsValid)
    (missing : configuration.optimizerProfile? = none) :
    configuration.providers.profiles = [] := by
  unfold optimizerProfile? at missing
  split at missing
  case h_1 name named =>
    obtain ⟨profile, found⟩ := valid.references.2 name named
    rw [found] at missing
    contradiction
  case h_2 => exact valid.references.1.effectiveProfile?_eq_none missing

/-- In an accepted configuration the optimizer lacks a profile only if none is
declared; the profile it has is the one that its name leads to and is built
from; a declared profile that names a backend is served by that backend; and a
model is denied for want of a backend only if none is declared. -/
theorem references_of_validate
    (accepted : configuration.validate = .ok configuration) :
    (configuration.optimizerProfile? = none ->
      configuration.providers.profiles = []) ∧
      (∀ profile, configuration.optimizerProfile? = some profile ->
        configuration.providers.profile? profile.name = some profile ∧
          ∀ environment,
            configuration.providers.serveProfile environment profile.name =
                configuration.providers.serve environment profile ∧
              ∀ name,
                configuration.providers.serveProfile environment profile.name ≠
                  .error (.unknownProfile name)) ∧
      (∀ profile ∈ configuration.providers.profiles,
        ∀ name, profile.backend = some name ->
          ∃ backend, backend.name = name ∧
            configuration.providers.backend? name = some backend ∧
            configuration.providers.backendFor? profile = some backend ∧
            ∀ environment, configuration.providers.serve environment profile =
              backend.serve environment (.ofProfile profile)) ∧
      ∀ environment unserved,
        (∃ profile, configuration.providers.serve environment profile =
            .error (.noBackend unserved)) ∨
          (∃ name, configuration.providers.serveProfile environment name =
            .error (.noBackend unserved)) ∨
          configuration.providers.serveDefault environment =
            .error (.noBackend unserved) ->
        configuration.providers.backends = [] := by
  obtain ⟨valid, _⟩ :=
    (validate_eq_ok_iff configuration configuration).mp accepted
  obtain ⟨closed, _⟩ := valid.references
  have unserved {environment : Environment} {profile : Profile} {name : String}
      (failed : configuration.providers.serve environment profile =
        .error (.noBackend name)) :
      configuration.providers.backends = [] :=
    closed.backendFor?_eq_none
      (Providers.backendFor?_of_serve_eq_noBackend failed)
  refine ⟨valid.optimizerProfile?_eq_none, ?_, ?_, ?_⟩
  · intro profile found
    have named := profile?_name_of_optimizerProfile? found
    refine ⟨named, fun environment => ?_⟩
    rw [Providers.serveProfile_of_profile? named]
    exact ⟨rfl, Providers.serve_ne_unknownProfile _ environment profile⟩
  · intro profile declared name given
    obtain ⟨backend, named, found, selected⟩ :=
      closed.exists_backendFor? declared given
    exact ⟨backend, named, found, selected,
      fun environment => Providers.serve_of_backendFor? selected⟩
  · rintro environment name (⟨profile, failed⟩ | ⟨wanted, failed⟩ | failed)
    · exact unserved failed
    · cases found : configuration.providers.profile? wanted with
      | none => simp [Providers.serveProfile, found] at failed
      | some profile =>
          rw [Providers.serveProfile_of_profile? found] at failed
          exact unserved failed
    · cases found : configuration.providers.effectiveProfile? with
      | none => simp [Providers.serveDefault, found] at failed
      | some profile =>
          simp only [Providers.serveDefault, found] at failed
          exact unserved failed

/-- A configuration whose default backend is not the one that its first profile
names. The second profile of the same name is never the optimizer's. -/
def linkedExample : Configuration :=
  { standard with
    providers :=
      { defaultBackend := some "hosted"
        defaultProfile := none
        backends :=
          [⟨"hosted", "openai", none, none, .null⟩,
            ⟨"local", "ollama", none, none, .null⟩]
        profiles :=
          [⟨"meta", some "local", "llama3", none, none, .unbounded, .null⟩,
            ⟨"meta", none, "gpt-4o", none, none, .unbounded, .null⟩] } }

/-- A configuration with a profile and nothing to serve it. -/
def unservedExample : Configuration :=
  { standard with
    providers :=
      { defaultBackend := none
        defaultProfile := some "meta"
        backends := []
        profiles :=
          [⟨"meta", none, "llama3", none, none, .unbounded, .null⟩] } }

/-- The profile of the optimizer is the first, and the second backend serves it,
under the name of the profile as well. Nothing is denied for want of a backend
there, while the default model is where no backend is declared. -/
theorem references_of_linkedExample :
    linkedExample.validate = .ok linkedExample ∧
      linkedExample.optimizerProfile? ≠ none ∧
      (∃ profile backend,
        linkedExample.optimizerProfile? = some profile ∧
          profile.model = "llama3" ∧
          linkedExample.providers.profile? profile.name = some profile ∧
          backend.kind = "ollama" ∧
          linkedExample.providers.backendFor? profile = some backend ∧
          ∀ environment,
            linkedExample.providers.serveProfile environment profile.name =
                backend.serve environment (.ofProfile profile) ∧
              ∀ name,
                linkedExample.providers.serveProfile environment profile.name ≠
                  .error (.unknownProfile name)) ∧
      (∀ environment profile unserved,
        linkedExample.providers.serve environment profile ≠
            .error (.noBackend unserved) ∧
          linkedExample.providers.serveDefault environment ≠
            .error (.noBackend unserved)) ∧
      unservedExample.validate = .ok unservedExample ∧
      (∀ environment, unservedExample.providers.serveDefault environment =
        .error (.noBackend "meta")) ∧
      unservedExample.providers.backends = [] := by
  have linked : linkedExample.validate = .ok linkedExample :=
    (validate_eq_ok_iff _ _).mpr ⟨by decide, rfl⟩
  have unserved : unservedExample.validate = .ok unservedExample :=
    (validate_eq_ok_iff _ _).mpr ⟨by decide, rfl⟩
  obtain ⟨present, found, selected, denied⟩ := references_of_validate linked
  obtain ⟨named, served⟩ := found _ rfl
  obtain ⟨backend, _, first, chosen, serves⟩ :=
    selected _ List.mem_cons_self "local" rfl
  obtain rfl := Option.some.inj first
  have missing (environment : Environment) :
      unservedExample.providers.serveDefault environment =
        .error (.noBackend "meta") := rfl
  refine ⟨linked, fun absent => ?_, ?_, ?_, unserved, missing, ?_⟩
  · exact nomatch present absent
  · exact ⟨_, _, rfl, rfl, named, rfl, chosen, fun environment =>
      ⟨(served environment).1.trans (serves environment),
        (served environment).2⟩⟩
  · intro environment profile name
    constructor <;> intro failed
    · exact nomatch denied environment name (.inl ⟨profile, failed⟩)
    · exact nomatch denied environment name (.inr (.inr failed))
  · obtain ⟨_, _, _, denied⟩ := references_of_validate unserved
    exact denied [] "meta" (.inr (.inr (missing [])))

end Configuration
end PromptTuning
