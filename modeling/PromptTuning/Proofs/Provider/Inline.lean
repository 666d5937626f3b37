import PromptTuning.Proofs.Binary.Narrowing
import PromptTuning.Proofs.Json.Equality
import PromptTuning.Proofs.Module.Config
import PromptTuning.Proofs.Provider.Resolution

/-!
# Models described in place

A config that describes a model in place is resolved to a model of the same name
at the backend that it names. Its numbers are narrowed to 32 bits without a
check: a limit of tokens comes back as it was given exactly if 32 bits hold it,
and a temperature comes back as the nearest 32-bit number exactly if this number
is finite and is also nearest to the double that the temperature is read as. Any
other number is changed or lost, and the config is still resolved.
-/

namespace PromptTuning

/-- The 32-bit number nearest to a number. -/
def Number.nearestSingle : Number -> Single
  | .integer value _ => .ofInt value
  | .double value => (Binary.finite value).convert .single

/-- A double has all digits of a number. -/
def Number.HeldByDouble : Number -> Prop
  | .integer value _ => BinaryFormat.double.Holds value
  | .double _ => True

/-- A number that a double holds is rounded once on its way to 32 bits. -/
theorem Number.convert_toDouble {number : Number} (held : number.HeldByDouble) :
    number.toDouble.convert .single = number.nearestSingle := by
  cases number with
  | integer value bounded => exact Binary.convert_ofInt held (by omega) .single
  | double value => rfl

/-- A config gives the value of a member; one that is not given is
absent or null. -/
def Json.Gives (config : Json) (name : String) (value : Option Json) : Prop :=
  config.get? name = value ∨ value = none ∧ config.get? name = some .null

/-- A description of a model: its name and, where they are given, the name of a
backend, a temperature and a limit of tokens. -/
structure InlineModel where
  model : String
  backend : Option String
  temperature : Option Number
  maxTokens : Option Number

/-- A config describes a model in place, whatever else it holds. -/
structure InlineModel.DescribedBy (description : InlineModel) (config : Json) :
    Prop where
  profile : config.Gives "profile" none
  model : config.get? "model" = some (.string description.model)
  backend : config.Gives "backend" (description.backend.map .string)
  temperature : config.Gives "temperature" (description.temperature.map .number)
  maxTokens : config.Gives "max_tokens" (description.maxTokens.map .number)

/-- What is read of a member that is given or null. -/
theorem Json.Gives.bind_eq
    {α : Type}
    {config : Json}
    {name : String}
    {value : Option Json}
    (gives : config.Gives name value)
    {read : Json -> Option α}
    (unread : read .null = none) :
    (config.get? name).bind read = value.bind read := by
  obtain found | ⟨rfl, found⟩ := gives
  · rw [found]
  · rw [found, Option.bind_some, unread, Option.bind_none]

/-- Whether a backend serves a model does not depend on what it is asked for. -/
theorem Backend.exists_serve
    {backend : Backend}
    {environment : Environment}
    {first : Invocation}
    {served : ServedModel}
    (serves : backend.serve environment first = .ok served)
    (second : Invocation) :
    ∃ other, backend.serve environment second = .ok other := by
  unfold serve at serves ⊢
  split at serves
  case h_1 => contradiction
  case h_2 kind known =>
    cases key : backend.keyFor environment kind with
    | error cause => simp [key, bind, Except.bind] at serves
    | ok apiKey =>
        simp only [key, bind, Except.bind] at serves ⊢
        split at serves
        · contradiction
        · exact ⟨_, rfl⟩

namespace Providers

variable {providers : Providers} {environment : Environment} {config : Json}
  {description : InlineModel} {model : LanguageModel}

/-- The backend of a name, or the default one if no name is given. -/
def backendUnder? (providers : Providers) : Option String -> Option Backend
  | some name => providers.backend? name
  | none => providers.effectiveBackend?

/-- A description is resolved to the model that its backend serves for
its numbers. -/
theorem resolve_eq_ok_iff (described : description.DescribedBy config) :
    providers.resolve environment config = .ok model ↔
      foreignKind? config = none ∧
        ∃ backend served,
          providers.backendUnder? description.backend = some backend ∧
          backend.serve environment
            (inlineInvocation config description.model) = .ok served ∧
          .served served = model := by
  have profile : (config.get? "profile").bind Json.asString? = none :=
    described.profile.bind_eq rfl
  have backendName :
      (config.get? "backend").bind Json.asString? = description.backend := by
    rw [described.backend.bind_eq rfl]
    cases description.backend <;> rfl
  have inline : providers.serveInline environment config =
      (providers.backendUnder? description.backend).elim
        (.error (.noBackend description.model))
        fun backend =>
          backend.serve environment
            (inlineInvocation config description.model) := by
    simp only [serveInline, described.model, Option.bind_some, Json.asString?,
      backendName]
    cases description.backend with
    | none =>
        simp only [backendUnder?]
        cases providers.effectiveBackend? <;> rfl
    | some name =>
        simp only [backendUnder?]
        cases providers.backend? name <;> rfl
  unfold resolve
  cases foreignKind? config with
  | some kind => simp
  | none =>
      simp only [profile, inline, true_and]
      cases providers.backendUnder? description.backend with
      | none => simp [Except.mapError, Except.map]
      | some backend =>
          cases serves :
              backend.serve environment
                (inlineInvocation config description.model) with
          | error cause => simp [serves, Except.mapError, Except.map]
          | ok served => simp [serves, Except.mapError, Except.map]

end Providers

-- Looking into the number of a variable would compare it with two to the power
-- of 64 in unary.
attribute [local irreducible] Json.ofNat

/-- An integer is shown in its low 32 bits, so it is shown as it is exactly if
it has no more. -/
theorem ofNat_low_bits_iff {count : Nat}
    (bounded : -9223372036854775808 ≤ (count : Int) ∧
      (count : Int) < 18446744073709551616) :
    Json.ofNat (UInt32.ofNat count).toNat = .number (.integer count bounded) ↔
    count < 2 ^ 32 := by
  have low : (UInt32.ofNat count).toNat = count % 2 ^ 32 := UInt32.toNat_ofNat'
  have small : count % 2 ^ 32 < UInt64.size :=
    (Nat.mod_lt count (by decide)).trans (by decide)
  obtain ⟨inRange, shown⟩ := Json.exists_ofNat_eq small
  rw [low, shown, Json.number.injEq, Number.integer.injEq]
  omega

/-- A limit of tokens is shown as it was given exactly if it is an integer
of 32 bits. -/
theorem shown_limit_iff {number : Number} {limit : Option UInt32}
    (read : limit = (Json.number number).asNat?.map UInt32.ofNat) :
    (limit.elim .null fun count => Json.ofNat count.toNat) = .number number ↔
      ∃ count < 2 ^ 32, (Json.number number).asNat? = some count := by
  subst read
  cases number with
  | double value => simp [Json.asNat?]
  | integer value bounded =>
      cases value with
      | negSucc value => simp [Json.asNat?]
      | ofNat count =>
          rw [Json.asNat?, Option.map_some, Option.elim_some]
          refine (ofNat_low_bits_iff bounded).trans
            ⟨fun below => ⟨count, below, rfl⟩, ?_⟩
          rintro ⟨_, below, same⟩
          rwa [Option.some.inj same]

/-- A temperature is shown as the 32-bit number nearest to the one that was
given exactly if this number is finite and the double that is read is
rounded to it. -/
theorem shown_temperature_iff (number : Number) :
    (∃ nearest, number.nearestSingle = .finite nearest ∧
      Json.ofDouble ((number.toDouble.convert .single).convert .double) =
        .ofDouble ((Binary.finite nearest).convert .double)) ↔
      number.nearestSingle.isFinite = true ∧
        number.toDouble.convert .single = number.nearestSingle := by
  have within := BinaryFormat.within_double
  constructor
  · rintro ⟨nearest, found, shown⟩
    refine ⟨by rw [found]; rfl, ?_⟩
    obtain ⟨widened, exact, _⟩ := Binary.exists_convert_eq within nearest
    have same :
        (number.toDouble.convert .single).convert .double =
          .finite widened := by
      rw [exact] at shown
      revert shown
      generalize (number.toDouble.convert .single).convert .double = rounded
      cases rounded with
      | finite value =>
          intro shown
          simpa [Json.ofDouble] using shown
      | _ => simp [Json.ofDouble]
    calc
      number.toDouble.convert .single =
          ((number.toDouble.convert .single).convert .double).convert .single :=
        (Binary.convert_convert within _).symm
      _ = ((Binary.finite nearest).convert .double).convert .single := by
        rw [same, exact]
      _ = number.nearestSingle := by rw [Binary.convert_convert within, found]
  · rintro ⟨finite, same⟩
    cases found : number.nearestSingle with
    | finite nearest => exact ⟨nearest, rfl, by rw [same, found]⟩
    | nan => simp [found, Binary.isFinite] at finite
    | infinite negative => simp [found, Binary.isFinite] at finite

/-- The config of a description, with the members that are given. -/
def InlineModel.document (description : InlineModel) : Json :=
  .object ([("model", .string description.model)] ++
    (description.backend.map fun name =>
      ("backend", Json.string name)).toList ++
    (description.temperature.map fun number =>
      ("temperature", Json.number number)).toList ++
    (description.maxTokens.map fun number =>
      ("max_tokens", Json.number number)).toList)

theorem InlineModel.describedBy_document (description : InlineModel) :
    description.DescribedBy description.document := by
  obtain ⟨model, backend, temperature, maxTokens⟩ := description
  cases backend <;> cases temperature <;> cases maxTokens <;>
    exact ⟨.inl rfl, rfl, .inl rfl, .inl rfl, .inl rfl⟩

namespace Providers

variable {providers : Providers} {environment : Environment} {config : Json}
  {description : InlineModel} {model : LanguageModel}

/-- A model described in place has the name and the backend it was described
with. The limit of tokens is the one that was given exactly if that is an
integer of 32 bits, and the temperature is the 32-bit number nearest to the
given one exactly if that number is finite and the double that is read is
rounded to it, as every number is that a double holds. No other numbers keep a
description from being resolved. -/
theorem config_of_resolve_inline
    (described : description.DescribedBy config)
    (resolved : providers.resolve environment config = .ok model) :
    model.config.get? "model" = some (.string description.model) ∧
      (∀ name, description.backend = some name ->
        model.config.get? "backend" = some (.string name)) ∧
      (∀ limit, description.maxTokens = some limit ->
        (model.config.get? "max_tokens" = some (.number limit) ↔
          ∃ count < 2 ^ 32, (Json.number limit).asNat? = some count)) ∧
      (∀ temperature, description.temperature = some temperature ->
        ((∃ nearest, temperature.nearestSingle = .finite nearest ∧
            model.config.get? "temperature" =
              some (.ofDouble ((Binary.finite nearest).convert .double))) ↔
          temperature.nearestSingle.isFinite = true ∧
            temperature.toDouble.convert .single = temperature.nearestSingle) ∧
        (temperature.HeldByDouble ->
          temperature.toDouble.convert .single = temperature.nearestSingle)) ∧
      ∀ (other : InlineModel) (otherConfig : Json),
        other.DescribedBy otherConfig -> other.backend = description.backend ->
        foreignKind? otherConfig = none ->
        ∃ otherModel,
          providers.resolve environment otherConfig = .ok otherModel := by
  obtain ⟨_, backend, served, selected, serves, rfl⟩ :=
    (resolve_eq_ok_iff described).mp resolved
  obtain ⟨invocation, backendName⟩ := Backend.of_serve serves
  have name : served.model = description.model := congrArg (·.model) invocation
  have limitRead : served.maxTokens =
      ((config.get? "max_tokens").bind Json.asNat?).map UInt32.ofNat :=
    congrArg (·.maxTokens) invocation
  have temperatureRead : served.temperature =
      ((config.get? "temperature").bind Json.asDouble?).elim
        Invocation.defaultTemperature
        fun temperature => temperature.convert .single :=
    congrArg (·.temperature) invocation
  rw [described.maxTokens.bind_eq rfl] at limitRead
  rw [described.temperature.bind_eq rfl] at temperatureRead
  refine ⟨congrArg (fun text => some (Json.string text)) name, ?_, ?_, ?_, ?_⟩
  · intro reference given
    rw [given] at selected
    change some (Json.ofString? served.backend) = _
    rw [backendName, name_of_backend? selected]
    rfl
  · intro limit given
    rw [given] at limitRead
    change some _ = _ ↔ _
    rw [Option.some.injEq]
    exact shown_limit_iff limitRead
  · intro temperature given
    rw [given] at temperatureRead
    have read : served.temperature = temperature.toDouble.convert .single :=
      temperatureRead
    have shown : (LanguageModel.served served).config.get? "temperature" =
        some (.ofDouble
          ((temperature.toDouble.convert .single).convert .double)) := by
      rw [← read]
      rfl
    simp only [shown, Option.some.injEq]
    exact ⟨shown_temperature_iff temperature, Number.convert_toDouble⟩
  · intro other otherConfig otherDescribed sameBackend plain
    obtain ⟨otherServed, servesOther⟩ :=
      Backend.exists_serve serves (inlineInvocation otherConfig other.model)
    refine ⟨_, (resolve_eq_ok_iff otherDescribed).mpr
      ⟨plain, backend, otherServed, ?_, servesOther, rfl⟩⟩
    rw [sameBackend, selected]

/-- A description at the edge of what is kept: a temperature that no 32-bit
number is exactly, and the largest limit of 32 bits. -/
def edgeDescription : InlineModel where
  model := "llama3"
  backend := some "local"
  temperature := some (.double ⟨false, 4591870180066957722, by decide⟩)
  maxTokens := some (.integer 4294967295 (by decide))

/-- A description past the edge: a temperature above all 32-bit numbers and a
limit of one more. -/
def pastDescription : InlineModel where
  model := "llama3"
  backend := none
  temperature := some (.double ⟨false, 5190260616003865117, by decide⟩)
  maxTokens := some (.integer 4294967296 (by decide))

/-- A backend of the library serves whatever it is asked for once its key
is at hand. -/
theorem exists_serve_localBackend (invocation : Invocation) :
    ∃ served,
      localBackend.serve [("LOCAL_KEY", "secret")] invocation = .ok served := by
  have kind : BackendKind.ofName? localBackend.kind = some .ollama := by
    decide +kernel
  simp only [Backend.serve, kind]
  exact ⟨_, rfl⟩

/-- At the edge the limit comes back as it was given and the temperature as the
nearest 32-bit number. -/
theorem config_of_resolve_inline_of_edge :
    edgeDescription.DescribedBy edgeDescription.document ∧
      ∃ model,
        twinProviders.resolve [("LOCAL_KEY", "secret")]
          edgeDescription.document = .ok model ∧
        model.config.get? "backend" = some (.string "local") ∧
        model.config.get? "max_tokens" =
          some (.number (.integer 4294967295 (by decide))) ∧
        ∃ nearest : FiniteSingle, nearest.rank = 1036831949 ∧
          model.config.get? "temperature" =
            some (.ofDouble ((Binary.finite nearest).convert .double)) := by
  have described := edgeDescription.describedBy_document
  obtain ⟨served, serves⟩ :=
    exists_serve_localBackend
      (inlineInvocation edgeDescription.document "llama3")
  have resolved :
      twinProviders.resolve [("LOCAL_KEY", "secret")] edgeDescription.document =
        .ok (.served served) :=
    (resolve_eq_ok_iff described).mpr
      ⟨rfl, localBackend, served, rfl, serves, rfl⟩
  obtain ⟨_, backend, limit, temperature, _⟩ :=
    config_of_resolve_inline described resolved
  obtain ⟨kept, held⟩ := temperature _ rfl
  have rounded :
      Number.nearestSingle (.double ⟨false, 4591870180066957722, by decide⟩) =
        .finite ⟨false, 1036831949, by decide⟩ := by
    decide +kernel
  obtain ⟨nearest, found, shown⟩ :=
    kept.mpr ⟨by rw [rounded]; rfl, held trivial⟩
  rw [rounded] at found
  obtain rfl := Binary.finite.inj found
  exact ⟨described, _, resolved, backend "local" rfl,
    (limit _ rfl).mpr ⟨4294967295, by decide, rfl⟩, _, rfl, shown⟩

/-- Past the edge the config is resolved all the same, the limit comes back as
zero and the temperature is lost. -/
theorem resolve_inline_past_edge :
    pastDescription.DescribedBy pastDescription.document ∧
      ∃ model,
        twinProviders.resolve [("LOCAL_KEY", "secret")]
          pastDescription.document = .ok model ∧
        model.config.get? "max_tokens" =
          some (.number (.integer 0 (by decide))) ∧
        model.config.get? "temperature" = some .null := by
  have described := pastDescription.describedBy_document
  obtain ⟨served, serves⟩ :=
    exists_serve_localBackend
      (inlineInvocation pastDescription.document "llama3")
  have resolved :
      twinProviders.resolve [("LOCAL_KEY", "secret")] pastDescription.document =
        .ok (.served served) :=
    (resolve_eq_ok_iff described).mpr
      ⟨rfl, localBackend, served, rfl, serves, rfl⟩
  obtain ⟨invocation, _⟩ := Backend.of_serve serves
  have limit : served.maxTokens = some 0 := by
    refine (congrArg (·.maxTokens) invocation).trans ?_
    decide +kernel
  have temperature : served.temperature = .infinite false := by
    refine (congrArg (·.temperature) invocation).trans ?_
    decide +kernel
  refine ⟨described, _, resolved, ?_, ?_⟩
  · change some (served.maxTokens.elim .null fun count =>
      Json.ofNat count.toNat) = _
    rw [limit]
    exact congrArg some (by decide +kernel)
  · change some (Json.ofDouble (served.temperature.convert .double)) = _
    rw [temperature]
    rfl

end Providers
end PromptTuning
