import PromptTuning.LanguageModel.Chat
import PromptTuning.LanguageModel.Scripted
import PromptTuning.Proofs.Concurrency.Progress
import PromptTuning.Proofs.Value.Conformance

/-!
# What an activity can return

Between two steps of an activity anything may happen, so its results are bounded
by what the language models can answer and by nothing else. The models of this
library are scripted or served: they fail, or they read a document under the
schema of the request. A property of the results that holds on all such answers
holds of every run.
-/

namespace PromptTuning

variable {σ : Type}

/-- What a language model can answer to a request: it fails, or it reads a
document that a script holds or a server sends. -/
inductive LanguageModel.CanAnswer (request : GenerationRequest) :
    LanguageModel -> Except LanguageModelError Value -> Prop
  | failed (model : LanguageModel) (cause : LanguageModelError) :
      CanAnswer request model (.error cause)
  | scripted (name : String) (raw : Except LanguageModelError Json) :
      CanAnswer request (.scripted name) (Script.answer request raw)
  | served (model : ServedModel) (transport : Transport) :
      CanAnswer request (.served model) (model.generate transport request)

/-- The language models of a host answer as those of this library can. -/
def ModelHost.Genuine (host : ModelHost σ) : Prop :=
  ∀ (model : LanguageModel) (request : GenerationRequest) (state : σ),
    model.CanAnswer request (host.handle model request state).1

/-- Scripted models answer with values of the requested schema only. -/
theorem Scripts.genuine_host : Scripts.host.Genuine := by
  intro model request scripts
  simp only [host]
  cases found : scripts.find? model with
  | none => exact .failed model _
  | some entry =>
      cases model with
      | scripted name => exact .scripted name _
      | served model => cases found

/-- A value has the schema that it is constructed under. -/
theorem Value.schema_of_construct
    {schema : Schema}
    {data : Json}
    {value : Value}
    (made : construct schema data = .ok value) :
    value.schema = schema := by
  obtain ⟨members, _, made⟩ := construct_eq_ok made
  rw [(ofMembers_eq_ok made).2]

/-- A document in a text is read under the schema that is asked for. -/
theorem Schema.schema_of_readAnswer
    {schema : Schema}
    {text : String}
    {value : Value}
    (read : schema.readAnswer text = .ok value) :
    value.schema = schema := by
  unfold readAnswer at read
  split at read
  case h_1 => contradiction
  case h_2 document _ =>
    split at read
    case h_1 => contradiction
    case h_2 data _ =>
      exact Value.schema_of_construct (mapError_eq_ok_iff.mp read)

/-- An answer has the schema that was asked for. -/
theorem LanguageModel.CanAnswer.schema_eq
    {request : GenerationRequest}
    {model : LanguageModel}
    {value : Value}
    (answers : model.CanAnswer request (.ok value)) :
    value.schema = request.outputSchema := by
  generalize same : Except.ok value = reply at answers
  cases answers with
  | failed cause => cases same
  | scripted name raw =>
      cases raw with
      | error reason => cases same
      | ok output =>
          exact Value.schema_of_construct (mapError_eq_ok_iff.mp same.symm)
  | served served transport =>
      simp only [ServedModel.generate, bind, Except.bind] at same
      split at same
      case h_1 => cases same
      case h_2 post _ =>
        split at same
        case h_1 => cases same
        case h_2 reply _ =>
          split at same
          case h_1 => cases same
          case h_2 text _ => exact Schema.schema_of_readAnswer same.symm

namespace Activity

variable {α β : Type} {post : α -> Prop} {onward : β -> Prop}

/-- Whatever the world answers to an activity, its result has a property, as
long as language models answer as they can. -/
def Returns (post : α -> Prop) : Activity α -> Prop
  | .done result => post result
  | .act _ resume => ∀ answer, (resume answer).Returns post
  | .lock _ _ resume => ∀ outcome, (resume outcome).Returns post
  | .generate model request resume =>
      ∀ reply, model.CanAnswer request reply -> (resume reply).Returns post

/-- What follows an activity returns what it promises if it is given what the
activity promises. -/
theorem Returns.bind
    {activity : Activity α}
    {next : α -> Activity β}
    (returns : activity.Returns post)
    (continued : ∀ result, post result -> (next result).Returns onward) :
    (activity.bind next).Returns onward := by
  induction activity with
  | done result => exact continued result returns
  | act action resume inductionHypothesis =>
      exact fun answer => inductionHypothesis answer (returns answer)
  | lock store key resume inductionHypothesis =>
      exact fun outcome => inductionHypothesis outcome (returns outcome)
  | generate model request resume inductionHypothesis =>
      exact fun reply answers =>
        inductionHypothesis reply (returns reply answers)

/-- Every activity returns something. -/
theorem returns_trivial (activity : Activity α) :
    activity.Returns fun _ => True := by
  induction activity with
  | done result => trivial
  | act action resume inductionHypothesis => exact inductionHypothesis
  | lock store key resume inductionHypothesis => exact inductionHypothesis
  | generate model request resume inductionHypothesis =>
      exact fun reply _ => inductionHypothesis reply

/-- An activity that runs alone returns what it can return. -/
theorem Returns.run
    {host : ModelHost σ}
    (genuine : host.Genuine)
    {activity : Activity α}
    (returns : activity.Returns post)
    (owner : Owner)
    (limit : Nat)
    (world : World σ)
    {result : α}
    (ended : (activity.run host owner limit world).1 = some result) :
    post result := by
  induction activity generalizing world with
  | done result' =>
      obtain rfl := Option.some.inj ended
      exact returns
  | act action resume inductionHypothesis =>
      exact inductionHypothesis _ (returns _) _ ended
  | lock store key resume inductionHypothesis =>
      simp only [Activity.run] at ended
      split at ended
      · exact inductionHypothesis _ (returns _) _ ended
      · exact inductionHypothesis _ (returns _) _ ended
      · cases ended
  | generate model request resume inductionHypothesis =>
      simp only [Activity.run] at ended
      split at ended
      · exact inductionHypothesis _ (returns _ (genuine model request _)) _
          ended
      · cases ended

end Activity

namespace Progress

variable {α : Type} {post : α -> Prop} {host : ModelHost σ}

/-- Whatever happens, what an activity has left to do comes to a result with
a property. -/
def Returns (post : α -> Prop) : Progress α -> Prop
  | .active rest => rest.Returns post
  | .waiting _ _ resume => ∀ outcome, (resume outcome).Returns post

/-- A step keeps what an activity promises to return. -/
theorem Returns.step
    (genuine : host.Genuine)
    {progress : Progress α}
    (returns : progress.Returns post)
    (owner : Owner)
    (world : World σ) :
    (progress.step host owner world).1.Returns post := by
  have goes := progress.goesOn_step host owner world
  generalize progress.step host owner world = next at goes ⊢
  cases goes with
  | through | waits | queued => exact returns
  | acted | refused | granted | resumed => exact returns _
  | replied model request resume => exact returns _ (genuine model request _)

/-- How far an activity has come after one step in each of several worlds.
What makes one world of the one before is left open, so that every schedule
is covered. -/
def through (host : ModelHost σ) (owner : Owner) :
    List (World σ) -> Progress α -> Progress α
  | [], progress => progress
  | world :: rest, progress =>
      through host owner rest (progress.step host owner world).1

/-- Whatever worlds an activity goes through, it keeps what it
promises to return. -/
theorem Returns.through
    (genuine : host.Genuine)
    (owner : Owner)
    (worlds : List (World σ))
    {progress : Progress α}
    (returns : progress.Returns post) :
    (progress.through host owner worlds).Returns post := by
  induction worlds generalizing progress with
  | nil => exact returns
  | cons world rest inductionHypothesis =>
      exact inductionHypothesis (returns.step genuine owner world)

end Progress
end PromptTuning
