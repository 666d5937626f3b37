import PromptTuning.Module.Call
import PromptTuning.LanguageModel.Scripted
import PromptTuning.Proofs.Concurrency.Alone
import PromptTuning.Proofs.Concurrency.Consulting
import PromptTuning.Proofs.Concurrency.Sparing
import PromptTuning.Proofs.Store.Calls

/-!
# What a call records

A call of a bound generator reads its variable, asks the language model and, in
training, writes once: it records the input and the answer. Nothing comes after
the record but joining the input and the answer, where both are returned, and
that may fail although the execution is recorded.
-/

namespace PromptTuning

variable {σ : Type}

/-- A variable after the committed write of one more prediction. -/
def Variable.recorded (prediction : Prediction) (now : Timestamp)
    (entry : Variable) : Variable :=
  ({ entry with predictions := entry.predictions ++ [prediction] }).touch now

/-- One more prediction in the variable of a key, as a committed write, and
nothing else. -/
structure World.Appends
    (id : StoreId)
    (key : String)
    (prediction : Prediction)
    (before after : World σ) : Prop where
  recorded : ∃ entry, (before.stores id).find? key = some entry ∧
    (after.stores id).find? key = some (entry.recorded prediction before.now)
  spares : before.Spares id key after

/-- An activity appends a prediction if it succeeds, and changes no
variable otherwise. -/
inductive World.Attempted {ε α : Type} (id : StoreId) (key : String)
    (prediction : Prediction)
    (before : World σ) : Option (Except ε α) × World σ -> Prop
  | appended {answer : α} {after : World σ}
      (appends : before.Appends id key prediction after) :
      Attempted id key prediction before (some (.ok answer), after)
  | refused {reason : ε} {after : World σ} (same : before.SameEntries after) :
      Attempted id key prediction before (some (.error reason), after)
  | abandoned {after : World σ} (same : before.SameEntries after) :
      Attempted id key prediction before (none, after)

theorem Store.entries_of_granted
    {store after : Store}
    {owner : Owner}
    {key : String}
    (granted : store.requestLock owner key = .granted after) :
    after.entries = store.entries := by
  obtain rfl | ⟨lock, _, rfl⟩ := granted_cases granted <;> rfl

/-- A write to a present key under its lock spares everything else. -/
theorem World.spares_put
    {before : World σ}
    {id : StoreId}
    {locked : Store}
    {entry : Variable}
    (entries : locked.entries = (before.stores id).entries)
    (present : locked.contains entry.key = true)
    (counted : Variable)
    (owner : Owner) :
    before.Spares id entry.key (before.setStore id
      (((locked.put entry).counting counted).releaseLock owner entry.key)) := by
  refine ⟨fun other => ?_, fun other name different => ?_⟩
  · by_cases same : other = id
    · subst same
      rw [stores_setStore_self]
      exact (Store.keys_put present).trans
        (by rw [Store.keys, Store.keys, entries])
    · rw [stores_setStore_of_ne before same]
  · by_cases same : other = id
    · subst same
      rw [stores_setStore_self]
      have others : name ≠ entry.key :=
        different.resolve_left fun other => other rfl
      exact (Store.find?_put_of_ne present others).trans
        (by rw [Store.find?, Store.find?, entries])
    · rw [stores_setStore_of_ne before same]

section Running

variable (host : ModelHost σ) (owner : Owner) (limit : Nat)

/-- Alone, a change under a lock that is granted is made of the variable
that is stored. -/
theorem Activity.run_modify_of_granted
    {id : StoreId}
    {key : String}
    {world : World σ}
    {locked : Store}
    (granted : (world.stores id).requestLock owner key = .granted locked)
    (change : Change) :
    (modify id key change).run host owner limit world =
      (some (locked.modify key change world.now).1,
        world.setStore id
          ((locked.modify key change world.now).2.releaseLock owner key)) := by
  simp only [modify, withLock, Activity.run, granted]
  change Activity.run host owner limit
    (.act (.modify id key change) fun outcome =>
      .act (.unlock id key) fun _ => .done outcome) (world.setStore id locked) =
    _
  simp [Activity.run, World.perform, World.setStore_setStore]

theorem Activity.attempted_append
    (id : StoreId)
    (key : String)
    (prediction : Prediction)
    (world : World σ) :
    world.Attempted id key prediction
      ((modify id key (.append prediction)).run host owner limit world) := by
  cases request : (world.stores id).requestLock owner key with
  | refused reason =>
      simp only [modify, withLock, Activity.run, request]
      exact .refused (.refl world)
  | queued after =>
      simp only [modify, withLock, Activity.run, request]
      exact .abandoned (.refl world)
  | granted locked =>
      have entries := Store.entries_of_granted request
      rw [run_modify_of_granted host owner limit request]
      cases found : locked.find? key with
      | none =>
          simp only [Store.modify, found]
          exact .refused (World.sameEntries_setStore entries)
      | some entry =>
          have stored : (world.stores id).find? key = some entry := by
            rw [← found, Store.find?, Store.find?, entries]
          obtain rfl : entry.key = key := Store.key_of_find? found
          have present :
              locked.contains (entry.recorded prediction world.now).key =
                true :=
            Store.contains_of_find? found
          rw [Store.modify_eq_put found rfl]
          refine .appended
            ⟨⟨entry, stored, ?_⟩, World.spares_put entries present _ owner⟩
          rw [World.stores_setStore_self]
          exact Store.find?_put_self present

/-- Who only reads and asks changes no variable. -/
theorem Activity.Asks.sameEntries_run
    {α : Type}
    {post : α -> Prop}
    {count : Nat}
    {activity : Activity α}
    (asks : activity.Asks post count)
    (world : World σ) :
    world.SameEntries (activity.run host owner limit world).2 := by
  induction asks generalizing world with
  | done fits => exact .refl world
  | read _ inductionHypothesis => exact inductionHypothesis _ world
  | generate _ inductionHypothesis =>
      simp only [Activity.run]
      split
      · exact inductionHypothesis _ _
      · exact world.sameEntries_abandon owner

end Running

namespace Generator

variable {generator : Generator} {id : StoreId} {input : Value}

/-- The instructions in force in a world. -/
def instructionsIn (generator : Generator) (world : World σ) : List String :=
  match generator.store with
  | none => generator.instructions
  | some store =>
      ((((world.stores store).find? generator.name).bind (·.instructions)).map
        (·.instructions)).getD generator.instructions

/-- What the language model of a generator replies to an input in a world. -/
def replyIn (generator : Generator) (host : ModelHost σ) (input : Value)
    (world : World σ) :
    Except LanguageModelError Value :=
  (host.handle generator.languageModel
    (generator.request (generator.instructionsIn world) input) world.models).1

/-- How a call in training ends on a reply of the language model, and what it
leaves in the stores. -/
inductive Called (generator : Generator) (id : StoreId) (input : Value)
    (before : World σ) (reply : Except LanguageModelError Value) :
    Option (Except ModuleError Value) × World σ -> Prop
  | returned {output value : Value} {after : World σ}
      (answered : reply = .ok output)
      (made : generator.result input output = .ok value)
      (appends : before.Appends id generator.name
        (.unscored input.data output.data) after) :
      Called generator id input before reply (some (.ok value), after)
  | unjoined {output : Value} {cause : ValueError} {after : World σ}
      (answered : reply = .ok output)
      (joins : generator.returnInputs = true)
      (unjoinable : input.concat output = .error cause)
      (appends : before.Appends id generator.name
        (.unscored input.data output.data) after) :
      Called generator id input before reply
        (some (.error (.value cause)), after)
  | failed {reason : ModuleError} {after : World σ}
      (other : ∀ cause, reason ≠ .value cause)
      (same : before.SameEntries after) :
      Called generator id input before reply (some (.error reason), after)
  | abandoned {after : World σ} (same : before.SameEntries after) :
      Called generator id input before reply (none, after)

variable (host : ModelHost σ) (owner : Owner) (limit : Nat)

theorem run_activeInstructions (world : World σ) :
    generator.activeInstructions.run host owner limit world =
      (some (generator.instructionsIn world), world) := by
  unfold activeInstructions instructionsIn
  cases generator.store <;> rfl

/-- What follows a record: the execution is recorded, whether or not its result
can be made. -/
theorem called_of_appends
    {output : Value}
    {before after : World σ}
    {reply : Except LanguageModelError Value}
    (answered : reply = .ok output)
    (appends : before.Appends id generator.name
      (.unscored input.data output.data) after) :
    generator.Called id input before reply
      (some (generator.result input output), after) := by
  cases made : generator.result input output with
  | ok value => exact .returned answered made appends
  | error reason =>
      unfold result at made
      split at made
      case isFalse => contradiction
      case isTrue joins =>
        cases joined : input.concat output with
        | ok value => simp [joined, Except.mapError] at made
        | error cause =>
            rw [joined] at made
            obtain rfl := Except.error.inj made
            exact .unjoined answered joins joined appends

theorem record_of_bound (bound : generator.store = some id)
    (input output : Value) :
    generator.record true input output =
      (Activity.modify id generator.name
        (.append (.unscored input.data output.data))).bind
        fun answer =>
        .done ((answer.map fun entry => entry.predictions.length - 1).map
          fun _ => ()) := by
  unfold record
  rw [bound]
  exact Activity.bind_assoc _ _ _

/-- A call in training, once there is an answer, at any moment and whatever the
state of the language models is then. -/
theorem called_of_answer
    (bound : generator.store = some id)
    (before : World σ)
    (clock : Nat)
    (models : σ)
    {reply : Except LanguageModelError Value}
    {output : Value}
    (answered : reply = .ok output) :
    generator.Called id input before reply
      (((generator.record true input output).bind fun
        | .error cause => .done (.error (.store cause))
        | .ok _ => .done (generator.result input output)).run host owner limit
          { before with clock := clock, models := models }) := by
  rw [record_of_bound bound, Activity.bind_assoc, Activity.run_bind]
  have attempted := Activity.attempted_append host owner limit id generator.name
    (.unscored input.data output.data)
    { before with clock := clock, models := models }
  generalize Activity.run host owner limit _ _ = ended at attempted ⊢
  cases attempted with
  | appended appends =>
      exact called_of_appends answered
        ⟨appends.recorded, appends.spares.keys, appends.spares.others⟩
  | refused same => exact .failed nofun same
  | abandoned same => exact .abandoned same

/-- A call of a bound generator in training appends one prediction, its input
and the answer, if it returns a value or fails in joining both, and else changes
no variable; outside training no call changes one. -/
theorem called_of_bound (bound : generator.store = some id) (world : World σ) :
    generator.Called id input world (generator.replyIn host input world)
      ((generator.call true input).run host owner limit world) ∧
    world.SameEntries
      ((generator.call false input).run host owner limit world).2 := by
  refine ⟨?_,
    (generator.asks_call input).sameEntries_run host owner limit world⟩
  change generator.Called id input world _
    ((generator.activeInstructions.bind _).run _ _ _ _)
  rw [Activity.run_bind_of_run host owner limit
    (run_activeInstructions host owner limit world)]
  simp only [Activity.run]
  split
  case isFalse => exact .abandoned (world.sameEntries_abandon owner)
  case isTrue inTime =>
    have told (clock : Nat) :
        ((world.atClock clock).ask host generator.languageModel
          (generator.request (generator.instructionsIn world) input)).1 =
          generator.replyIn host input world := rfl
    rw [told]
    cases replied : generator.replyIn host input world with
    | error cause =>
        refine .failed ?_ (.refl world)
        simp
    | ok output => exact called_of_answer host owner limit bound world _ _ rfl

/-- A generator bound to the first store that returns its input together with
the answer. -/
def solver : Generator :=
  { Generator.create "solver" ⟨none, [.mandatory "answer" .string]⟩
    (.scripted "model") with
    returnInputs := true
    store := some 0 }

/-- A world in which the variable of the generator is registered and one answer
is scripted. -/
def solving : World Scripts :=
  (World.fresh.withModels
    [("model",
      ⟨[.ok (.object [("answer", .string "4")])], none, 0, []⟩)]).setStore
      0 ((Store.withCapacity 1).register "solver" none default).2

/-- An input of one field. -/
def single (name : String) (type : FieldType) (part : Json) : Value :=
  ⟨⟨none, [.mandatory name type]⟩, [(name, part)]⟩

theorem called_of_bound_of_solver :
    solver.store = some 0 ∧
      ∃ value after,
        (solver.call true (single "question" .string (.string "2+2"))).run
          Scripts.host 0 0 solving =
          (some (.ok value), after) ∧
        solving.Appends 0 "solver"
          (.unscored [("question", .string "2+2")] [("answer", .string "4")])
          after := by
  let question := single "question" .string (.string "2+2")
  have called :
      solver.Called 0 question solving
        (solver.replyIn Scripts.host question solving)
        ((solver.call true question).run Scripts.host 0 0 solving) :=
    (called_of_bound Scripts.host 0 0 rfl solving).1
  have replied : solver.replyIn Scripts.host question solving =
      .ok (single "answer" .string (.string "4")) := rfl
  have made : ((solver.call true question).run Scripts.host 0 0 solving).1 =
      some (.ok
        ⟨⟨none, [.mandatory "question" .string, .mandatory "answer" .string]⟩,
          [("question", .string "2+2"), ("answer", .string "4")]⟩) := rfl
  refine ⟨rfl, ?_⟩
  generalize Activity.run Scripts.host 0 0 _ solving = ended at called made ⊢
  cases called with
  | returned answered made appends =>
      rw [replied] at answered
      obtain rfl := Except.ok.inj answered
      exact ⟨_, _, rfl, appends⟩
  | unjoined => cases made
  | failed => cases made
  | abandoned => cases made

/-- The answer has another type than the field of the input: nothing is
returned, and yet the execution is recorded. -/
theorem recorded_of_conflict :
    ∃ reason after before final,
      (solver.call true (single "answer" .integer (.ofNat 4))).run
        Scripts.host 0 0 solving =
        (some (.error reason), after) ∧
      (solving.stores 0).find? "solver" = some before ∧
      before.predictions = [] ∧
      (after.stores 0).find? "solver" = some final ∧
      final.predictions.length = 1 :=
  ⟨_, _, _, _, rfl, rfl, rfl, rfl, rfl⟩

end Generator
end PromptTuning
