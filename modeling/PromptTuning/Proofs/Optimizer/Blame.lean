import PromptTuning.Proofs.Optimizer.Commitment

/-!
# Where a failed generation comes from

An optimizer's own program never refuses what the optimizer shows it: the pool
holds every record as it is and passes the check of the program. So a pass gets
to ask its one question, and where it then fails, it fails by the reply: the
language model reports an error, or its answer lists no instructions. This holds
however others come in between, for it is read off what a pass is told.
-/

namespace PromptTuning

/-- A reward that is not finite is shown as null. -/
theorem Json.ofReward_eq_null {reward : Double}
    (infinite : reward.isFinite = false) :
    Json.ofReward (some reward) = .null := by
  cases reward with
  | finite value => simp [Binary.isFinite] at infinite
  | _ => rfl

namespace Optimizer

variable
  {optimizer : Optimizer}
  {model : LanguageModel}
  {store : StoreId}
  {key : String}
  {entry final : Variable}
  {reward : Double}
  {reason : OptimizationError}
  {events : List Exchange}

/-- Whatever comes to pass, an optimizer gets the program that it
builds itself. -/
def GetsOwnProgram (optimizer : Optimizer) (events : List Exchange) : Prop :=
  ∀ now answer, .acted now (.program optimizer) answer ∈ events ->
    answer = optimizer.buildProgram

/-- An error of the reply to a question: the language model's own, or that of an
answer in which no instructions are listed. -/
inductive FromReply :
    Except LanguageModelError Value -> OptimizationError -> Prop
  | refused (cause : LanguageModelError) :
      FromReply (.error cause) (.ofModule (.languageModel cause))
  | unlisted
      {output : Value}
      (unlisted :
        ∀ lines, output.field? "instructions" ≠ some (.ofStrings lines))
      (text : String) :
      FromReply (.ok output) (.malformedOutput text)

/-- A generation failed by the reply to its question, which showed the best
records of a variable to a language model. -/
def FailsByReply
    (optimizer : Optimizer)
    (model : LanguageModel)
    (entry : Variable)
    (reason : OptimizationError)
    (events : List Exchange) : Prop :=
  ∃ now request reply,
    poolInput
        (optimizer.candidateRanking.top optimizer.shown entry.candidates)
        (optimizer.predictionRanking.top optimizer.shown entry.predictions) =
      .ok request.input ∧
    events =
      [.acted now (.program optimizer) optimizer.buildProgram,
        .replied model request reply] ∧
    FromReply reply reason

/-- A generation that fails on a reply fails by it. -/
theorem fromReply_of_linesOfReply
    {reply : Except LanguageModelError Value}
    (failed : linesOfReply reply = .error reason) :
    FromReply reply reason := by
  cases reply with
  | error cause =>
      obtain rfl := Except.error.inj failed
      exact .refused cause
  | ok output =>
      have unlisted (lines : List String) :
          output.field? "instructions" ≠ some (.ofStrings lines) := by
        intro listed
        rw [linesOfReply, generatedLines_eq_ok_iff.mpr listed] at failed
        contradiction
      obtain ⟨text, rfl⟩ := exists_malformedOutput_of_generatedLines failed
      exact .unlisted unlisted text

/-- With its own program, an optimizer with a language model asks it the one
question of a pass, unless there is nothing to score. -/
theorem proceed_buildProgram
    (described : optimizer.languageModel = some model)
    (entry : Variable)
    (reward : Double) :
    optimizer.proceed entry reward optimizer.buildProgram =
      if entry.unscoredCount = 0 then
        .done (.ok ⟨0, false⟩, { entry with phase := .idle })
      else
        .generate model
          (optimizer.question (entry.scoredAt reward)) fun reply =>
            .done (conclude entry reward (linesOfReply reply)) := by
  cases ready : optimizer.buildProgram with
  | error cause => simp [buildProgram, described, outputSchema_eq] at ready
  | ok program =>
      obtain ⟨_, same, asked⟩ := generate_eq ready (entry.scoredAt reward)
      obtain rfl := Option.some.inj (described.symm.trans same)
      rw [proceed, asked]
      rfl

/-- A pass over a built variable with something to score, told any reply, comes
to what it makes of the reply. -/
theorem responds_optimize
    (described : optimizer.languageModel = some model)
    (valid : isValidReward reward = true)
    (built : entry.phase ≠ .unbuilt)
    (unscored : entry.unscoredCount ≠ 0)
    (now : Timestamp)
    (reply : Except LanguageModelError Value) :
    (optimizer.optimize entry reward).Responds
      [.acted now (.program optimizer) optimizer.buildProgram,
        .replied model (optimizer.question (entry.scoredAt reward)) reply]
      (.done (conclude entry reward (linesOfReply reply))) := by
  rw [optimize_of_built optimizer valid built]
  apply Activity.Responds.cons (.acted now _)
  rw [proceed_buildProgram described, if_neg unscored]
  exact .cons (.replied reply) .begin

/-- A pass that fails after it has touched its variable fails by the reply to
its question. -/
theorem failsByReply_of_responds
    (described : optimizer.languageModel = some model)
    (own : optimizer.GetsOwnProgram events)
    (responds : (optimizer.optimize entry reward).Responds events
      (.done (.error reason, final)))
    (touched : reason.isPartial = true) :
    FailsByReply optimizer model final reason events := by
  by_cases valid : isValidReward reward = true
  case neg =>
    rw [optimize_of_invalid optimizer entry
      (Bool.eq_false_iff.mpr valid)] at responds
    cases responds.of_done.2
    contradiction
  by_cases built : entry.phase = .unbuilt
  case pos =>
    rw [optimize_of_unbuilt optimizer valid built] at responds
    cases responds.of_done.2
    contradiction
  rw [optimize_of_built optimizer valid built] at responds
  obtain ⟨now, answer, later, rfl, rest⟩ := responds.of_act
  obtain rfl := own now answer List.mem_cons_self
  rw [proceed_buildProgram described] at rest
  split at rest
  · cases rest.of_done.2
  · obtain ⟨reply, later, rfl, concluded⟩ := rest.of_generate
    obtain ⟨rfl, same⟩ := concluded.of_done
    have ended := Activity.done.inj same
    cases read : linesOfReply reply with
    | ok lines => simp [read, conclude] at ended
    | error cause =>
        rw [read] at ended
        obtain ⟨failed, rfl⟩ := Prod.mk.inj ended
        obtain rfl := Except.error.inj failed
        exact ⟨now, optimizer.question (entry.scoredAt reward), reply,
          poolInput_eq _ _, rfl,
          fromReply_of_linesOfReply read⟩

/-- Letting go of the lock does not change the result of a stored pass. -/
theorem eq_of_responds_release
    {β : Type}
    {before after : β}
    (responds : (release store key before).Responds events (.done after)) :
    after = before := by
  obtain ⟨_, _, _, _, rest⟩ := Activity.Responds.of_act responds
  exact Activity.done.inj rest.of_done.2

/-- Committing does not change the result of a stored pass either. -/
theorem eq_of_responds_settle
    {ended : Except OptimizationError OptimizeReport × Variable}
    {outcome : Except OptimizationError OptimizeReport}
    (responds :
      (settle store key entry ended).Responds events (.done outcome)) :
    outcome = ended.1 := by
  unfold settle at responds
  split at responds
  · obtain ⟨_, _, _, _, rest⟩ := responds.of_act
    exact eq_of_responds_release rest
  · exact eq_of_responds_release responds

/-- A stored pass that fails after it has touched its variable fails by the
reply to the question of the pass within. -/
theorem failsByReply_of_responds_underLock
    (described : optimizer.languageModel = some model)
    (own : optimizer.GetsOwnProgram events)
    {granted : Except StoreError Unit}
    (responds :
      (optimizer.underLock store key reward granted).Responds events
        (.done (.error reason)))
    (touched : reason.isPartial = true) :
    ∃ final earlier inner later,
      events = earlier ++ inner ++ later ∧
      FailsByReply optimizer model final reason inner := by
  cases granted with
  | error cause =>
      obtain ⟨_, same⟩ := Activity.Responds.of_done responds
      obtain rfl := Except.error.inj (Activity.done.inj same)
      contradiction
  | ok _ =>
      obtain ⟨now, found, events, rfl, rest⟩ :=
        Activity.Responds.of_act responds
      cases found with
      | none =>
          obtain rfl := Except.error.inj (eq_of_responds_release rest)
          contradiction
      | some entry =>
          obtain ⟨inner, ended, later, rfl, passed, settled⟩ :=
            Activity.Responds.of_bind rest
          obtain ⟨outcome, final⟩ := ended
          obtain rfl := eq_of_responds_settle settled
          have within : optimizer.GetsOwnProgram inner :=
            fun now answer acted =>
              own now answer
                (List.mem_cons_of_mem _ (List.mem_append_left _ acted))
          exact ⟨final, [.acted now (.read store key) (some entry)],
            inner, later, rfl,
            failsByReply_of_responds described within passed touched⟩

/-- The program of an optimizer with a language model takes every pool: the pool
holds the records in their order and as they are, with null for a reward that is
not finite, and the program asks about it. So whatever comes in between, a pass
or a stored pass whose generation fails, or whose output is malformed, fails by
the reply to its question about the best records. -/
theorem pool_never_refused (described : optimizer.languageModel = some model) :
    (∃ program, optimizer.buildProgram = .ok program ∧
      ∀ candidates predictions, ∃ input,
        poolInput candidates predictions = .ok input ∧
        input.data =
          [("instructions_candidates",
            .array (candidates.map Instructions.toJson)),
            ("predictions", .array (predictions.map Prediction.toJson))] ∧
        ∀ training, ∃ request resume,
          program.call training input = .generate model request resume ∧
          request.input = input) ∧
      (∀ reward : Double, reward.isFinite = false ->
        (∀ set : Instructions,
          (set.withReward reward).toJson.get? "reward" = some .null) ∧
        ∀ prediction : Prediction,
          (prediction.withReward reward).toJson.get? "reward" = some .null) ∧
      (∀ entry reward events reason final,
        (optimizer.optimize entry reward).Responds events
          (.done (.error reason, final)) ->
        optimizer.GetsOwnProgram events ->
        (∃ text, reason = .generation text ∨ reason = .malformedOutput text) ->
        FailsByReply optimizer model final reason events) ∧
      ∀ store key reward resume granted events reason,
        optimizer.optimizeStored store key reward = .lock store key resume ->
        (resume granted).Responds events (.done (.error reason)) ->
        optimizer.GetsOwnProgram events ->
        (∃ text, reason = .generation text ∨ reason = .malformedOutput text) ->
        ∃ final earlier inner later,
          events = earlier ++ inner ++ later ∧
            FailsByReply optimizer model final reason inner := by
  have touched {reason : OptimizationError}
      (failed :
        ∃ text, reason = .generation text ∨ reason = .malformedOutput text) :
      reason.isPartial = true := by
    obtain ⟨text, rfl | rfl⟩ := failed <;> rfl
  refine ⟨?_, ?_, ?_, ?_⟩
  · simp only [buildProgram, described, outputSchema_eq]
    refine ⟨_, rfl,
      fun candidates predictions => ⟨_, poolInput_eq _ _, rfl, ?_⟩⟩
    intro training
    simp only [Module.call, inputSchema_contains_self, if_true]
    exact ⟨_, _, rfl, rfl⟩
  · intro reward infinite
    have shown : some (Json.ofReward (some reward)) = some .null :=
      congrArg some (Json.ofReward_eq_null infinite)
    exact ⟨fun _ => shown, fun _ => shown⟩
  · intro entry reward events reason final responds own failed
    exact failsByReply_of_responds described own responds (touched failed)
  · intro store key reward resume granted events reason opens
      responds own failed
    rw [optimizeStored_eq] at opens
    cases opens
    exact failsByReply_of_responds_underLock described own responds
      (touched failed)

/-- A prediction with no number as its reward is shown, and the model cannot
be reached. -/
theorem pool_never_refused_of_unreachable :
    let optimizer := standard 0 (some (.scripted "writer"))
    let entry : Variable :=
      { Variable.create "qa" default with
        phase := .idle
        predictions :=
          [.unscored [] [], (Prediction.unscored [] []).withReward .nan] }
    let reply : Except LanguageModelError Value := .error (.http "unreachable")
    optimizer.languageModel = some (.scripted "writer") ∧
      ∃ events,
        (optimizer.optimize entry (.one .double)).Responds events
          (.done (conclude entry (.one .double) (linesOfReply reply))) ∧
        FailsByReply optimizer (.scripted "writer")
          (entry.scoredAt (.one .double))
          (.generation "language model error: http error: unreachable")
          events := by
  intro optimizer entry reply
  have described : optimizer.languageModel = some (.scripted "writer") := rfl
  have valid : isValidReward (.one .double) = true := by decide +kernel
  have built : entry.phase ≠ .unbuilt := by decide
  have unscored : entry.unscoredCount ≠ 0 := by decide
  have responds :=
    responds_optimize described valid built unscored default reply
  have own : optimizer.GetsOwnProgram
      [.acted default (.program optimizer) optimizer.buildProgram,
        .replied (.scripted "writer")
          (optimizer.question (entry.scoredAt (.one .double)))
          reply] := by
    intro now answer acted
    cases acted with
    | head => rfl
    | tail _ replied => cases replied with | tail _ nothing => cases nothing
  exact ⟨described, _, responds,
    (pool_never_refused described).2.2.1 _ _ _ _ _ responds own ⟨_, .inl rfl⟩⟩

end Optimizer
end PromptTuning
