import PromptTuning.Proofs.Concurrency.Invariance
import PromptTuning.Proofs.Optimizer.Building
import PromptTuning.Proofs.Optimizer.Commitment

/-!
# What operations keep up

Passes, building and finalizing write variables that they make from those they
read. A property of variables is upheld if it survives what they make of a
variable and a new version and date. Then every operation keeps it, if its own
change does.
-/

namespace PromptTuning

variable {σ : Type} {setting : Setting σ} {valid : Variable -> Prop}

/-- A property that survives what passes, building and finalizing make of
a variable. -/
structure Variable.Upheld (valid : Variable -> Prop) : Prop where
  redated :
    ∀ {entry : Variable} (version : UInt64) (now : Timestamp), valid entry ->
      valid { entry with version := version, updatedAt := now }
  built : ∀ {entry : Variable}, valid entry -> valid entry.built
  finalized : ∀ {entry : Variable}, valid entry -> valid entry.finalized
  passed : ∀ {entry : Variable} {reward : Double}
    {result : Except OptimizationError OptimizeReport × Variable},
    isValidReward reward = true -> valid entry ->
      Optimizer.PassResult entry reward result ->
      valid result.2

/-- The change of a stored variable that an operation makes, if its reward is
not refused. -/
def Operation.change? : Operation -> Option Change
  | .append _ prediction => some (.append prediction)
  | .attach _ index reward =>
      if isValidReward reward then some (.attach index reward) else none
  | .set _ content => some (.update content)
  | _ => none

namespace Activity.Keeps

variable {β : Type} {id : StoreId} {store : StoreId} {key : String}
  {onward : β -> Prop}

/-- A change that keeps a property, and what is done with its answer. -/
theorem modify
    {change : Change}
    {next : Except StoreError Variable -> Activity β}
    (upheld : Variable.Upheld valid)
    (changes : ∀ stored changed, valid stored ->
      change.apply stored = .ok changed ->
      valid changed)
    (continued : ∀ answer, (next answer).Keeps id valid onward) :
    ((Activity.modify store key change).bind next).Keeps id valid onward := by
  refine (withLock (.act ?_ fun _ _ => .done trivial)).bind fun answer _ =>
    continued answer
  intro stored changed now kept applied
  exact upheld.redated _ now (changes stored changed kept applied)

end Activity.Keeps

namespace Optimizer

variable {entry : Variable} {reward : Double} {store : StoreId} {key : String}

/-- Every failure of the generation counts as one after rewards
were attached. -/
theorem isPartial_ofModule (reason : ModuleError) :
    (OptimizationError.ofModule reason).isPartial = true := by
  cases reason with
  | languageModel cause => cases cause <;> rfl
  | value cause => rfl
  | _ => rfl

/-- Generating looks only, and fails in no other way. -/
theorem keeps_generate (optimizer : Optimizer) (program : Module)
    (entry : Variable) {id : StoreId} :
    (optimizer.generate program entry).Keeps id valid fun outcome =>
      ∀ reason, outcome = .error reason -> reason.isPartial = true := by
  unfold generate
  rw [poolInput_eq]
  have looks (input : Value) :
      (program.call false input).Keeps id valid fun _ => True :=
    .ofAlike
      (program.alike_call input :
        Activity.Alike (fun _ => True) _ _ _) fun _ _ _ => trivial
  refine (looks _).bind fun outcome _ => ?_
  cases outcome with
  | error reason =>
      refine .done ?_
      rintro _ ⟨⟩
      exact isPartial_ofModule reason
  | ok output =>
      exact .done fun reason failed =>
        @isPartial_of_linesOfReply_eq_error (.ok output) reason failed

/-- A pass looks only, and what it comes to has the property of what
it was given. -/
theorem keeps_optimize
    (optimizer : Optimizer)
    (upheld : Variable.Upheld valid)
    {id : StoreId}
    (kept : valid entry) :
    (optimizer.optimize entry reward).Keeps id valid fun result =>
      valid result.2 := by
  by_cases admitted : isValidReward reward = true
  · exact .ofAlike (optimizer.alike_optimize (Eq.refl entry.undated) reward)
      fun result _ passed => upheld.passed admitted kept passed.resultFirst
  · rw [optimizer.optimize_of_invalid entry (Bool.eq_false_iff.mpr admitted)]
    exact .done kept

theorem keeps_optimizeStored (optimizer : Optimizer)
    (upheld : Variable.Upheld valid) :
    (optimizer.optimizeStored store key reward).Keeps store
      valid fun _ => True := by
  rw [optimizeStored_eq]
  refine .lock fun granted => ?_
  cases granted with
  | error reason => exact .done trivial
  | ok _ =>
      refine .act trivial fun found told => ?_
      cases found with
      | none => exact .act trivial fun _ _ => .done trivial
      | some entry =>
          refine (optimizer.keeps_optimize upheld
            (told rfl entry rfl)).bind fun ended kept => ?_
          unfold settle
          split
          · exact .act
              (fun version now => upheld.redated version now kept) fun _ _ =>
                .act trivial fun _ _ => .done trivial
          · exact .act trivial fun _ _ => .done trivial

theorem keeps_finalizeStored (upheld : Variable.Upheld valid) :
    (finalizeStored store key).Keeps store valid fun _ => True := by
  refine .withLock (.act trivial fun found told => ?_)
  cases found with
  | none => exact .done trivial
  | some entry =>
      refine .act (fun version now => ?_) fun _ _ => .done trivial
      exact upheld.redated version now (upheld.finalized (told rfl entry rfl))

theorem keeps_lockAndRead (keys : List String) :
    (lockAndRead store keys).Keeps store valid fun read =>
      ∀ entry ∈ read.2, valid entry := by
  induction keys with
  | nil => exact .done (List.forall_mem_nil _)
  | cons key keys inductionHypothesis =>
      refine .lock fun granted => ?_
      cases granted with
      | error reason => exact inductionHypothesis
      | ok _ =>
          refine .act trivial fun found told => ?_
          refine inductionHypothesis.bind fun read kept => .done ?_
          intro entry listed
          obtain own | others := List.mem_append.mp listed
          · exact told rfl entry (Option.mem_toList.mp own)
          · exact kept entry others

theorem keeps_commitAll
    (upheld : Variable.Upheld valid)
    {entries : List Variable}
    (kept : ∀ entry ∈ entries, valid entry) :
    (commitAll store entries).Keeps store valid fun _ => True := by
  induction entries with
  | nil => exact .done trivial
  | cons entry entries inductionHypothesis =>
      obtain ⟨first, others⟩ := List.forall_mem_cons.mp kept
      exact .act
        (fun version now => upheld.redated version now first) fun _ _ =>
          inductionHypothesis others

theorem keeps_unlockAll (keys : List String) :
    (unlockAll store keys).Keeps store valid fun _ => True := by
  induction keys with
  | nil => exact .done trivial
  | cons key keys inductionHypothesis =>
      exact .act trivial fun _ _ => inductionHypothesis

/-- Building commits what it has read in another phase. -/
theorem keeps_buildStored (optimizer : Optimizer)
    (upheld : Variable.Upheld valid) :
    (optimizer.buildStored store).Keeps store valid fun _ => True := by
  rw [buildStored_eq]
  refine .act trivial fun keys _ =>
    (keeps_lockAndRead keys).bind fun read kept => ?_
  refine .act trivial fun answer _ => ?_
  cases answer with
  | error cause => exact (keeps_unlockAll read.1).bind fun _ _ => .done trivial
  | ok program =>
      refine (keeps_commitAll upheld ?_).bind fun _ _ =>
        (keeps_unlockAll read.1).bind fun _ _ => .done trivial
      exact List.forall_mem_map.mpr fun entry listed =>
        upheld.built (kept entry listed)

end Optimizer

namespace Setting

open Optimizer

/-- An operation whose change keeps an upheld property keeps it. -/
theorem keeps_body
    (upheld : Variable.Upheld valid)
    {operation : Operation}
    (changes : ∀ change ∈ operation.change?, ∀ stored changed, valid stored ->
      change.apply stored = .ok changed -> valid changed) :
    (setting.body operation).Keeps setting.store valid fun _ => True := by
  cases operation with
  | append key prediction =>
      rw [setting.body_append]
      exact .modify upheld (changes _ rfl) fun _ => .done trivial
  | attach key index reward =>
      by_cases admitted : isValidReward reward = true
      · rw [setting.body_attach_of_valid key index admitted]
        exact .modify upheld (changes _ (if_pos admitted)) fun _ =>
          .done trivial
      · rw [setting.body_attach_of_invalid key index
          (Bool.eq_false_iff.mpr admitted)]
        exact .done trivial
  | set key content =>
      exact .modify upheld (changes _ rfl) fun _ => .done trivial
  | get key => exact .act trivial fun _ _ => .done trivial
  | optimize id key reward =>
      exact (keeps_optimizeStored _ upheld).bind fun _ _ => .done trivial
  | finalize key =>
      exact (keeps_finalizeStored upheld).bind fun _ _ => .done trivial
  | build id => exact (keeps_buildStored _ upheld).bind fun _ _ => .done trivial

end Setting
end PromptTuning
