import PromptTuning.Module.Call

/-!
# Optimizing a variable

A pass over a variable attaches a batch reward to every unscored prediction. If
there was one, the active instructions join the candidates with that reward and
new instructions are generated from the best candidates and predictions. What a
pass does before generation fails is kept: the rewards and the new candidate
stay.
-/

namespace PromptTuning

/-- Why a variable cannot be optimized. -/
inductive OptimizationError
  | invalidReward (reward : Double)
  | notBuilt (key : String)
  | generation (reason : String)
  | malformedOutput (reason : String)
  | value (cause : ValueError)
  | build (cause : BuildError)
  | store (cause : StoreError)
  deriving DecidableEq

namespace OptimizationError

/-- The wording of an optimization error. -/
def message : OptimizationError -> String
  | .invalidReward reward =>
      "reward must be a finite value in [0, 1], got " ++ reward.toProse
  | .notBuilt key => "variable '" ++ key ++ "' has not been built"
  | .generation reason => "generation failed: " ++ reason
  | .malformedOutput reason =>
      "generation returned malformed output: " ++ reason
  | .value cause => cause.message
  | .build cause => "build error: " ++ cause.message
  | .store cause => "store error: " ++ cause.message

/-- Whether the error arose after rewards had been attached to the variable. -/
def isPartial : OptimizationError -> Bool
  | .generation _ | .malformedOutput _ => true
  | _ => false

/-- The code of an optimization error. -/
def code : OptimizationError -> String
  | .invalidReward _ => "Opt.InvalidReward"
  | .notBuilt _ => "Opt.NotBuilt"
  | .generation _ => "Opt.Generation"
  | .malformedOutput _ => "Opt.MalformedOutput"
  | .value cause => "Opt.Value." ++ cause.code
  | .build cause => "Opt." ++ cause.code
  | .store cause => "Opt." ++ cause.code

/-- A report says whether rewards had been attached. -/
def details (error : OptimizationError) : Members :=
  [("partial", .boolean error.isPartial)]

instance : Diagnostic OptimizationError := ⟨code, message, details⟩

/-- How a failure of the generation program counts. -/
def ofModule : ModuleError -> OptimizationError
  | .languageModel (.malformed reason) => .malformedOutput reason
  | .value cause => .malformedOutput cause.message
  | other => .generation other.message

end OptimizationError

/-- What a pass did. -/
structure OptimizeReport where
  /-- The number of predictions that got a reward. -/
  backpropagated : Nat
  /-- Whether new instructions were generated. -/
  regenerated : Bool
  deriving DecidableEq

namespace OptimizeReport

/-- The report of a pass without anything to do. -/
def idle : OptimizeReport := ⟨0, false⟩

/-- Whether a pass had nothing to do. -/
def isNoop (report : OptimizeReport) : Bool :=
  report.backpropagated == 0

/-- The JSON form of a report. -/
def toJson (report : OptimizeReport) : Json :=
  .object
    [("backpropagated", .ofNat report.backpropagated),
      ("regenerated", .boolean report.regenerated),
      ("noop", .boolean report.isNoop)]

end OptimizeReport

namespace Variable

/-- The variable with a reward on every unscored prediction. -/
def broadcast (reward : Double) (entry : Variable) : Variable :=
  { entry with
    predictions := entry.predictions.map fun prediction =>
      if prediction.isUnscored then prediction.withReward reward
      else prediction }

/-- The variable with its active instructions among the candidates,
at a reward. -/
def archive (reward : Double) (entry : Variable) : Variable :=
  { entry with
    candidates :=
      entry.candidates ++
      (entry.instructions.map (·.withReward reward)).toList }

/-- The variable in another phase. -/
def inPhase (phase : Phase) (entry : Variable) : Variable :=
  { entry with phase := phase }

/-- The variable once built; one that is built already is left alone. -/
def built (entry : Variable) : Variable :=
  if entry.phase = .unbuilt then entry.inPhase .idle else entry

/-- The variable at the end of an epoch: no candidates and, once
built, finalized. -/
def finalized (entry : Variable) : Variable :=
  { entry with
    candidates := []
    phase := if entry.phase.isBuilt then .finalized else entry.phase }

end Variable

namespace Optimizer

/-- The input of the generation program for candidates and predictions. -/
def poolInput (candidates : List Instructions) (predictions : List Prediction) :
    Except OptimizationError Value :=
  (Value.ofMembers inputSchema
    [("instructions_candidates", .array (candidates.map Instructions.toJson)),
      ("predictions",
        .array (predictions.map Prediction.toJson))]).mapError fun violations =>
    .generation
      ("generation input rejected: " ++ ValueError.validationMessage violations)

/-- The instructions in an answer of the generation program. -/
def generatedLines (output : Value) : Except OptimizationError (List String) :=
  match output.field? "instructions" with
  | none => .error (.malformedOutput "missing 'instructions'")
  | some lines =>
      (Decoder.list Decoder.string lines).mapError fun reason =>
        .malformedOutput reason.message

/-- Generate instructions from the best candidates and predictions of
a variable. -/
def generate (optimizer : Optimizer) (program : Module) (entry : Variable) :
    Activity (Except OptimizationError (List String)) :=
  match poolInput
      (optimizer.candidateRanking.top optimizer.shown entry.candidates)
      (optimizer.predictionRanking.top optimizer.shown entry.predictions) with
  | .error reason => .done (.error reason)
  | .ok input => do
      match ← program.call false input with
      | .error reason => return .error (.ofModule reason)
      | .ok output => return generatedLines output

/-- Optimize a variable at a reward; answers the variable as the pass leaves it.
While the pass is under way the variable is in a phase of its own, which ends
with the generation. -/
def optimize (optimizer : Optimizer) (entry : Variable) (reward : Double) :
    Activity (Except OptimizationError OptimizeReport × Variable) :=
  if !isValidReward reward then .done (.error (.invalidReward reward), entry)
  else if !entry.phase.isBuilt then .done (.error (.notBuilt entry.key), entry)
  else
    .act (.program optimizer) fun
      | .error cause => .done (.error (.build cause), entry)
      | .ok program =>
          let scored := (entry.inPhase .optimizing).broadcast reward
          if entry.unscoredCount = 0 then
            .done (.ok .idle, scored.inPhase .idle)
          else do
            let archived := scored.archive reward
            let outcome ← optimizer.generate program archived
            let settled := archived.inPhase .idle
            match outcome with
            | .error reason => return (.error reason, settled)
            | .ok lines =>
                return (.ok ⟨entry.unscoredCount, true⟩,
                  { settled with instructions := some (.ofLines lines) })

/-- Build the generation program and mark variables as built. -/
def build (optimizer : Optimizer) (entries : List Variable) :
    Activity (Except BuildError (List Variable)) :=
  .act (.program optimizer) fun
    | .error cause => .done (.error cause)
    | .ok _ => .done (.ok (entries.map Variable.built))

/-- Lock keys one by one and read their variables; keys that are gone are
passed over. -/
def lockAndRead (store : StoreId) :
    List String -> Activity (List String × List Variable)
  | [] => .done ([], [])
  | key :: rest =>
      .lock store key fun
        | .error _ => lockAndRead store rest
        | .ok _ => do
            let entry ← Activity.perform (.read store key)
            let (keys, entries) ← lockAndRead store rest
            return (key :: keys, entry.toList ++ entries)

/-- Commit variables one by one. -/
def commitAll (store : StoreId) : List Variable -> Activity Unit
  | [] => .done ()
  | entry :: rest => do
      Activity.perform (.commit store entry)
      commitAll store rest

/-- Let go of the locks of keys. -/
def unlockAll (store : StoreId) : List String -> Activity Unit
  | [] => .done ()
  | key :: rest => do
      Activity.perform (.unlock store key)
      unlockAll store rest

/-- Build every stored variable under all their locks. -/
def buildStored (optimizer : Optimizer) (store : StoreId) :
    Activity (Except OptimizationError Unit) := do
  let keys ← Activity.perform (.keys store)
  let (locked, entries) ← lockAndRead store keys
  let outcome ← optimizer.build entries
  match outcome with
  | .error cause =>
      unlockAll store locked
      return .error (.build cause)
  | .ok built =>
      commitAll store built
      unlockAll store locked
      return .ok ()

/-- Whether the outcome of a pass on a stored variable is committed. -/
def commits (before after : Variable) :
    Except OptimizationError OptimizeReport -> Bool
  | .ok report => !report.isNoop || !after.same before
  | .error reason => reason.isPartial

/-- Optimize a stored variable under its lock. -/
def optimizeStored (optimizer : Optimizer) (store : StoreId) (key : String)
    (reward : Double) :
    Activity (Except OptimizationError OptimizeReport) :=
  Activity.withLock store key .store do
    match ← Activity.perform (.read store key) with
    | none => return .error (.store (.notFound key))
    | some entry =>
        let (outcome, after) ← optimizer.optimize entry reward
        if commits entry after outcome then
          Activity.perform (.commit store after)
        return outcome

/-- Finalize a stored variable under its lock. -/
def finalizeStored (store : StoreId) (key : String) :
    Activity (Except OptimizationError Unit) :=
  Activity.withLock store key .store do
    match ← Activity.perform (.read store key) with
    | none => return .error (.store (.notFound key))
    | some entry =>
        Activity.perform (.commit store entry.finalized)
        return .ok ()

end Optimizer

end PromptTuning
