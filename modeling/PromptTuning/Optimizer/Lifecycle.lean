import PromptTuning.Concurrency.Pool
import PromptTuning.Store.Calls

/-!
# The life of a stored variable

Variables are registered, get predictions and rewards, and are built, optimized
and finalized, one undertaking after another, each on its date. A pass may be
dropped wherever it stands.
-/

namespace PromptTuning

variable {σ : Type}

/-- What is undertaken on the variables of a store. -/
inductive Undertaking
  | register (key : String) (initial : Option Instructions)
  | append (key : String) (prediction : Prediction)
  | attach (key : String) (index : Nat) (reward : Double)
  | build (optimizer : OptimizerId)
  /-- A pass that is dropped after a number of steps, unless it is
  through before. -/
  | optimize (optimizer : OptimizerId) (key : String) (reward : Double)
      (steps : Nat)
  | finalize (key : String)

namespace World

/-- The world on another date. -/
def onDate (world : World σ) (now : Timestamp) : World σ :=
  { world with now := now }

end World

namespace Setting

variable (setting : Setting σ) (owner : Owner)

/-- What an undertaking leads to; whoever is through or dropped lets go of
everything. -/
def undertake (world : World σ) : Undertaking -> World σ
  | .register key initial =>
      ((StoreCall.register key initial).run setting.host owner world.clock
        setting.store world).2
  | .append key prediction =>
      ((StoreCall.append key prediction).run setting.host owner world.clock
        setting.store world).2
  | .attach key index reward =>
      ((StoreCall.attach key index reward).run setting.host owner world.clock
        setting.store world).2
  | .build id =>
      (((setting.optimizer id).buildStored setting.store).run setting.host
        owner world.clock world).2.abandon owner
  | .optimize id key reward steps =>
      (Progress.steps setting.host owner steps
        (.active
          ((setting.optimizer id).optimizeStored setting.store key reward))
        world).2.abandon owner
  | .finalize key =>
      ((Optimizer.finalizeStored setting.store key).run setting.host
        owner world.clock world).2.abandon owner

/-- The world after undertakings, the latest first, each on its date. -/
def after (start : World σ) : List (Timestamp × Undertaking) -> World σ
  | [] => start
  | (now, undertaking) :: earlier =>
      setting.undertake owner ((after start earlier).onDate now) undertaking

end Setting
end PromptTuning
