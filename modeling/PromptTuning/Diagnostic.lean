import PromptTuning.Json.Basic

/-!
# Diagnostics

Every error has a code, which is a dotted path from the part that failed to the
cause, and a wording. Some errors carry details beside them. A diagnosis is the
JSON form of all three.
-/

namespace PromptTuning

/-- Errors that can be reported. -/
class Diagnostic (ε : Type) where
  /-- The dotted path from the part that failed to the cause. -/
  code : ε -> String
  /-- The wording, empty where there is none. -/
  message : ε -> String
  /-- What else is reported. -/
  details : ε -> Members

namespace Diagnostic

/-- The JSON form of an error. -/
def diagnosis {ε : Type} [Diagnostic ε] (cause : ε) : Json :=
  .object
    ([("error", .string (code cause)), ("message", .string (message cause))] ++
      details cause)

end Diagnostic

/-- Another form of its error does not make a failure a success, or the
other way round. -/
theorem mapError_eq_ok_iff
    {α ε ε' : Type}
    {result : Except ε α}
    {change : ε -> ε'}
    {value : α} :
    result.mapError change = .ok value ↔ result = .ok value := by
  cases result with
  | error cause =>
      have failed :
          (Except.error cause : Except ε α).mapError change =
            .error (change cause) := rfl
      simp [failed]
  | ok given =>
      have kept : (Except.ok given).mapError change = .ok given := rfl
      simp [kept]

end PromptTuning
