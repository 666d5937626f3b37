import PromptTuning.Json.Basic

/-!
# Training events

What training tells its observers: the start and the end of an epoch and, for
each variable, whether it was optimized or skipped. An observer may fail at any
event; its failure keeps nothing from the others.
-/

namespace PromptTuning

/-- The kinds of training event. -/
inductive EventKind
  | epochBegin
  | epochEnd
  | optimized
  | skipped
  deriving DecidableEq

namespace EventKind

/-- The name of a kind of event. -/
def name : EventKind -> String
  | .epochBegin => "epoch_begin"
  | .epochEnd => "epoch_end"
  | .optimized => "optimized"
  | .skipped => "skipped"

end EventKind

/-- One thing that happened in training. -/
structure Event where
  kind : EventKind
  epoch : Nat
  /-- The key of the variable concerned, if it is one. -/
  subject : Option String
  phase : String
  message : Option String
  metadata : Json

/-- An observer: how it takes an event, which may fail with a reason. -/
abbrev Observer := Event -> Except String Unit

/-- The observers of training and the events each has received, oldest first. -/
structure Observers where
  observers : List Observer
  received : List (Nat × Event)

instance : Inhabited Observers := ⟨⟨[], []⟩⟩

namespace Observers

/-- Tell observers, numbered from an index, of an event; the failures are
only counted. -/
def tell (event : Event) : Nat -> List Observer -> List (Nat × Event) × Nat
  | _, [] => ([], 0)
  | index, observer :: rest =>
      let (received, failures) := tell event (index + 1) rest
      match observer event with
      | .ok _ => ((index, event) :: received, failures)
      | .error _ => ((index, event) :: received, failures + 1)

/-- Tell every observer of an event. -/
def notify (observers : Observers) (event : Event) : Observers :=
  { observers with
    received := observers.received ++ (tell event 0 observers.observers).1 }

end Observers

namespace Event

/-- A summary of an event that the observer of an index received. -/
def summary (index : Nat) (event : Event) : Json :=
  .array
    [.ofNat index,
      .string event.kind.name,
      .ofNat event.epoch,
      .ofString? event.subject,
      .string event.phase,
      .ofString? event.message,
      event.metadata]

end Event
end PromptTuning
