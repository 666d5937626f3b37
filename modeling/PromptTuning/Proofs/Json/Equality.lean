import PromptTuning.Json.Basic

/-!
# Equality of JSON values

Two JSON values can be told apart, down to the order of the members of their
objects.
-/

namespace PromptTuning
namespace Json

mutual

/-- Whether two values are equal, the order of object members included. -/
def equal : Json -> Json -> Bool
  | .null, .null => true
  | .boolean left, .boolean right => left == right
  | .number left, .number right => left == right
  | .string left, .string right => left == right
  | .array left, .array right => equalItems left right
  | .object left, .object right => equalMembers left right
  | _, _ => false

/-- Whether two arrays are equal item by item. -/
def equalItems : List Json -> List Json -> Bool
  | [], [] => true
  | left :: leftRest, right :: rightRest =>
      left.equal right && equalItems leftRest rightRest
  | _, _ => false

/-- Whether two objects are equal member by member. -/
def equalMembers : Members -> Members -> Bool
  | [], [] => true
  | (leftKey, left) :: leftRest, (rightKey, right) :: rightRest =>
      leftKey == rightKey && left.equal right && equalMembers leftRest rightRest
  | _, _ => false

end

mutual

/-- Structural equality of documents is equality. -/
theorem equal_iff (left right : Json) :
    left.equal right = true ↔ left = right := by
  cases left with
  | array items => cases right <;> simp [equal, equalItems_iff items]
  | object members => cases right <;> simp [equal, equalMembers_iff members]
  | _ => cases right <;> simp [equal]

/-- Structural equality of lists of documents is equality. -/
theorem equalItems_iff (left right : List Json) :
    equalItems left right = true ↔ left = right := by
  cases left with
  | nil => cases right <;> simp [equalItems]
  | cons item rest =>
      cases right with
      | nil => simp [equalItems]
      | cons other others =>
          simp [equalItems, equal_iff item, equalItems_iff rest]

/-- Structural equality of members is equality, names and order included. -/
theorem equalMembers_iff (left right : Members) :
    equalMembers left right = true ↔ left = right := by
  cases left with
  | nil => cases right <;> simp [equalMembers]
  | cons member rest =>
      obtain ⟨name, value⟩ := member
      cases right with
      | nil => simp [equalMembers]
      | cons other others =>
          obtain ⟨otherName, otherValue⟩ := other
          simp [equalMembers, equal_iff value, equalMembers_iff rest]

end

instance : DecidableEq Json := fun left right =>
  decidable_of_iff _ (equal_iff left right)

end Json
end PromptTuning
