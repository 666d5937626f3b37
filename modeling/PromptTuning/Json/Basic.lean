import PromptTuning.Binary.Basic

/-!
# JSON values

A JSON value with three kinds of number kept apart: a whole number in the range
of the signed or unsigned 64-bit integers, and a finite double. Objects keep
their members in the order in which the keys first appeared. Two values are the
same when they agree up to the order of object members; a whole number is never
the same as a double. Where every double has to be written, those that are not
finite go by their names.
-/

namespace PromptTuning

/-- A JSON number: an integer that 64 bits can hold, signed or unsigned, or a
finite double. -/
inductive Number
  | integer
      (value : Int)
      (bounded : -9223372036854775808 ≤ value ∧ value < 18446744073709551616)
  | double (value : FiniteDouble)
  deriving DecidableEq

namespace Number

/-- The integer number with a given value, if it is in range. -/
def ofInt? (value : Int) : Option Number :=
  if bounded : -9223372036854775808 ≤ value ∧ value < 18446744073709551616 then
    some (.integer value bounded)
  else none

/-- The number of an unsigned 64-bit word. -/
def ofWord (value : UInt64) : Number :=
  .integer value.toNat (by
    have bound := value.toNat_lt
    omega)

/-- The double nearest to a number. -/
def toDouble : Number -> Double
  | .integer value _ => .ofInt value
  | .double value => .finite value

/-- Whether two numbers are equal as JSON values: of one kind and
at one place. -/
def same : Number -> Number -> Bool
  | .integer left _, .integer right _ => left == right
  | .double left, .double right => left.place == right.place
  | _, _ => false

/-- Whether two numbers are equal once both are taken as doubles. -/
def numericallyEqual (left right : Number) : Bool :=
  left.toDouble.place? == right.toDouble.place?

end Number

/-- A JSON value. -/
inductive Json
  | null
  | boolean (value : Bool)
  | number (value : Number)
  | string (value : String)
  | array (items : List Json)
  | object (members : List (String × Json))

instance : Inhabited Json := ⟨.null⟩

/-- The members of an object, in order. -/
abbrev Members := List (String × Json)

namespace Members

/-- The keys of an object, in order. -/
def keys (members : Members) : List String :=
  members.map (·.1)

/-- Whether an object has a member of the given name. -/
def has (members : Members) (name : String) : Bool :=
  (members.lookup name).isSome

/-- Replace the value of a present key in place, or append an absent one. -/
def put (name : String) (value : Json) : Members -> Members
  | [] => [(name, value)]
  | (key, old) :: rest =>
      if key = name then (key, value) :: rest
      else (key, old) :: put name value rest

/-- Put every member of the second object into the first, in order. -/
def union (left right : Members) : Members :=
  right.foldl (fun members member => members.put member.1 member.2) left

/-- No key occurs twice. -/
def Distinct (members : Members) : Prop :=
  members.keys.Nodup

@[simp] theorem keys_nil : keys [] = [] := rfl

@[simp] theorem keys_cons (member : String × Json) (rest : Members) :
    keys (member :: rest) = member.1 :: keys rest := rfl

@[simp] theorem put_nil (name : String) (value : Json) :
    put name value [] = [(name, value)] := rfl

/-- A member that was put is found under its name. -/
theorem lookup_put_self (name : String) (value : Json) (members : Members) :
    (members.put name value).lookup name = some value := by
  induction members with
  | nil => simp [put]
  | cons member rest ih =>
      obtain ⟨key, old⟩ := member
      by_cases h : key = name
      · simp [put, h]
      · have hname : (name == key) = false := by simpa using fun e => h e.symm
        simp [put, h, List.lookup_cons, hname, ih]

/-- A member that is put leaves the others as they were. -/
theorem lookup_put_of_ne
    {name other : String}
    (different : other ≠ name)
    (value : Json)
    (members : Members) :
    (members.put name value).lookup other = members.lookup other := by
  induction members with
  | nil =>
      have hother : (other == name) = false := by simpa using different
      simp [put, List.lookup_cons, hother]
  | cons member rest ih =>
      obtain ⟨key, old⟩ := member
      by_cases h : key = name
      · subst h
        have hother : (other == key) = false := by simpa using different
        simp [put, List.lookup_cons, hother]
      · simp only [put, h, if_false, List.lookup_cons]
        split <;> simp_all

end Members

namespace Json

/-- The text of a string value. -/
def asString? : Json -> Option String
  | .string value => some value
  | _ => none

/-- The items of an array value. -/
def asArray? : Json -> Option (List Json)
  | .array items => some items
  | _ => none

/-- The members of an object value. -/
def asObject? : Json -> Option Members
  | .object members => some members
  | _ => none

/-- The truth value of a boolean. -/
def asBoolean? : Json -> Option Bool
  | .boolean value => some value
  | _ => none

/-- The integer of an integer number. -/
def asInt? : Json -> Option Int
  | .number (.integer value _) => some value
  | _ => none

/-- The natural number of a nonnegative integer. -/
def asNat? : Json -> Option Nat
  | .number (.integer (.ofNat value) _) => some value
  | _ => none

/-- The double nearest to a number. -/
def asDouble? : Json -> Option Double
  | .number value => some value.toDouble
  | _ => none

/-- A member of an object value; any other value has none. -/
def get? (name : String) : Json -> Option Json
  | .object members => members.lookup name
  | _ => none

/-- Whether a value is null. -/
def isNull : Json -> Bool
  | .null => true
  | _ => false

/-- An array of strings. -/
def ofStrings (values : List String) : Json :=
  .array (values.map .string)

/-- A string, or null for an absent one. -/
def ofString? (value : Option String) : Json :=
  value.elim .null .string

/-- A finite double as a number; any other double has no JSON form
and is null. -/
def ofDouble : Double -> Json
  | .finite value => .number (.double value)
  | _ => .null

/-- The number of a natural number; one past the 64-bit range is rounded
to a double. -/
def ofNat (value : Nat) : Json :=
  (Number.ofInt? value).elim (.ofDouble (.ofInt value)) .number

mutual

/-- Equality of JSON values up to the order of object members. -/
def same : Json -> Json -> Bool
  | .null, .null => true
  | .boolean left, .boolean right => left == right
  | .number left, .number right => left.same right
  | .string left, .string right => left == right
  | .array left, .array right => sameItems left right
  | .object left, .object right =>
      left.length == right.length && membersWithin left right
  | _, _ => false

/-- Whether two arrays agree item by item. -/
def sameItems : List Json -> List Json -> Bool
  | [], [] => true
  | left :: leftRest, right :: rightRest =>
      left.same right && sameItems leftRest rightRest
  | _, _ => false

/-- Whether every member of an object has a counterpart of the same value. -/
def membersWithin : Members -> Members -> Bool
  | [], _ => true
  | (key, left) :: rest, members =>
      (match members.lookup key with
        | some right => left.same right
        | none => false) && membersWithin rest members

end

mutual

/-- No object at any depth repeats a key. -/
def Distinct : Json -> Prop
  | .array items => DistinctItems items
  | .object members => Members.Distinct members ∧ DistinctMembers members
  | _ => True

/-- No object within the items repeats a key. -/
def DistinctItems : List Json -> Prop
  | [] => True
  | item :: rest => item.Distinct ∧ DistinctItems rest

/-- No object within the member values repeats a key. -/
def DistinctMembers : Members -> Prop
  | [] => True
  | (_, value) :: rest => value.Distinct ∧ DistinctMembers rest

end

/-- A double as a number, or by its name if it is not finite. -/
def ofNamedDouble : Double -> Json
  | .nan => .string "NaN"
  | .infinite false => .string "Infinity"
  | .infinite true => .string "-Infinity"
  | .finite value => .number (.double value)

/-- A reward, null where there is none. -/
def ofNamedReward (reward : Option Double) : Json :=
  reward.elim .null ofNamedDouble

/-- The double that a number or a name stands for. -/
def asNamedDouble? : Json -> Option Double
  | .number value => some value.toDouble
  | .string "NaN" => some .nan
  | .string "Infinity" => some (.infinite false)
  | .string "-Infinity" => some (.infinite true)
  | _ => none

/-- Every number, finite or not, is read back from its named form. -/
theorem asNamedDouble?_ofNamedDouble (value : Double) :
    asNamedDouble? (ofNamedDouble value) = some value := by
  rcases value with _ | (_ | _) | _ <;> rfl

end Json
end PromptTuning
