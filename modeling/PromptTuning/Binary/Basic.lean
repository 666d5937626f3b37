/-!
# Binary floating-point numbers

A finite number of a binary format is a sign and a rank: its position among the
nonnegative values of the format in increasing order. Every finite value is a
whole number of units, the unit being the least positive value of the format,
so comparison is comparison of ranks and rounding is rounding of a ratio of
natural numbers to the nearest rank.
-/

namespace PromptTuning

/-- The binary formats in use: 32-bit and 64-bit. -/
inductive BinaryFormat
  | single
  | double
  deriving DecidableEq

namespace BinaryFormat

/-- Number of bits below the leading bit of a normal significand. -/
def fractionBits : BinaryFormat -> Nat
  | .single => 23
  | .double => 52

/-- The least positive value is two to the power of minus this number. -/
def unitExponent : BinaryFormat -> Nat
  | .single => 149
  | .double => 1074

/-- Number of exponent fields that denote finite values. -/
def exponentFields : BinaryFormat -> Nat
  | .single => 255
  | .double => 2047

/-- Number of finite nonnegative values. -/
def magnitudes (format : BinaryFormat) : Nat :=
  format.exponentFields * Nat.pow 2 format.fractionBits

theorem magnitudes_pos (format : BinaryFormat) : 0 < format.magnitudes := by
  cases format <;> decide

end BinaryFormat

/-- A finite number of a binary format. -/
structure Finite (format : BinaryFormat) where
  /-- Whether the sign is minus; a negative zero is distinct from zero. -/
  negative : Bool
  /-- Position of the magnitude among the nonnegative values. -/
  rank : Nat
  /-- Only finitely many magnitudes are finite. -/
  rank_lt : rank < format.magnitudes
  deriving DecidableEq

/-- A number of a binary format: not a number, an infinity, or finite. -/
inductive Binary (format : BinaryFormat)
  | nan
  | infinite (negative : Bool)
  | finite (value : Finite format)
  deriving DecidableEq

/-- A 64-bit number. -/
abbrev Double := Binary .double

/-- A 32-bit number. -/
abbrev Single := Binary .single

/-- A finite 64-bit number. -/
abbrev FiniteDouble := Finite .double

/-- A finite 32-bit number. -/
abbrev FiniteSingle := Finite .single

/-- The quotient of two natural numbers rounded to nearest, a half to the
even neighbour. -/
def roundQuotient (numerator denominator : Nat) : Nat :=
  let quotient := numerator / denominator
  let remainder := numerator % denominator
  if 2 * remainder < denominator then quotient
  else if denominator < 2 * remainder then quotient + 1
  else if quotient % 2 = 0 then quotient
  else quotient + 1

namespace BinaryFormat

/-- The magnitude of a rank in units of the least positive value. -/
def unitsOfRank (format : BinaryFormat) (rank : Nat) : Nat :=
  let field := rank / Nat.pow 2 format.fractionBits
  if field = 0 then rank
  else
    (Nat.pow 2 format.fractionBits + rank % Nat.pow 2 format.fractionBits) *
      Nat.pow 2 (field - 1)

/-- The rank nearest to a ratio of units, exponents taken as unbounded. -/
def rankOfUnits (format : BinaryFormat) (numerator denominator : Nat) : Nat :=
  let shift := (numerator / denominator).log2 - format.fractionBits
  shift * Nat.pow 2 format.fractionBits +
    roundQuotient numerator (denominator * Nat.pow 2 shift)

end BinaryFormat

namespace Finite

variable {format : BinaryFormat}

/-- Positive zero. -/
def zero (format : BinaryFormat) : Finite format where
  negative := false
  rank := 0
  rank_lt := format.magnitudes_pos

instance : Inhabited (Finite format) := ⟨zero format⟩

/-- The magnitude in units of the least positive value. -/
def units (value : Finite format) : Nat :=
  format.unitsOfRank value.rank

/-- The place of a value on the number line; both zeros share one place. -/
def place (value : Finite format) : Int :=
  if value.negative then -(value.rank : Int) else value.rank

/-- The same magnitude with the opposite sign. -/
def neg (value : Finite format) : Finite format :=
  { value with negative := !value.negative }

/-- The whole number equal to a value, if there is one. -/
def toInt? (value : Finite format) : Option Int :=
  if value.units % Nat.pow 2 format.unitExponent = 0 then
    let magnitude := value.units / Nat.pow 2 format.unitExponent
    some (if value.negative then -(magnitude : Int) else magnitude)
  else none

end Finite

namespace Binary

variable {format : BinaryFormat}

/-- The number nearest to a signed ratio of units; magnitudes past the last
finite one are infinite. -/
def ofUnits (negative : Bool) (numerator denominator : Nat) : Binary format :=
  let rank := format.rankOfUnits numerator denominator
  if bounded : rank < format.magnitudes then .finite ⟨negative, rank, bounded⟩
  else .infinite negative

/-- The number nearest to a signed ratio. -/
def ofRatio (negative : Bool) (numerator denominator : Nat) : Binary format :=
  ofUnits negative (numerator * Nat.pow 2 format.unitExponent) denominator

/-- The number nearest to an integer. -/
def ofInt (value : Int) : Binary format :=
  ofRatio (decide (value < 0)) value.natAbs 1

/-- The number nearest to a signed decimal: a coefficient times a
power of ten. -/
def ofDecimal (negative : Bool) (coefficient : Nat) (exponent : Int) :
    Binary format :=
  match exponent with
  | .ofNat power => ofRatio negative (coefficient * Nat.pow 10 power) 1
  | .negSucc power => ofRatio negative coefficient (Nat.pow 10 (power + 1))

/-- Whether a number is finite. -/
def isFinite : Binary format -> Bool
  | .finite _ => true
  | _ => false

/-- The finite value of a number, if it has one. -/
def finite? : Binary format -> Option (Finite format)
  | .finite value => some value
  | _ => none

/-- The place on the extended number line; there is none for a number that
is not one. -/
def place? : Binary format -> Option Int
  | .nan => none
  | .infinite negative =>
      some (if negative then -(format.magnitudes : Int) else format.magnitudes)
  | .finite value => some value.place

/-- Whether both numbers have a place and the first lies below the
second or on it. -/
def le (left right : Binary format) : Bool :=
  match left.place?, right.place? with
  | some leftPlace, some rightPlace => decide (leftPlace ≤ rightPlace)
  | _, _ => false

/-- Whether both numbers have a place and the first lies below the second. -/
def lt (left right : Binary format) : Bool :=
  match left.place?, right.place? with
  | some leftPlace, some rightPlace => decide (leftPlace < rightPlace)
  | _, _ => false

/-- Positive zero. -/
def zero (format : BinaryFormat) : Binary format := .finite (.zero format)

/-- One. -/
def one (format : BinaryFormat) : Binary format := ofInt 1

instance : Inhabited (Binary format) := ⟨zero format⟩

/-- The number of another format nearest to a number. -/
def convert (target : BinaryFormat) : Binary format -> Binary target
  | .nan => .nan
  | .infinite negative => .infinite negative
  | .finite value =>
      ofUnits value.negative
        (value.units * Nat.pow 2 target.unitExponent)
        (Nat.pow 2 format.unitExponent)

/-- The larger of two numbers; a number that is not one gives way
to the other. -/
def max (left right : Binary format) : Binary format :=
  match left, right with
  | .nan, _ => right
  | _, .nan => left
  | _, _ => if left.lt right then right else left

/-- The smaller of two numbers; a number that is not one gives way
to the other. -/
def min (left right : Binary format) : Binary format :=
  match left, right with
  | .nan, _ => right
  | _, .nan => left
  | _, _ => if right.lt left then right else left

end Binary

namespace Finite

variable {format : BinaryFormat}

/-- The sum of two finite values, rounded; a sum of zero is negative only for
two negative zeros. -/
def add (left right : Finite format) : Binary format :=
  let signed (value : Finite format) : Int :=
    if value.negative then -(value.units : Int) else value.units
  let total := signed left + signed right
  if total = 0 then
    .finite { zero format with negative := left.negative && right.negative }
  else .ofUnits (decide (total < 0)) total.natAbs 1

/-- The product of two finite values, rounded. -/
def mul (left right : Finite format) : Binary format :=
  .ofUnits (left.negative != right.negative) (left.units * right.units)
    (Nat.pow 2 format.unitExponent)

/-- The quotient of a finite value by a nonzero one, rounded. -/
def div (left right : Finite format) : Binary format :=
  .ofUnits (left.negative != right.negative)
    (left.units * Nat.pow 2 format.unitExponent) right.units

end Finite

end PromptTuning
