import PromptTuning.Binary.Basic

/-!
# Shortest decimal text

The decimal of fewest digits that reads back as a given finite value, and of
those the one nearest to it. A value is read back from every decimal between the
midpoints to its two neighbours, the midpoints included when its rank is even.
On each decimal grid only the two points around the value need testing. A layout
says where the point goes and when an exponent is written instead.
-/

namespace PromptTuning

/-- A positive decimal: a coefficient times a power of ten. -/
structure Decimal where
  /-- The digits, read as a natural number. -/
  coefficient : Nat
  /-- The power of ten of the last digit. -/
  exponent : Int
  deriving DecidableEq, Repr

namespace Decimal

/-- A decimal without trailing zeros that equals a given one; the fuel bounds
the zeros removed. -/
def trim : Nat -> Decimal -> Decimal
  | 0, decimal => decimal
  | fuel + 1, decimal =>
      if decimal.coefficient % 10 = 0 && decimal.coefficient != 0 then
        trim fuel ⟨decimal.coefficient / 10, decimal.exponent + 1⟩
      else decimal

end Decimal

/-- A positive interval of rationals over one denominator, with the value
it surrounds. -/
structure RoundingInterval where
  lower : Nat
  value : Nat
  upper : Nat
  denominator : Nat
  /-- Whether the ends belong to the interval. -/
  closed : Bool

namespace RoundingInterval

/-- The interval after multiplication by a power of ten. -/
def scale (interval : RoundingInterval) (power : Int) : RoundingInterval :=
  match power with
  | .ofNat power =>
      { interval with
        lower := interval.lower * Nat.pow 10 power
        value := interval.value * Nat.pow 10 power
        upper := interval.upper * Nat.pow 10 power }
  | .negSucc power =>
      { interval with
        denominator := interval.denominator * Nat.pow 10 (power + 1) }

/-- Whether a natural number lies in the interval. -/
def contains (interval : RoundingInterval) (candidate : Nat) : Bool :=
  let scaled := candidate * interval.denominator
  if interval.closed then interval.lower <= scaled && scaled <= interval.upper
  else interval.lower < scaled && scaled < interval.upper

/-- The natural number nearest to the value among those in the interval, if
there is one. -/
def nearest? (interval : RoundingInterval) : Option Nat :=
  let below := interval.value / interval.denominator
  let rest := interval.value % interval.denominator
  let preferBelow :=
    2 * rest < interval.denominator ||
    (2 * rest == interval.denominator && below % 2 == 0)
  match interval.contains below && below != 0,
    interval.contains (below + 1) with
  | true, true => some (if preferBelow then below else below + 1)
  | true, false => some below
  | false, true => some (below + 1)
  | false, false => none

/-- The first grid, from coarse to fine, that has a point in the interval. -/
def firstGrid (interval : RoundingInterval) : Nat -> Int -> Option Decimal
  | 0, _ => none
  | fuel + 1, exponent =>
      match (interval.scale (-exponent)).nearest? with
      | some coefficient => some ⟨coefficient, exponent⟩
      | none => firstGrid interval fuel (exponent - 1)

/-- The least power of ten that brings a value below one up to one, counted
from a start. -/
def liftingPower (numerator denominator : Nat) : Nat -> Nat -> Nat
  | 0, power => power
  | fuel + 1, power =>
      if denominator ≤ numerator * Nat.pow 10 power then power
      else liftingPower numerator denominator fuel (power + 1)

/-- The power of ten of the leading digit of the value. -/
def leadingExponent (interval : RoundingInterval) : Int :=
  let whole := interval.value / interval.denominator
  if whole = 0 then
    -(liftingPower interval.value interval.denominator 400 0 : Int)
  else ((Nat.toDigits 10 whole).length : Int) - 1

end RoundingInterval

namespace Finite

variable {format : BinaryFormat}

/-- The reals that round to a finite nonzero magnitude. -/
def roundingInterval (value : Finite format) : RoundingInterval where
  lower := format.unitsOfRank (value.rank - 1) + value.units
  value := 2 * value.units
  upper := value.units + format.unitsOfRank (value.rank + 1)
  denominator := Nat.pow 2 (format.unitExponent + 1)
  closed := value.rank % 2 == 0

/-- The shortest decimal that reads back as the magnitude of a value; zero has
coefficient zero. -/
def shortest (value : Finite format) : Decimal :=
  if value.rank = 0 then ⟨0, 0⟩
  else
    let interval := value.roundingInterval
    match interval.firstGrid 20 interval.leadingExponent with
    | some decimal => decimal.trim 400
    | none => ⟨0, 0⟩

end Finite

/-- How a decimal is laid out as text. -/
structure DecimalLayout where
  /-- The exponents of the leading digit that are written positionally. -/
  positional : Int -> Bool
  /-- Whether a whole number is followed by a point and a zero. -/
  markWhole : Bool
  /-- Whether a positive exponent is written with its sign. -/
  signExponent : Bool

namespace DecimalLayout

/-- The text of a decimal under a layout. -/
def render (layout : DecimalLayout) (decimal : Decimal) : String :=
  let digits := toString decimal.coefficient
  let count := digits.length
  let leading := decimal.exponent + count - 1
  if layout.positional leading then
    match decimal.exponent with
    | .ofNat zeros =>
        digits ++ String.ofList (List.replicate zeros '0') ++
        (if layout.markWhole then ".0" else "")
    | .negSucc places =>
        if leading < 0 then
          "0." ++ String.ofList (List.replicate (-leading - 1).toNat '0') ++
          digits
        else
          String.ofList (digits.toList.take (count - (places + 1))) ++ "." ++
            String.ofList (digits.toList.drop (count - (places + 1)))
  else
    let mantissa :=
      match digits.toList with
      | [] => ""
      | [digit] => String.singleton digit
      | digit :: rest => String.singleton digit ++ "." ++ String.ofList rest
    mantissa ++ "e" ++
      (if layout.signExponent && 0 < leading then "+" else "") ++
      toString leading

/-- The text of a finite value: a minus for a negative one, then its
shortest decimal. -/
def renderFinite {format : BinaryFormat} (layout : DecimalLayout)
    (value : Finite format) : String :=
  (if value.negative then "-" else "") ++ layout.render value.shortest

/-- Numbers in prose are always positional and a whole number has no point. -/
def prose : DecimalLayout where
  positional _ := true
  markWhole := false
  signExponent := false

end DecimalLayout

namespace Binary

variable {format : BinaryFormat}

/-- The text of a number in a message. -/
def toProse : Binary format -> String
  | .nan => "NaN"
  | .infinite true => "-inf"
  | .infinite false => "inf"
  | .finite value => DecimalLayout.prose.renderFinite value

end Binary

end PromptTuning
