import PromptTuning.Json.Basic

/-!
# JSON numerals

The grammar of a JSON number and the number it denotes. A numeral without a
fraction and an exponent that fits a 64-bit integer is that integer. Any other
is a double, found in two roundings: the leading digits that fit an unsigned
64-bit word are rounded to a double, which is then multiplied or divided by a
power of ten. A numeral past the largest double denotes nothing.
-/

namespace PromptTuning

/-- The parts of a JSON number as written. -/
structure Numeral where
  /-- Whether it starts with a minus. -/
  negative : Bool
  /-- The digits before the point. -/
  whole : List Nat
  /-- The digits after the point. -/
  fraction : List Nat
  /-- Whether the exponent is negative, and its digits. -/
  exponent : Option (Bool × List Nat)

namespace Numeral

/-- The leading digits of a text, and what follows them. -/
def splitDigits (text : List Char) : List Nat × List Char :=
  ((text.takeWhile Char.isDigit).map fun digit => digit.toNat - '0'.toNat,
    text.dropWhile Char.isDigit)

/-- The exponent that a text consists of; an empty text is none. -/
def readExponent? : List Char -> Option (Option (Bool × List Nat))
  | [] => some none
  | mark :: rest =>
      if mark = 'e' ∨ mark = 'E' then
        let (negative, rest) :=
          match rest with
          | '-' :: rest => (true, rest)
          | '+' :: rest => (false, rest)
          | rest => (false, rest)
        match splitDigits rest with
        | (digit :: digits, []) => some (some (negative, digit :: digits))
        | _ => none
      else none

/-- The numeral that a text consists of. -/
def ofText? (text : List Char) : Option Numeral :=
  let (negative, rest) :=
    match text with
    | '-' :: rest => (true, rest)
    | rest => (false, rest)
  match splitDigits rest with
  | ([], _) => none
  | (0 :: _ :: _, _) => none
  | (whole, '.' :: rest) =>
      match splitDigits rest with
      | ([], _) => none
      | (fraction, rest) =>
          (readExponent? rest).map fun exponent =>
            ⟨negative, whole, fraction, exponent⟩
  | (whole, rest) =>
      (readExponent? rest).map fun exponent => ⟨negative, whole, [], exponent⟩

/-- Append digits to a coefficient while it fits a 64-bit word; the digits left
over follow. -/
def absorb (coefficient : Nat) : List Nat -> Nat × List Nat
  | [] => (coefficient, [])
  | digit :: rest =>
      if coefficient * 10 + digit < UInt64.size then
        absorb (coefficient * 10 + digit) rest
      else (coefficient, digit :: rest)

/-- The largest power of ten that is a finite double. -/
def largestPower : Nat := 308

/-- A double divided by a power of ten. -/
def divideByPower (value : FiniteDouble) (power : Nat) : Double :=
  match (Binary.ofDecimal false 1 power : Double) with
  | .finite divisor => value.div divisor
  | other => other

/-- Divide by a power of ten, in two steps if one is not enough; what two cannot
reach is zero. -/
def scaleDown (value : FiniteDouble) (places : Nat) : Double :=
  if places ≤ largestPower then divideByPower value places
  else if places ≤ 2 * largestPower then
    match divideByPower value largestPower with
    | .finite quotient => divideByPower quotient (places - largestPower)
    | other => other
  else .zero .double

/-- The double of a coefficient times a power of ten, if it is not too large. -/
def scale? (coefficient : Nat) (exponent : Int) : Option FiniteDouble :=
  match (Binary.ofInt coefficient : Double) with
  | .finite value =>
      match exponent with
      | .ofNat places =>
          if value.rank = 0 then some value
          else if places ≤ largestPower then
            match (Binary.ofDecimal false 1 places : Double) with
            | .finite power => (value.mul power).finite?
            | _ => none
          else none
      | .negSucc places => (scaleDown value (places + 1)).finite?
  | _ => none

/-- The number of a list of digits. -/
def digitsToNat (digits : List Nat) : Nat :=
  digits.foldl (fun value digit => value * 10 + digit) 0

/-- The magnitude of a numeral taken as a double, if it is not too large. -/
def magnitude? (numeral : Numeral) : Option FiniteDouble :=
  let (leading, dropped) := absorb 0 numeral.whole
  let (coefficient, ignored) := absorb leading numeral.fraction
  let start : Int :=
    dropped.length - (numeral.fraction.length - ignored.length : Nat)
  match numeral.exponent with
  | none => scale? coefficient start
  | some (negative, digits) =>
      let exponent := digitsToNat digits
      if exponent < Nat.pow 2 31 then
        scale? coefficient
          (if negative then start - exponent else start + exponent)
      else if coefficient ≠ 0 ∧ negative = false then none
      else some (.zero .double)

/-- Whether a numeral is written with neither a fraction nor an exponent. -/
def isWhole (numeral : Numeral) : Bool :=
  numeral.fraction.isEmpty && numeral.exponent.isNone

/-- The number a numeral denotes, if it is not too large. -/
def toNumber? (numeral : Numeral) : Option Number :=
  let asDouble := numeral.magnitude?.map fun magnitude =>
    Number.double (if numeral.negative then magnitude.neg else magnitude)
  if numeral.isWhole then
    let value : Int := digitsToNat numeral.whole
    let signed := if numeral.negative then -value else value
    if numeral.negative && value == 0 then asDouble
    else (Number.ofInt? signed).orElse fun _ => asDouble
  else asDouble

end Numeral

end PromptTuning
