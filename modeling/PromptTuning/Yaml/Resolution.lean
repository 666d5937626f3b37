import PromptTuning.Json.Numeral
import PromptTuning.Yaml.Node

/-!
# What scalars stand for

A plain scalar stands for null, a truth value or a number if it is written like
one, and for its text otherwise. Whole numbers may be hexadecimal, octal or
binary and may have a plus; zeros before other digits make a text. A tag says
for certain what a scalar stands for.
-/

namespace PromptTuning
namespace Yaml
namespace Resolution

/-- The tag of a kind of value that every source can use. -/
def coreTag (kind : String) : String :=
  "tag:yaml.org,2002:" ++ kind

/-- The ways to write null. -/
def isNull (text : String) : Bool :=
  ["null", "Null", "NULL", "~"].contains text

/-- The truth value that a text is, if it is one. -/
def truth? (text : String) : Option Bool :=
  if ["true", "True", "TRUE"].contains text then some true
  else if ["false", "False", "FALSE"].contains text then some false
  else none

/-- A text without its sign. -/
def withoutSign : List Char -> List Char
  | '+' :: rest | '-' :: rest => rest
  | text => text

/-- Whether a text is digits after a zero, and so not a number. -/
def isPaddedZero (text : List Char) : Bool :=
  match withoutSign text with
  | '0' :: digit :: rest => (digit :: rest).all Char.isDigit
  | _ => false

/-- The value of a digit in a base. -/
def digit? (base : Nat) (character : Char) : Option Nat :=
  (Token.hexDigit? character).filter (· < base)

/-- The number that a text of digits is in a base. -/
def digits? (base : Nat) (text : List Char) : Option Nat :=
  if text.isEmpty then none
  else (text.mapM (digit? base)).map
    (·.foldl (fun value digit => base * value + digit) 0)

/-- The magnitude that digits with the mark of their base are; decimal
ones have none. -/
def magnitude? (text : List Char) : Option Nat :=
  match text with
  | '0' :: 'x' :: rest => digits? 16 rest
  | '0' :: 'o' :: rest => digits? 8 rest
  | '0' :: 'b' :: rest => digits? 2 rest
  | _ => if isPaddedZero text then none else digits? 10 text

/-- The whole number that a text is, if it is one. -/
def integer? (text : String) : Option Int :=
  match text.toList with
  | '+' :: rest => (magnitude? rest).map Int.ofNat
  | '-' :: rest => (magnitude? rest).map fun magnitude => -(magnitude : Int)
  | rest => (magnitude? rest).map Int.ofNat

/-- The exponent that follows the digits of a real number, if it is
well written. -/
def exponent? (text : List Char) : Option Int :=
  (Numeral.readExponent? text).map fun exponent =>
    match exponent with
    | none => 0
    | some (negative, digits) =>
        let value : Int := Numeral.digitsToNat digits
        if negative then -value else value

/--
The double nearest to digits that stand before and after a point, times a power
of ten, if there are digits. Powers far out of range are not computed.
-/
def nearest? (negative : Bool) (whole fraction : List Nat) (exponent : Int) :
    Option Double :=
  let digits := whole ++ fraction
  let coefficient := Numeral.digitsToNat digits
  let scale := exponent - fraction.length
  let order := scale + (digits.dropWhile (· == 0)).length
  if digits.isEmpty then none
  else if coefficient == 0 then
      some (.finite { Finite.zero .double with negative := negative })
  else if 400 < order then some (.infinite negative)
  else if order < -400 then
    some (.finite { Finite.zero .double with negative := negative })
  else some (.ofDecimal negative coefficient scale)

/-- The finite double that a text of digits is, if it is one. -/
def decimal? (text : List Char) : Option Double := do
  let (whole, rest) := Numeral.splitDigits (withoutSign text)
  let (fraction, rest) :=
    match rest with
    | '.' :: rest => Numeral.splitDigits rest
    | rest => ([], rest)
  let value ←
    nearest? (text.head? == some '-') whole fraction (← exponent? rest)
  if value.isFinite then return value else none

/-- The double that a text is, if it is one. -/
def real? (text : String) : Option Double :=
  let unsigned := String.ofList (withoutSign text.toList)
  if [".inf", ".Inf", ".INF"].contains unsigned then
    some (.infinite (text.front == '-'))
  else if [".nan", ".NaN", ".NAN"].contains text then some .nan
  else decimal? text.toList

/-- A double as a JSON value; only finite ones are numbers. -/
def ofReal (value : Double) : Json :=
  match value with
  | .finite value => .number (.double value)
  | _ => .null

/--
A whole number as a JSON value. Those that 64 bits cannot hold but 128 bits can
are refused; larger ones are taken as doubles, if they can be.
-/
def ofInteger? (value : Int) (text : String) : Option Json :=
  match Number.ofInt? value with
  | some number => some (.number number)
  | none =>
      if -Int.pow 2 127 ≤ value ∧ value < Int.pow 2 128 then none
      else some ((real? text).elim (.string text) ofReal)

/-- The JSON value that a plain scalar without a tag stands for. -/
def ofPlain? (text : String) : Option Json :=
  if text.isEmpty || isNull text then some .null
  else
    match truth? text, integer? text with
    | some value, _ => some (.boolean value)
    | none, some value => ofInteger? value text
    | none, none =>
        if isPaddedZero text.toList then some (.string text)
        else some ((real? text).elim (.string text) ofReal)

/-- Whether a tag is one of the source's own: a mark before text. -/
def isOwnTag (tag : String) : Bool :=
  match tag.toList with
  | '!' :: name =>
      (String.fromUTF8?
        ⟨(name.map fun byte => byte.toNat.toUInt8).toArray⟩).isSome
  | _ => false

/-- The JSON value that a scalar without a tag stands for. -/
def ofUntagged? (style : ScalarStyle) (text : String) : Option Json :=
  if style == .plain then ofPlain? text else some (.string text)

/--
The JSON value that a scalar stands for; a tag of the source's own stands for
none, and one that would be but is not text says nothing.
-/
def ofScalar? (tag : Option String) (style : ScalarStyle) (text : String) :
    Option Json :=
  match tag with
  | none => ofUntagged? style text
  | some tag =>
      if tag == coreTag "bool" then (truth? text).map .boolean
      else if tag == coreTag "int" then (integer? text).bind fun value =>
        (Number.ofInt? value).map .number
      else if tag == coreTag "float" then (real? text).map ofReal
      else if tag == coreTag "null" then
          if isNull text then some .null else none
      else if isOwnTag tag then none
      else if tag.startsWith "!" then ofUntagged? style text
      else some (.string text)

end Resolution
end Yaml
end PromptTuning
