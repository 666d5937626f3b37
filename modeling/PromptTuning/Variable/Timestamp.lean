import PromptTuning.Text.Blank

/-!
# Timestamps

A timestamp counts days from 1970-01-01, seconds of the day and nanoseconds, in
universal time. A leap second is the last second of its minute with a thousand
million nanoseconds more. Text follows RFC 3339; reading also takes a blank
between date and time, blanks around the separators and a zone offset without
its colon.
-/

namespace PromptTuning

/-- A point in universal time. -/
structure Timestamp where
  /-- Days since 1970-01-01. -/
  day : Int
  /-- Seconds since midnight. -/
  second : Nat
  /-- Nanoseconds of the second; a leap second has a thousand million more. -/
  nanosecond : Nat
  deriving DecidableEq, Inhabited

namespace Timestamp

/-- Days from 1970-01-01 to a date of the proleptic Gregorian calendar. -/
def daysOfDate (year : Int) (month day : Nat) : Int :=
  let shifted := if month ≤ 2 then year - 1 else year
  let era := Int.fdiv shifted 400
  let yearOfEra := shifted - era * 400
  let monthFromMarch : Int := if month > 2 then month - 3 else month + 9
  let dayOfYear := (153 * monthFromMarch + 2) / 5 + day - 1
  let dayOfEra := yearOfEra * 365 + yearOfEra / 4 - yearOfEra / 100 + dayOfYear
  era * 146097 + dayOfEra - 719468

/-- The date a number of days from 1970-01-01: year, month and day. -/
def dateOfDays (days : Int) : Int × Nat × Nat :=
  let shifted := days + 719468
  let era := Int.fdiv shifted 146097
  let dayOfEra := shifted - era * 146097
  let yearOfEra :=
    (dayOfEra - dayOfEra / 1460 + dayOfEra / 36524 - dayOfEra / 146096) / 365
  let dayOfYear :=
    dayOfEra - (365 * yearOfEra + yearOfEra / 4 - yearOfEra / 100)
  let monthFromMarch := (5 * dayOfYear + 2) / 153
  let day := dayOfYear - (153 * monthFromMarch + 2) / 5 + 1
  let month :=
    if monthFromMarch < 10 then monthFromMarch + 3 else monthFromMarch - 9
  let year := yearOfEra + era * 400 + if month ≤ 2 then 1 else 0
  (year, month.toNat, day.toNat)

/-- Whether a year has a twenty-ninth of February. -/
def isLeapYear (year : Int) : Bool :=
  year % 4 == 0 && (year % 100 != 0 || year % 400 == 0)

/-- The number of days of a month. -/
def daysInMonth (year : Int) (month : Nat) : Nat :=
  match month with
  | 2 => if isLeapYear year then 29 else 28
  | 4 | 6 | 9 | 11 => 30
  | _ => 31

/-- Whether one timestamp is at or after another. -/
def notBefore (later earlier : Timestamp) : Bool :=
  earlier.day < later.day ||
    (earlier.day == later.day &&
      (earlier.second < later.second ||
        (earlier.second == later.second &&
          earlier.nanosecond ≤ later.nanosecond)))

/-- A number with zeros in front up to a width. -/
def padded (width value : Nat) : String :=
  let digits := toString value
  String.ofList (List.replicate (width - digits.length) '0') ++ digits

/-- The text of a year: four digits, or a sign and at least four digits outside
their range. -/
def renderYear (year : Int) : String :=
  if 0 ≤ year ∧ year ≤ 9999 then padded 4 year.toNat
  else (if year < 0 then "-" else "+") ++ padded 4 year.natAbs

/-- The text of a fraction of a second, in groups of three digits. -/
def renderFraction (nanosecond : Nat) : String :=
  if nanosecond = 0 then ""
  else if nanosecond % 1000000 = 0 then "." ++ padded 3 (nanosecond / 1000000)
  else if nanosecond % 1000 = 0 then "." ++ padded 6 (nanosecond / 1000)
  else "." ++ padded 9 nanosecond

/-- The text of a timestamp. -/
def render (time : Timestamp) : String :=
  let (year, month, day) := dateOfDays time.day
  let leap := 1000000000 ≤ time.nanosecond
  renderYear year ++ "-" ++ padded 2 month ++ "-" ++ padded 2 day ++ "T" ++
    padded 2 (time.second / 3600) ++ ":" ++
    padded 2 (time.second / 60 % 60) ++ ":" ++
    padded 2 (time.second % 60 + if leap then 1 else 0) ++
    renderFraction
      (if leap then time.nanosecond - 1000000000 else time.nanosecond) ++ "Z"

/-- At most a number of digits at the start of a text, and what follows; there
must be one. -/
def readDigits (most : Nat) (text : List Char) :
    Option (Nat × Nat × List Char) :=
  let digits := (text.take most).takeWhile Char.isDigit
  if digits.isEmpty then none
  else
    some (digits.foldl
      (fun value digit => value * 10 + (digit.toNat - '0'.toNat)) 0,
      digits.length, text.drop digits.length)

/-- A number of at most so many digits after optional blanks. -/
def readNumber (most : Nat) (text : List Char) : Option (Nat × List Char) :=
  (readDigits most (Text.trimStart text)).map fun (value, _, rest) =>
    (value, rest)

/-- A year: four digits at most, or any number of digits after a sign. -/
def readYear (text : List Char) : Option (Int × List Char) :=
  match Text.trimStart text with
  | '-' :: rest =>
      (readDigits rest.length rest).map fun (value, _, rest) =>
        (-(value : Int), rest)
  | '+' :: rest =>
      (readDigits rest.length rest).map fun (value, _, rest) =>
        ((value : Int), rest)
  | rest =>
      (readDigits 4 rest).map fun (value, _, rest) => ((value : Int), rest)

/-- A separator after optional blanks. -/
def readSeparator (separator : Char) (text : List Char) : Option (List Char) :=
  match Text.trimStart text with
  | character :: rest => if character = separator then some rest else none
  | [] => none

/-- The nanoseconds of an optional fraction; digits past the ninth
are skipped. -/
def readFraction (text : List Char) : Option (Nat × List Char) :=
  match text with
  | '.' :: rest =>
      (readDigits 9 rest).map fun (value, count, rest) =>
        (value * Nat.pow 10 (9 - count), rest.dropWhile Char.isDigit)
  | _ => some (0, text)

/-- The offset of a zone in seconds. -/
def readZone (text : List Char) : Option (Int × List Char) :=
  match text with
  | 'Z' :: rest | 'z' :: rest => some (0, rest)
  | sign :: first :: second :: rest =>
      if [sign, first, second].map Char.toUpper = ['U', 'T', 'C'] then
        some (0, rest)
      else do
        let negative ← if sign = '+' then some false
          else if sign = '-' ∨ sign = '−' then some true else none
        if !(first.isDigit && second.isDigit) then none
        let hours := (first.toNat - '0'.toNat) * 10 + (second.toNat - '0'.toNat)
        match rest.dropWhile fun character =>
          character == ':' || Text.isBlank character with
        | tens :: ones :: rest =>
            if !(tens.isDigit && ones.isDigit) || tens.toNat > '5'.toNat then
              none
            let minutes :=
              (tens.toNat - '0'.toNat) * 10 + (ones.toNat - '0'.toNat)
            let seconds : Int := hours * 3600 + minutes * 60
            if seconds < 86400 then
              some (if negative then -seconds else seconds, rest)
            else none
        | _ => none
  | _ => none

/-- The first year of a date. -/
def firstYear : Int := -262143

/-- The last year of a date. -/
def lastYear : Int := 262142

/-- The first day of the first year. -/
def firstDay : Int := daysOfDate firstYear 1 1

/-- The last day of the last year. -/
def lastDay : Int := daysOfDate lastYear 12 31

/-- The timestamp of a local date and time at an offset; both dates have to
be in range. -/
def ofLocal
    (year : Int)
    (month day hour minute second nanosecond : Nat)
    (offset : Int) :
    Option Timestamp :=
  if 1 ≤ month ∧ month ≤ 12 ∧ 1 ≤ day ∧ day ≤ daysInMonth year month ∧
      hour < 24 ∧ minute < 60 ∧ second ≤ 60 ∧ firstYear ≤ year ∧
      year ≤ lastYear then
    let leap := second = 60
    let seconds : Int :=
      daysOfDate year month day * 86400 + hour * 3600 + minute * 60 +
        (if leap then 59 else second) - offset
    let universalDay := Int.fdiv seconds 86400
    if firstDay ≤ universalDay ∧ universalDay ≤ lastDay then
      some
        { day := universalDay
          second := (Int.fmod seconds 86400).toNat
          nanosecond := nanosecond + if leap then 1000000000 else 0 }
    else none
  else none

/-- The timestamp a text denotes. -/
def ofText? (text : String) : Option Timestamp := do
  let (year, rest) ← readYear text.toList
  let rest ← readSeparator '-' rest
  let (month, rest) ← readNumber 2 rest
  let rest ← readSeparator '-' rest
  let (day, rest) ← readNumber 2 rest
  let rest ← match rest with
    | 'T' :: rest | 't' :: rest | ' ' :: rest => some rest
    | _ => none
  let (hour, rest) ← readNumber 2 rest
  let rest ← readSeparator ':' rest
  let (minute, rest) ← readNumber 2 rest
  let rest ← readSeparator ':' rest
  let (second, rest) ← readNumber 2 rest
  let (nanosecond, rest) ← readFraction rest
  let (offset, rest) ← readZone (Text.trimStart rest)
  if (Text.trimStart rest).isEmpty then
    ofLocal year month day hour minute second nanosecond offset
  else none

end Timestamp

end PromptTuning
