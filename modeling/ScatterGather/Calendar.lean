import ScatterGather.Text.Numeral
import ScatterGather.Text.Split

/-!
# Calendar — days and instants without a zone

A `Date` counts days and a `Moment` nanoseconds from the start of 1970, so their order is that of
integers.  `civil` and `Date.ofCivil` convert between days and the proleptic Gregorian calendar by
counting eras of 400 years that start on a first of March.
-/

namespace ScatterGather

/-- A day, counted from 1970-01-01. -/
structure Date where
  days : Int
  deriving DecidableEq

/-- An instant, counted in nanoseconds from 1970-01-01 00:00:00. -/
structure Moment where
  nanos : Int
  deriving DecidableEq

namespace Date

/-- The day of a year, month and day of the Gregorian calendar. -/
def ofCivil (year : Int) (month day : Nat) : Date :=
  let year := if month ≤ 2 then year - 1 else year
  let era := year / 400
  let yearOfEra := (year % 400).toNat
  let dayOfYear := (153 * (if 2 < month then month - 3 else month + 9) + 2) / 5 + day - 1
  let dayOfEra := yearOfEra * 365 + yearOfEra / 4 - yearOfEra / 100 + dayOfYear
  ⟨era * 146097 + dayOfEra - 719468⟩

/-- Year, month and day of a day. -/
def civil (d : Date) : Int × Nat × Nat :=
  let shifted := d.days + 719468
  let era := shifted / 146097
  let dayOfEra := (shifted % 146097).toNat
  let yearOfEra := (dayOfEra - dayOfEra / 1460 + dayOfEra / 36524 - dayOfEra / 146096) / 365
  let dayOfYear := dayOfEra - (365 * yearOfEra + yearOfEra / 4 - yearOfEra / 100)
  let shiftedMonth := (5 * dayOfYear + 2) / 153
  let day := dayOfYear - (153 * shiftedMonth + 2) / 5 + 1
  let month := if shiftedMonth < 10 then shiftedMonth + 3 else shiftedMonth - 9
  let year := (yearOfEra : Int) + era * 400
  (if month ≤ 2 then year + 1 else year, month, day)

/-- Four digits of the year at least; a sign before years that need more, and before the common
era. -/
def yearText (year : Int) : String :=
  if 0 ≤ year ∧ year ≤ 9999 then Text.padded 4 year.toNat
  else (if year < 0 then "-" else "+") ++ Text.padded 4 year.natAbs

/-- Year, month and day, joined by hyphens. -/
def render (d : Date) : String :=
  let (year, month, day) := d.civil
  yearText year ++ "-" ++ Text.padded 2 month ++ "-" ++ Text.padded 2 day

/-- The days before the first instant of a day. -/
def midnight (d : Date) : Moment := ⟨d.days * 86400000000000⟩

/-- The numbers between separators, each a text of digits. -/
def fields? (sep : Char) (cs : List Char) : Option (List Nat) :=
  (Text.splitAll sep cs).mapM Text.natural?

/-- The day written as year, month and day, if the calendar has it. -/
def parse? (cs : List Char) : Option Date :=
  match fields? '-' cs with
  | some [year, month, day] =>
    let date := ofCivil year month day
    if date.civil = ((year : Int), month, day) then some date else none
  | _ => none

end Date

namespace Moment

/-- The instant `millis` milliseconds after the start of 1970. -/
def ofMillis (millis : Int) : Moment := ⟨millis * 1000000⟩

/-! A number where an instant is asked for counts milliseconds. -/

instance : Coe Int Moment := ⟨ofMillis⟩

instance (n : Nat) : OfNat Moment n := ⟨ofMillis n⟩

/-- The whole milliseconds since the start of 1970. -/
def millis (m : Moment) : Int := m.nanos / 1000000

/-- The day of an instant. -/
def date (m : Moment) : Date := ⟨m.nanos / 86400000000000⟩

/-- The nanoseconds since midnight. -/
def nanosOfDay (m : Moment) : Nat := (m.nanos % 86400000000000).toNat

/-- Hours, minutes and seconds, joined by colons. -/
def clockText (m : Moment) : String :=
  let seconds := m.nanosOfDay / 1000000000
  Text.padded 2 (seconds / 3600) ++ ":" ++ Text.padded 2 (seconds / 60 % 60) ++ ":" ++
    Text.padded 2 (seconds % 60)

/-- The fraction of a second: none, or a point and three, six or nine digits. -/
def fractionText (m : Moment) : String :=
  let n := m.nanosOfDay % 1000000000
  if n = 0 then ""
  else if n % 1000000 = 0 then "." ++ Text.padded 3 (n / 1000000)
  else if n % 1000 = 0 then "." ++ Text.padded 6 (n / 1000)
  else "." ++ Text.padded 9 n

/-- Date and time of day to the second. -/
def render (m : Moment) : String := m.date.render ++ " " ++ m.clockText

/-- Date and time of day with the fraction, `sep` between them. -/
def renderExact (sep : String) (m : Moment) : String :=
  m.date.render ++ sep ++ m.clockText ++ m.fractionText

/-- The nanoseconds of up to nine digits after the point. -/
def fraction? (cs : List Char) : Option Nat :=
  if cs.length ≤ 9 then Text.natural? (cs ++ List.replicate (9 - cs.length) '0') else none

/-- The time of day in nanoseconds. -/
def clock? (cs : List Char) : Option Nat :=
  match Date.fields? ':' (cs.takeWhile (· ≠ '.')), cs.dropWhile (· ≠ '.') with
  | some [hour, minute, second], rest =>
    if hour < 24 ∧ minute < 60 ∧ second < 60 then
      let whole := ((hour * 60 + minute) * 60 + second) * 1000000000
      match rest with
      | [] => some whole
      | _ :: digits => (fraction? digits).map (whole + ·)
    else none
  | _, _ => none

/-- The instant written as date and time of day with `sep` between them. -/
def parse? (sep : Char) (cs : List Char) : Option Moment :=
  (Date.parse? (cs.takeWhile (· ≠ sep))).bind fun date =>
    (clock? ((cs.dropWhile (· ≠ sep)).drop 1)).map fun n => ⟨date.midnight.nanos + n⟩

end Moment

end ScatterGather
