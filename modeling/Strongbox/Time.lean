/-!
# Times

A time is counted in seconds from the epoch, the start of the year 1970, and in nanoseconds behind
that second.  A time before the epoch has negative seconds; its nanoseconds still count forward.

* `Time.ofParts` carries whole seconds out of the nanoseconds.
* `Time.civil` is the calendar date and `Time.text` its printed form, in universal time.
-/

namespace Strongbox

/-- A point in time. -/
structure Time where
  seconds : Int
  nanos : Fin 1000000000
  deriving DecidableEq, Repr

namespace Time

/-- The start of the year 1970. -/
def epoch : Time := ⟨0, 0⟩

/-- The time a number of seconds and a number of nanoseconds after the epoch. -/
def ofParts (seconds : Int) (nanos : Nat) : Time :=
  ⟨seconds + (nanos / 1000000000 : Nat), Fin.ofNat 1000000000 nanos⟩

/-- Whether a time lies before the epoch. -/
def beforeEpoch (t : Time) : Bool :=
  t.seconds < 0

/-- A date of the Gregorian calendar, continued backwards, with a time of day. -/
structure Civil where
  year : Int
  month : Nat
  day : Nat
  hour : Nat
  minute : Nat
  second : Nat
  deriving DecidableEq, Repr

/-- The date of a day counted from the epoch.

Years are taken to start in March, so that the day a leap year adds is the last one of the year.
An era is the 146097 days of 400 such years, and 719468 days lie between March of the year zero and
the epoch. -/
def civilDay (day : Int) : Int × Nat × Nat :=
  let shifted := day + 719468
  let era := shifted.fdiv 146097
  let dayOfEra := (shifted.fmod 146097).toNat
  let yearOfEra :=
    (dayOfEra - dayOfEra / 1460 + dayOfEra / 36524 - dayOfEra / 146096) / 365
  let dayOfYear := dayOfEra - (365 * yearOfEra + yearOfEra / 4 - yearOfEra / 100)
  let marchMonth := (5 * dayOfYear + 2) / 153
  let day := dayOfYear - (153 * marchMonth + 2) / 5 + 1
  let month := if marchMonth < 10 then marchMonth + 3 else marchMonth - 9
  let year := era * 400 + yearOfEra + (if month ≤ 2 then 1 else 0)
  (year, month, day)

/-- The calendar date and time of day, in universal time. -/
def civil (t : Time) : Civil :=
  let (year, month, day) := civilDay (t.seconds.fdiv 86400)
  let second := (t.seconds.fmod 86400).toNat
  ⟨year, month, day, second / 3600, second / 60 % 60, second % 60⟩

/-- A number with zeros before it up to a width. -/
def padded (width n : Nat) : String :=
  let digits := toString n
  String.ofList (List.replicate (width - digits.length) '0') ++ digits

/-- A year has four digits or more, and a sign where it lies outside 0 to 9999. -/
def yearText (year : Int) : String :=
  if year < 0 then "-" ++ padded 4 year.natAbs
  else if year ≤ 9999 then padded 4 year.natAbs
  else "+" ++ padded 4 year.natAbs

/-- The date and the time of day to the second, such as `2000-02-29 00:00:00`. -/
def text (t : Time) : String :=
  let c := t.civil
  yearText c.year ++ "-" ++ padded 2 c.month ++ "-" ++ padded 2 c.day ++ " "
    ++ padded 2 c.hour ++ ":" ++ padded 2 c.minute ++ ":" ++ padded 2 c.second

end Time

end Strongbox
