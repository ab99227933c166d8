import ChannelKeeper.Decimal.Layout
import ChannelKeeper.Text.Chars

/-!
# Calendar text of a moment

Seconds since 1970 are shown as the date and the time of day that the clocks of
a time zone show. Zero stands for "never" and is shown as nothing; a moment
outside the years -262143 to 262142 is shown as its number.
-/

namespace ChannelKeeper

/-- How many seconds the clocks of a zone are ahead of universal time at a moment.
Where they are set forward they skip texts, and where they are set back they show
some twice. -/
structure Zone where
  offset : Int → Int

namespace Zone

def universal : Zone := ⟨fun _ => 0⟩

/-- The seconds from the start of 1970 to what the clocks of the zone show. -/
def wallTime (zone : Zone) (seconds : Int) : Int := seconds + zone.offset seconds

end Zone

namespace Calendar

/-- Days before the first of March of a year of the calendar, counted from the
first of March of the year 0, for the years of one era of 400. -/
def daysBeforeYear (year : Nat) : Nat := 365 * year + year / 4 - year / 100

/-- Year, month and day of a number of days since 1970-01-01. -/
def dateOfDays (days : Int) : Int × Nat × Nat :=
  let shifted := days + 719468
  let era := shifted.fdiv 146097
  let dayOfEra := (shifted.fmod 146097).toNat
  let yearOfEra := (dayOfEra - dayOfEra / 1460 + dayOfEra / 36524 - dayOfEra / 146096) / 365
  let dayOfYear := dayOfEra - daysBeforeYear yearOfEra
  let marchMonth := (5 * dayOfYear + 2) / 153
  let day := dayOfYear - (153 * marchMonth + 2) / 5 + 1
  let month := if marchMonth < 10 then marchMonth + 3 else marchMonth - 9
  let year := era * 400 + yearOfEra + (if month ≤ 2 then 1 else 0)
  (year, month, day)

/-- Four digits; a sign where four digits are not enough or the year is negative. -/
def yearText (year : Int) : String :=
  let digits := Decimal.padded 4 year.natAbs
  if year < 0 then "-" ++ digits else if 9999 < year then "+" ++ digits else digits

/-- The two digits of hour, minute and second. -/
def timeDigits (seconds : Int) : List String :=
  let second := (seconds.fmod 86400).toNat
  [second / 3600, second / 60 % 60, second % 60].map (Decimal.padded 2)

/-- Year, month and day, each with all its digits. -/
def dateDigits (seconds : Int) : List String :=
  let (year, month, day) := dateOfDays (seconds.fdiv 86400)
  [yearText year, Decimal.padded 2 month, Decimal.padded 2 day]

def dateTimeText (seconds : Int) : String :=
  Text.join "-" (dateDigits seconds) ++ " " ++ Text.join ":" (timeDigits seconds)

def stampText (seconds : Int) : String :=
  String.join (dateDigits seconds) ++ "_" ++ String.join (timeDigits seconds)

def earliest : Int := -8334601228800

def latest : Int := 8210266876799

def momentText (seconds : Int) (zone : Zone := .universal) : String :=
  if seconds = 0 then ""
  else if earliest ≤ seconds ∧ seconds ≤ latest then dateTimeText (zone.wallTime seconds)
  else toString seconds

/-- Hours and minutes of a distance from universal time, to the nearest minute. -/
def offsetText (seconds : Int) : String :=
  let minutes := (seconds.natAbs + 30) / 60
  (if seconds < 0 then "-" else "+") ++ Decimal.padded 2 (minutes / 60) ++ ":" ++
    Decimal.padded 2 (minutes % 60)

/-- Date and time of a moment with the distance from universal time. -/
def momentWithOffset (seconds : Int) (zone : Zone := .universal) : String :=
  Text.replace ' ' "T" (dateTimeText (zone.wallTime seconds)) ++ offsetText (zone.offset seconds)

end Calendar

end ChannelKeeper
