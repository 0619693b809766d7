/-!
# The calendar

Days and times of day in UTC, and their printed form.  The year of the calendar
is taken to begin in March, so that the day that is left out of most years is
the last one; four hundred such years always have the same number of days.
-/

namespace Redelivery

/-- A second of the calendar. -/
structure CalendarTime where
  year : Nat
  /-- From 1 to 12. -/
  month : Nat
  /-- From 1 on. -/
  day : Nat
  hour : Nat
  minute : Nat
  second : Nat
deriving DecidableEq

namespace CalendarTime

/-- The days from the first of March of year 0 to the first of January of year
1970. -/
def daysBefore1970 : Nat := 719468

/-- The days of four hundred years. -/
def daysOfEra : Nat := 146097

/-- Year, month and day of a day after the first of January of year 1970. -/
def dateOfDay (day : Nat) : Nat × Nat × Nat :=
  let shifted := day + daysBefore1970
  let era := shifted / daysOfEra
  let dayOfEra := shifted % daysOfEra
  let yearOfEra :=
    (dayOfEra - dayOfEra / 1460 + dayOfEra / 36524 - dayOfEra / 146096) / 365
  let dayOfYear :=
    dayOfEra - (365 * yearOfEra + yearOfEra / 4 - yearOfEra / 100)
  let monthFromMarch := (5 * dayOfYear + 2) / 153
  let dayOfMonth := dayOfYear - (153 * monthFromMarch + 2) / 5 + 1
  let month :=
    if monthFromMarch < 10 then monthFromMarch + 3 else monthFromMarch - 9
  let year := 400 * era + yearOfEra
  (if month ≤ 2 then year + 1 else year, month, dayOfMonth)

def ofSeconds (seconds : Nat) : CalendarTime :=
  let (year, month, day) := dateOfDay (seconds / 86400)
  let rest := seconds % 86400
  ⟨year, month, day, rest / 3600, rest % 3600 / 60, rest % 60⟩

def digits (width n : Nat) : String :=
  let text := toString n
  String.ofList (List.replicate (width - text.length) '0') ++ text

def yearText (year : Nat) : String :=
  if year < 10000 then digits 4 year else "+" ++ toString year

def text (t : CalendarTime) : String :=
  yearText t.year ++ "-" ++ digits 2 t.month ++ "-" ++ digits 2 t.day ++ " " ++
    digits 2 t.hour ++ ":" ++ digits 2 t.minute ++ ":" ++
      digits 2 t.second ++ " UTC"

/-- The last year that is printed. -/
def lastYear : Nat := 262142

end CalendarTime

/-- The printed form of a time in milliseconds.  Times that take more than 63
bits are printed as the beginning of the calendar, and times after its last year
not at all. -/
def timestampText (millis : UInt64) : String :=
  let seconds :=
    if millis.toNat < UInt64.size / 2 then millis.toNat / 1000 else 0
  let time := CalendarTime.ofSeconds seconds
  if time.year ≤ CalendarTime.lastYear then time.text else "unknown"

/-- The printed form of a span of seconds, in the greatest unit that it
fills. -/
def spanText (seconds : Nat) : String :=
  if seconds < 60 then toString seconds ++ "s"
  else if seconds < 3600 then toString (seconds / 60) ++ "m"
  else if seconds < 86400 then toString (seconds / 3600) ++ "h"
  else toString (seconds / 86400) ++ "d"

def ageText (now millis : UInt64) : String :=
  spanText ((now.toNat - millis.toNat) / 1000)

def remainingText (now millis : UInt64) : String :=
  if millis ≤ now then "expired"
  else spanText ((millis.toNat - now.toNat) / 1000)

end Redelivery
