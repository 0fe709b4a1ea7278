/-!
# Instants

An instant is a number of seconds since the start of 1970. `timestamp` writes it as a date and a
time of the proleptic Gregorian calendar, `age` writes how long ago it was.
-/

namespace ClusterBoard.Calendar

/-- A number with zeros in front, at least `width` digits. -/
def padded (width n : Nat) : String :=
  let digits := Nat.toDigits 10 n
  String.ofList (List.replicate (width - digits.length) '0' ++ digits)

/-- Year, month and day of a number of days since the start of 1970. Years are counted from March,
so that the leap day is the last of its year; `era` is a cycle of four hundred years. -/
def civil (days : Int) : Int × Nat × Nat :=
  let shifted := days + 719468
  let era := shifted / 146097
  let dayOfEra := (shifted % 146097).toNat
  let yearOfEra := (dayOfEra - dayOfEra / 1460 + dayOfEra / 36524 - dayOfEra / 146096) / 365
  let dayOfYear := dayOfEra - (365 * yearOfEra + yearOfEra / 4 - yearOfEra / 100)
  let monthFromMarch := (5 * dayOfYear + 2) / 153
  let day := dayOfYear - (153 * monthFromMarch + 2) / 5 + 1
  let month := if monthFromMarch < 10 then monthFromMarch + 3 else monthFromMarch - 9
  let year := (yearOfEra : Int) + era * 400 + (if month ≤ 2 then 1 else 0)
  (year, month, day)

/-- A year in four digits; one past 9999 has a plus sign, one before the year 0 a minus sign. -/
def yearText (year : Int) : String :=
  if year < 0 then "-" ++ padded 4 year.natAbs
  else if 9999 < year then "+" ++ padded 4 year.natAbs
  else padded 4 year.natAbs

/-- An instant as `2024-02-29 23:59:59`, in universal time. -/
def timestamp (seconds : Int) : String :=
  let (year, month, day) := civil (seconds / 86400)
  let ofDay := (seconds % 86400).toNat
  yearText year ++ "-" ++ padded 2 month ++ "-" ++ padded 2 day ++ " " ++
    padded 2 (ofDay / 3600) ++ ":" ++ padded 2 (ofDay / 60 % 60) ++ ":" ++ padded 2 (ofDay % 60)

/-- How long before `now` an instant was, in the largest of seconds, minutes and hours that is
whole; an instant to come is no seconds ago. -/
def age (instant now : Int) : String :=
  let seconds := (now - instant).toNat
  if seconds < 60 then s!"{seconds}s ago"
  else if seconds < 3600 then s!"{seconds / 60}m ago"
  else s!"{seconds / 3600}h ago"

end ClusterBoard.Calendar
