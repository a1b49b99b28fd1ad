import TypedRows.Text.Numeral

namespace TypedRows.Calendar

open Text

def isLeapYear (year : Int) : Bool :=
  (year % 4 == 0 && year % 100 != 0) || year % 400 == 0

def monthLength (year : Int) (month : Nat) : Nat :=
  if month = 2 then (if isLeapYear year then 29 else 28)
  else if [4, 6, 9, 11].contains month then 30
  else 31

-- Years that a date can have.
def isYear (year : Int) : Bool :=
  -262143 ≤ year && year ≤ 262142

def isDate (year : Int) (month day : Nat) : Bool :=
  isYear year && 1 ≤ month && month ≤ 12 && 1 ≤ day && day ≤ monthLength year month

structure Date where
  year : Int
  month : Nat
  day : Nat
  deriving DecidableEq, Repr

-- The date so many days after 1970-01-01. Years are counted from March, so that the leap day is the
-- last one of its year, in eras of 400 years.
def Date.ofDays (days : Int) : Date :=
  let z := days + 719468
  let era := z.fdiv 146097
  let dayOfEra := (z - era * 146097).toNat
  let yearOfEra := (dayOfEra - dayOfEra / 1460 + dayOfEra / 36524 - dayOfEra / 146096) / 365
  let dayOfYear := dayOfEra - (365 * yearOfEra + yearOfEra / 4 - yearOfEra / 100)
  let shifted := (5 * dayOfYear + 2) / 153
  let month := if shifted < 10 then shifted + 3 else shifted - 9
  let year := (yearOfEra : Int) + era * 400 + (if month ≤ 2 then 1 else 0)
  ⟨year, month, dayOfYear - (153 * shifted + 2) / 5 + 1⟩

-- Four digits; a year with more of them, or before year 0, has a sign.
def yearText (year : Int) : String :=
  if 0 ≤ year && year ≤ 9999 then padded 4 year.toNat
  else (if year < 0 then "-" else "+") ++ padded 4 year.natAbs

-- `20240131-235959` for a time in seconds since 1970.
def stampText (seconds : Int) : String :=
  let days := seconds.fdiv 86400
  let clock := (seconds - days * 86400).toNat
  let date := Date.ofDays days
  yearText date.year ++ padded 2 date.month ++ padded 2 date.day ++ "-" ++
    padded 2 (clock / 3600) ++ padded 2 (clock / 60 % 60) ++ padded 2 (clock % 60)

end TypedRows.Calendar
