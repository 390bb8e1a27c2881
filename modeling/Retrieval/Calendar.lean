/-
  Retrieval/Calendar.lean
  =======================
  **Dates and moments in the proleptic Gregorian calendar.**

  Days are counted from 1 January 1970, moments in seconds from its beginning.  The
  calendar repeats every 400 years, which are 146097 days.  Inside such an era the
  computation uses years that begin on 1 March, so that a leap day comes last.
-/
import Retrieval.Decimal.Style

namespace Retrieval

open Decimal

/-- A day of the calendar. -/
structure Date where
  year : Int
  /-- One to twelve. -/
  month : Nat
  /-- One to thirty-one. -/
  day : Nat
deriving DecidableEq, Repr

/-- A moment in universal time. -/
structure Moment where
  /-- Seconds since the beginning of 1970. -/
  seconds : Int
  /-- Nanoseconds after that.  A billion or more of them lie in a leap second. -/
  nanoseconds : Nat
deriving DecidableEq, Repr

/-- A number with at least the given count of digits. -/
def paddedDigits (width n : Nat) : List Char :=
  let digits := digitChars n
  List.replicate (width - digits.length) '0' ++ digits

namespace Date

def daysInEra : Nat := 146097

/-- The day that lies so many days after 1 January 1970. -/
def ofDays (days : Int) : Date :=
  let shifted := days + 719468
  let era := shifted / daysInEra
  let dayOfEra := (shifted % daysInEra).toNat
  let yearOfEra := (dayOfEra - dayOfEra / 1460 + dayOfEra / 36524 - dayOfEra / 146096) / 365
  let dayOfYear := dayOfEra - (365 * yearOfEra + yearOfEra / 4 - yearOfEra / 100)
  let monthFromMarch := (5 * dayOfYear + 2) / 153
  let day := dayOfYear - (153 * monthFromMarch + 2) / 5 + 1
  let month := if monthFromMarch < 10 then monthFromMarch + 3 else monthFromMarch - 9
  let year := era * 400 + yearOfEra + (if month ≤ 2 then 1 else 0)
  ⟨year, month, day⟩

/-- A year: four digits, and a sign where four digits do not hold it. -/
def yearChars (year : Int) : List Char :=
  if year < 0 then '-' :: paddedDigits 4 year.natAbs
  else if year > 9999 then '+' :: paddedDigits 4 year.natAbs
  else paddedDigits 4 year.natAbs

def chars (d : Date) : List Char :=
  yearChars d.year ++ '-' :: paddedDigits 2 d.month ++ '-' :: paddedDigits 2 d.day

def token (d : Date) : String := String.ofList d.chars ++ "T00:00:00Z"

end Date

namespace Moment

/-- The moment to the second.  A leap second is the sixty-first of its minute. -/
def token (m : Moment) : String :=
  let secondOfDay := (m.seconds % 86400).toNat
  let leap := if m.nanoseconds ≥ 1000000000 then 1 else 0
  String.ofList <|
    (Date.ofDays (m.seconds / 86400)).chars ++
      'T' :: paddedDigits 2 (secondOfDay / 3600) ++
      ':' :: paddedDigits 2 (secondOfDay / 60 % 60) ++
      ':' :: paddedDigits 2 (secondOfDay % 60 + leap) ++ ['Z']

end Moment

end Retrieval
