import OpenReachout.Schema
import OpenReachout.Text.Platform

/-!
# Addresses and dates

`core/canonical.py`, and the calendar arithmetic behind the counter periods and
the month intervals of the database.
-/

namespace OpenReachout

open Text Text.Regex Text.Platform

set_option autoImplicit false

section Canonical

def shape : Regex :=
  let visible := plus (.set fun char => !(char = '@' || isSpace char))
  .sequence [.textStart, visible, word "@", visible, word ".", visible, .textEnd]

/-- `str.rpartition` without the separator. -/
def rpartition (separator : Char) (text : List Char) : List Char × List Char :=
  let back := text.reverse.span fun char => char != separator
  ((back.2.drop 1).reverse, back.1.reverse)

def invalidEmail (platform : Platform) (why email : String) : Exc :=
  ⟨.invalidEmailError, why ++ String.ofList (platform.repr email.toList)⟩

def canonicalize (platform : Platform) (email : String) : Except Exc String := do
  let candidate := platform.lower (strip email.toList)
  if (shape.matchAt platform.isWord [] candidate).isNone then
    throw (invalidEmail platform "not a plausible email address: " email)
  let (whole, domain) := rpartition '@' candidate
  let bare := whole.takeWhile fun char => char != '+'
  if bare.isEmpty then
    throw (invalidEmail platform "empty local part after canonicalization: " email)
  match platform.idna domain with
  | none => throw (invalidEmail platform "undecodable domain in " email)
  | some ascii =>
      if ascii = "gmail.com".toList || ascii = "googlemail.com".toList then
        let plain := bare.filter fun char => char != '.'
        if plain.isEmpty then
          throw (invalidEmail platform "empty local part after canonicalization: " email)
        return String.ofList plain ++ "@gmail.com"
      else
        return String.ofList bare ++ "@" ++ String.ofList ascii

/-- All that `forget` leaves of an address. -/
def tombstoneHash (platform : Platform) (email : String) : Except Exc String :=
  (canonicalize platform email).map fun canonical => platform.sha256 canonical.toList

/-- `prospecting._canon` -/
def canon (platform : Platform) (address : String) : Option String :=
  (canonicalize platform address).toOption

end Canonical

section Calendar

/-- Days since the epoch to year, month and day of the Gregorian calendar. -/
def civil (day : Nat) : Nat × Nat × Nat :=
  let shifted := day + 719468
  let era := shifted / 146097
  let dayOfEra := shifted % 146097
  let yearOfEra := (dayOfEra - dayOfEra / 1460 + dayOfEra / 36524 - dayOfEra / 146096) / 365
  let dayOfYear := dayOfEra - (365 * yearOfEra + yearOfEra / 4 - yearOfEra / 100)
  let marchMonth := (5 * dayOfYear + 2) / 153
  let month := if marchMonth < 10 then marchMonth + 3 else marchMonth - 9
  (yearOfEra + era * 400 + (if month ≤ 2 then 1 else 0), month,
    dayOfYear - (153 * marchMonth + 2) / 5 + 1)

def daysOfCivil (year month day : Nat) : Nat :=
  let marchYear := if month ≤ 2 then year - 1 else year
  let era := marchYear / 400
  let yearOfEra := marchYear % 400
  let marchMonth := if month ≤ 2 then month + 9 else month - 3
  let dayOfYear := (153 * marchMonth + 2) / 5 + day - 1
  era * 146097 + (yearOfEra * 365 + yearOfEra / 4 - yearOfEra / 100 + dayOfYear) - 719468

def monthOf (time : Time) : Period :=
  let date := civil (time / days 1)
  .month date.1 date.2.1

def dayOf (time : Time) : Period :=
  let date := civil (time / days 1)
  .day date.1 date.2.1 date.2.2

def daysInMonth (year month : Nat) : Nat :=
  daysOfCivil (if month = 12 then year + 1 else year) (if month = 12 then 1 else month + 1) 1 -
    daysOfCivil year month 1

/-- `time + make_interval(months => count)`: the day is cut to the month's last. -/
def addMonths (count : Nat) (time : Time) : Time :=
  let date := civil (time / days 1)
  let months := date.1 * 12 + (date.2.1 - 1) + count
  let year := months / 12
  let month := months % 12 + 1
  days (daysOfCivil year month (min date.2.2 (daysInMonth year month))) + time % days 1

example : civil 19782 = (2024, 2, 29) := by decide

example : addMonths 12 (days 19782) = days (daysOfCivil 2025 2 28) := by decide

end Calendar

end OpenReachout
