import ScopedGrants.Instant
import ScopedGrants.Text.Blank
import ScopedGrants.Text.Timestamp

/-!
Instants as texts: dates with a time and a zone in a loose form of RFC 3339. Numerals need no zeros
in front, a year of any length may carry a sign, white space may stand before every part, and
Greenwich may go by the name UTC.
-/

namespace ScopedGrants.Instant

open Text

def skipBlanks (input : List Char) : List Char := input.dropWhile isBlank

/-- The number that one digit or more spell, up to so many. -/
def numeral (most : Nat) (input : List Char) : Option (Nat × List Char) :=
  let digits := (input.take most).takeWhile Char.isDigit
  if digits.isEmpty then none else some (ofDigits 10 digits, input.drop digits.length)

/-- A year of the calendar, in four digits at most unless it carries a sign. -/
def year (input : List Char) : Option (Int × List Char) := do
  let (year, rest) ← match skipBlanks input with
    | '-' :: rest => (numeral rest.length rest).map fun (n, rest) => (-(n : Int), rest)
    | '+' :: rest => (numeral rest.length rest).map fun (n, rest) => ((n : Int), rest)
    | rest => (numeral 4 rest).map fun (n, rest) => ((n : Int), rest)
  if -262143 ≤ year ∧ year ≤ 262142 then some (year, rest) else none

def part (low high : Nat) (input : List Char) : Option (Nat × List Char) :=
  (numeral 2 (skipBlanks input)).filter fun (value, _) => low ≤ value ∧ value ≤ high

def divider (c : Char) (input : List Char) : Option (List Char) :=
  Timestamp.symbol c (skipBlanks input)

/-- How many days the month of a year has. The calendar repeats itself every 400 years. -/
def daysIn (year : Int) (month : Nat) : Nat := Timestamp.daysIn (year % 400).toNat month

/-- How many leap days lie between the first of January of the year 1 and that of a year. -/
def leapDaysBefore (year : Int) : Int := (year - 1) / 4 - (year - 1) / 100 + (year - 1) / 400

/-- How many days a date comes after the start of 1970. -/
def dayNumber (year : Int) (month day : Nat) : Int :=
  let months := (List.range (month - 1)).foldl
    (fun days passed => days + daysIn year (passed + 1)) 0
  365 * (year - 1970) + leapDaysBefore year - leapDaysBefore 1970 + months + (day - 1)

def date (input : List Char) : Option (Int × List Char) := do
  let (year, input) ← year input
  let (month, input) ← part 1 12 (← divider '-' input)
  let (day, input) ← part 1 (daysIn year month) (← divider '-' input)
  return (dayNumber year month day, input)

/-- The seconds of a day that are over. A leap second counts as the one before it, and fractions do
not count. -/
def time (input : List Char) : Option (Int × List Char) := do
  let (hour, input) ← part 0 23 input
  let (minute, input) ← part 0 59 (← divider ':' input)
  let (second, input) ← part 0 60 (← divider ':' input)
  return (hour * 3600 + minute * 60 + min second 59, ← Timestamp.fraction input)

def offset (input : List Char) : Option (Int × List Char) := do
  let (hours, input) ← Timestamp.numeral 2 0 23 input
  let (minutes, input) ←
    Timestamp.numeral 2 0 59 (input.dropWhile fun c => c = ':' ∨ isBlank c)
  return (hours * 3600 + minutes * 60, input)

/-- How many seconds a clock is ahead of Greenwich. A minus may be a hyphen or the sign of
mathematics. -/
def zone (input : List Char) : Option (Int × List Char) :=
  match skipBlanks input with
  | '+' :: rest => offset rest
  | '-' :: rest | '\u2212' :: rest => (offset rest).map fun (seconds, rest) => (-seconds, rest)
  | c :: rest =>
    if (c :: rest.take 2).map Char.toLower = ['u', 't', 'c'] then some (0, rest.drop 2)
    else if c.toLower = 'z' then some (0, rest)
    else none
  | [] => none

/-- The instant that a text shows, to the second. It has to be on the calendar. -/
def ofText? (text : String) : Option Instant := do
  let (day, input) ← date text.toList
  let (clock, input) ← time (← Timestamp.mark input)
  let (ahead, input) ← zone input
  let seconds := day * 86400 + clock - ahead
  if input.all isBlank ∧ first.toInt ≤ seconds ∧ seconds ≤ last.toInt then
    some (Int64.ofInt seconds)
  else none

end ScopedGrants.Instant
