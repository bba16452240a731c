import ScopedGrants.Text.Digits

/-!
Dates and times as RFC 3339 spells them. Each part reads what it can from the front of a text and
gives what follows.
-/

namespace ScopedGrants.Text.Timestamp

def numeral (width low high : Nat) (input : List Char) : Option (Nat × List Char) :=
  let digits := input.take width
  let value := ofDigits 10 digits
  if digits.length = width ∧ digits.all Char.isDigit ∧ low ≤ value ∧ value ≤ high then
    some (value, input.drop width)
  else none

def symbol (c : Char) : List Char → Option (List Char)
  | d :: rest => if c = d then some rest else none
  | [] => none

def daysIn (year month : Nat) : Nat :=
  if month = 2 then
    if year % 4 = 0 ∧ (year % 100 ≠ 0 ∨ year % 400 = 0) then 29 else 28
  else if month = 4 ∨ month = 6 ∨ month = 9 ∨ month = 11 then 30
  else 31

def date (input : List Char) : Option (List Char) := do
  let (year, input) ← numeral 4 0 9999 input
  let (month, input) ← numeral 2 1 12 (← symbol '-' input)
  let (_, input) ← numeral 2 1 (daysIn year month) (← symbol '-' input)
  return input

def fraction : List Char → Option (List Char)
  | '.' :: input =>
    if (input.takeWhile Char.isDigit).isEmpty then none else some (input.dropWhile Char.isDigit)
  | input => some input

/-- Hours, minutes and seconds, among them a leap second. -/
def time (input : List Char) : Option (List Char) := do
  let (_, input) ← numeral 2 0 23 input
  let (_, input) ← numeral 2 0 59 (← symbol ':' input)
  let (_, input) ← numeral 2 0 60 (← symbol ':' input)
  fraction input

def zone : List Char → Option (List Char)
  | 'Z' :: input | 'z' :: input => some input
  | '+' :: input | '-' :: input => do
    let (_, input) ← numeral 2 0 23 input
    let (_, input) ← numeral 2 0 59 (← symbol ':' input)
    return input
  | _ => none

def mark : List Char → Option (List Char)
  | 'T' :: input | 't' :: input | ' ' :: input => some input
  | _ => none

end ScopedGrants.Text.Timestamp
