import ScopedGrants.Json.Fault
import ScopedGrants.Text.Digits

/-!
Numbers as they are spelled, and what they amount to. Only integers within a fixed width have a
value here. All other numbers are reckoned just far enough to tell those that no double could
hold: such a number is malformed wherever its value is wanted.
-/

namespace ScopedGrants.Json

open Text

structure Exponent where
  negative : Bool
  digits : List Char
deriving DecidableEq, Repr

structure Numeral where
  negative : Bool
  whole : List Char
  fraction : Option (List Char) := none
  exponent : Option Exponent := none
deriving DecidableEq, Repr

namespace Numeral

/-- The number rounded to 53 significant bits, a half to the even neighbour. -/
def toSignificant (n : Nat) : Nat :=
  let shift := n.log2 - 52
  let unit := Nat.pow 2 shift
  let half := unit / 2
  let (quotient, rest) := (n / unit, n % unit)
  if half < rest ∨ (0 < shift ∧ rest = half ∧ quotient % 2 = 1) then (quotient + 1) * unit
  else quotient * unit

/-- The leading digits as far as 64 bits hold the number they spell, and the digits after them. -/
def leading (total : Nat) : List Char → Nat × List Char
  | [] => (total, [])
  | digit :: rest =>
    let next := 10 * total + (digitValue? digit).getD 0
    if next < Nat.pow 2 64 then leading next rest else (total, digit :: rest)

/-- The significand that 64 bits hold, and the power of ten it is to be taken with before the
exponent. Whole digits beyond the 64 bits count as zeros, and those of the fraction not at all. -/
def scaled (number : Numeral) : Nat × Int :=
  let (whole, dropped) := leading 0 number.whole
  let digits := number.fraction.getD []
  let (significand, ignored) := leading whole digits
  (significand, (dropped.length : Int) - ((digits.length - ignored.length : Nat) : Int))

/-- No double is large enough for the number. -/
def overflows (number : Numeral) : Bool :=
  let (significand, power) := number.scaled
  let exponent : Int := match number.exponent with
    | none => power
    | some exponent =>
      if exponent.negative then power - ofDigits 10 exponent.digits
      else power + ofDigits 10 exponent.digits
  significand ≠ 0 &&
    (308 < exponent || (0 ≤ exponent &&
      Nat.pow 2 1024 - Nat.pow 2 970 ≤
        toSignificant significand * toSignificant (Nat.pow 10 exponent.toNat)))

/-- The integer spelled without fraction or exponent. Minus zero is none. -/
def integer? (number : Numeral) : Option Int :=
  if number.fraction.isSome || number.exponent.isSome then none
  else if number.negative then
    let magnitude := ofDigits 10 number.whole
    if magnitude = 0 then none else some (-magnitude)
  else some (ofDigits 10 number.whole)

def ofInt (n : Int) : Numeral where
  negative := n < 0
  whole := Nat.toDigits 10 n.natAbs

def misfit (number : Numeral) : Fault := if number.overflows then .malformed else .mistyped

def toInt64 (number : Numeral) : Except Fault Int64 :=
  match number.integer? with
  | some n =>
    if Int64.minValue.toInt ≤ n ∧ n ≤ Int64.maxValue.toInt then .ok (Int64.ofInt n)
    else .error number.misfit
  | none => .error number.misfit

end Numeral
end ScopedGrants.Json
