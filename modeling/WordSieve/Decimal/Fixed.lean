/-!
# Decimals with a fixed number of places

A double is written with a fixed number of decimal places by rounding its exact value: the double
is taken apart into sign, whole number and power of two, and one division settles the digits. A
value halfway between two decimals goes to the one whose last digit is even.
-/

set_option autoImplicit false

namespace WordSieve.Decimal

/-- The nearest whole number to a quotient; a tie goes to the even one. -/
def roundDiv (num den : Nat) : Nat :=
  let q := num / den
  let r := num % den
  if 2 * r > den ∨ (2 * r = den ∧ q % 2 = 1) then q + 1 else q

/-- A finite double: `significand * 2 ^ exponent`, negated if `negative`. -/
structure Binary where
  negative : Bool
  significand : Nat
  exponent : Int
  deriving DecidableEq, Repr

/-- The leading bit of a double that is not written down. -/
def leadingBit : Nat :=
  1 <<< 52

/-- The parts of a double that is finite. -/
def Binary.ofFloat (x : Float) : Binary :=
  let bits := x.toBits.toNat
  let fraction := bits % leadingBit
  let biased := bits / leadingBit % 2048
  { negative := 1 <<< 63 ≤ bits
    significand := if biased = 0 then fraction else leadingBit + fraction
    exponent := (max biased 1 : Nat) - 1075 }

/-- The size of the number in units of the last decimal place. -/
def Binary.scaled (b : Binary) (places : Nat) : Nat :=
  let n := b.significand * Nat.pow 10 places
  if 0 ≤ b.exponent then n <<< b.exponent.toNat else roundDiv n (1 <<< (-b.exponent).toNat)

/-- A number of units of the last place, written with a point before the places. -/
def pointed (places units : Nat) : String :=
  let unit := Nat.pow 10 places
  let digits := toString (units % unit)
  let fraction := "".pushn '0' (places - digits.length) ++ digits
  s!"{units / unit}.{fraction}"

/-- The double with the given number of decimal places, at least one. A minus sign stands before
every negative number, also one that rounds to zero. -/
def fixed (places : Nat) (x : Float) : String :=
  if x.isNaN then "NaN"
  else if x.isInf then if x < 0 then "-inf" else "inf"
  else
    let b := Binary.ofFloat x
    (if b.negative then "-" else "") ++ pointed places (b.scaled places)

end WordSieve.Decimal
