import Docblock.Json

/-! Decimal numbers rounded to double precision, the nearest double with ties to even, in exact
arithmetic. Main use: telling which decimals are whole numbers once they are rounded. -/

set_option autoImplicit false

namespace Docblock

inductive Double where
  /-- `mantissa` times two to the power of `exponent`. -/
  | finite (mantissa : Nat) (exponent : Int)
  | infinite
  deriving DecidableEq, Repr

namespace Double

/-- A quotient rounded to the nearest whole number, a half to the even neighbour. -/
def roundQuotient (numerator denominator : Nat) : Nat :=
  let quotient := numerator / denominator
  let twice := 2 * (numerator % denominator)
  if twice < denominator ∨ (twice = denominator ∧ quotient % 2 = 0) then quotient else quotient + 1

/-- A quotient of positive numbers rounded to 53 binary digits, fewer near the smallest doubles. -/
def ofQuotient (numerator denominator : Nat) : Double :=
  let guess : Int := (Nat.log2 numerator : Int) - Nat.log2 denominator
  let scale :=
    if denominator * Nat.pow 2 guess.toNat ≤ numerator * Nat.pow 2 (-guess).toNat then guess else guess - 1
  let exponent := max (scale - 52) (-1074)
  let mantissa :=
    roundQuotient (numerator * Nat.pow 2 (-exponent).toNat) (denominator * Nat.pow 2 exponent.toNat)
  if Nat.pow 2 1024 ≤ mantissa * Nat.pow 2 exponent.toNat then infinite else finite mantissa exponent

def ofDecimal (mantissa : Nat) (exponent : Int) : Double :=
  let digits : Int := (Nat.toDigits 10 mantissa).length
  if mantissa = 0 ∨ digits + exponent < -400 then finite 0 0
  else if 400 < digits + exponent then infinite
  else ofQuotient (mantissa * Nat.pow 10 exponent.toNat) (Nat.pow 10 (-exponent).toNat)

def whole? : Double → Option Nat
  | finite mantissa exponent =>
    let unit := Nat.pow 2 (-exponent).toNat
    if mantissa % unit = 0 then some (mantissa / unit * Nat.pow 2 exponent.toNat) else none
  | infinite => none

end Double

namespace Json

mutual

def isFinite : Json → Bool
  | decimal mantissa exponent => Double.ofDecimal mantissa.natAbs exponent != .infinite
  | infinity _ | notANumber => false
  | array items => areFinite items
  | object fields => fieldsAreFinite fields
  | _ => true

def areFinite : List Json → Bool
  | [] => true
  | item :: rest => isFinite item && areFinite rest

def fieldsAreFinite : List (Text × Json) → Bool
  | [] => true
  | (_, value) :: rest => isFinite value && fieldsAreFinite rest

end

end Json

end Docblock
