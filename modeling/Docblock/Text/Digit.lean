import Docblock.Text.Basic

/-! Decimal digits of any script, the numbers they spell, and the longest number that is read or written. -/

set_option autoImplicit false

namespace Docblock

-- The code points of the digits zero; the other nine digits of a script follow its zero (general
-- category Nd of Unicode 14).
def digitZeros : List Nat :=
  [0x30, 0x660, 0x6F0, 0x7C0, 0x966, 0x9E6, 0xA66, 0xAE6, 0xB66, 0xBE6, 0xC66, 0xCE6, 0xD66,
   0xDE6, 0xE50, 0xED0, 0xF20, 0x1040, 0x1090, 0x17E0, 0x1810, 0x1946, 0x19D0, 0x1A80, 0x1A90,
   0x1B50, 0x1BB0, 0x1C40, 0x1C50, 0xA620, 0xA8D0, 0xA900, 0xA9D0, 0xA9F0, 0xAA50, 0xABF0, 0xFF10,
   0x104A0, 0x10D30, 0x11066, 0x110F0, 0x11136, 0x111D0, 0x112F0, 0x11450, 0x114D0, 0x11650,
   0x116C0, 0x11730, 0x118E0, 0x11950, 0x11C50, 0x11D50, 0x11DA0, 0x16A60, 0x16AC0, 0x16B50,
   0x1D7CE, 0x1D7D8, 0x1D7E2, 0x1D7EC, 0x1D7F6, 0x1E140, 0x1E2F0, 0x1E950, 0x1FBF0]

def digitValue? (c : Char) : Option Nat :=
  (digitZeros.find? fun first => first ≤ c.toNat && c.toNat ≤ first + 9).map (c.toNat - ·)

def isDigit (c : Char) : Bool :=
  (digitValue? c).isSome

def hexValue? (c : Char) : Option Nat :=
  if c.isDigit then some (c.toNat - '0'.toNat)
  else if 'a' ≤ c ∧ c ≤ 'f' then some (c.toNat - 'a'.toNat + 10)
  else if 'A' ≤ c ∧ c ≤ 'F' then some (c.toNat - 'A'.toNat + 10)
  else none

-- The number that a row of digits spells; other characters count as zero.
def numberOfDigits (digits : Text) : Nat :=
  digits.foldl (fun number c => 10 * number + (digitValue? c).getD 0) 0

/-- Whole numbers of more digits than this are neither read nor written. -/
def maxDigits : Nat := 4300

inductive DigitLimit where
  | reading (digits : Nat)
  | writing
  deriving DecidableEq, Repr

def DigitLimit.message : DigitLimit → String
  | .reading digits =>
    s!"Exceeds the limit ({maxDigits} digits) for integer string conversion: value has {digits} digits; use sys.set_int_max_str_digits() to increase the limit"
  | .writing =>
    s!"Exceeds the limit ({maxDigits} digits) for integer string conversion; use sys.set_int_max_str_digits() to increase the limit"

/-- Reads a row of digits; leading zeros count towards the limit. -/
def readNumber (digits : Text) : Except DigitLimit Nat :=
  if maxDigits < digits.length then .error (.reading digits.length)
  else .ok (numberOfDigits digits)

def decimal (number : Int) : Text :=
  if number < 0 then '-' :: Nat.toDigits 10 number.natAbs else Nat.toDigits 10 number.natAbs

def writeNumber (number : Int) : Except DigitLimit Text :=
  if Nat.pow 10 maxDigits ≤ number.natAbs then .error .writing else .ok (decimal number)

end Docblock
