import Docblock.Issue
import Docblock.Text.Blank
import Docblock.Text.Digit

/-! Lenient conversion of values that come from outside: numbers and truth values may be spelled as
text. -/

set_option autoImplicit false

namespace Docblock.Lenient

def inWordRange (value : Int) : Bool := -(Nat.pow 2 63 : Int) ≤ value && value < Nat.pow 2 63

-- Unicode's white space; separators of files, groups, records and units do not belong to it.
def isSpace (c : Char) : Bool := isBlank c && !(28 ≤ c.toNat && c.toNat ≤ 31)

def trimSpace (text : Text) : Text :=
  ((text.dropWhile isSpace).reverse.dropWhile isSpace).reverse

/-- A row of ASCII digits without a needless zero in front. -/
def plainDigits (text : Text) : Option Text :=
  if text = ['0'] ∨ (text.all Char.isDigit ∧ text ≠ [] ∧ text.head? ≠ some '0') then some text else none

def plainInt (text : Text) : Except Fault Int :=
  let (negative, row) := match text with
    | '-' :: rest => (true, rest)
    | _ => (false, text)
  match plainDigits row with
  | none => .error .unreadableInt
  | some digits =>
    if maxDigits < digits.length then .error .longInt
    else .ok (if negative then -(numberOfDigits digits : Int) else numberOfDigits digits)

-- Drops a zero in front and the zeros and underscores after it. A zero stays if nothing or a point
-- follows. What does not start with a digit has no such form, nor has a zero that anything else
-- than a digit, a point or a minus sign follows.
def dropZeros (text : Text) : Option Text :=
  match text with
  | '0' :: rest =>
    match rest.dropWhile fun c => c == '0' || c == '_' with
    | [] => text.getLast?.map ([·])
    | '.' :: decimals => ((text.take (text.length - decimals.length - 1)).getLast?).map (· :: '.' :: decimals)
    | c :: more => if c.isDigit || c == '-' then some (c :: more) else none
  | c :: _ => if c.isDigit then some text else none
  | [] => none

/-- Drops a point and the zeros after it, at least one, if nothing else follows. -/
def dropZeroDecimals (text : Text) : Text :=
  match text.dropWhile (· != '.') with
  | _ :: '0' :: decimals => if decimals.all (· == '0') then text.takeWhile (· != '.') else text
  | _ => text

def underscoresInside : Text → Bool
  | ['_'] => false
  | '_' :: '_' :: _ => false
  | _ :: rest => underscoresInside rest
  | [] => true

def dropUnderscores (text : Text) : Text :=
  if text.head? != some '_' && underscoresInside text then text.filter (· != '_') else text

-- Drops a plus sign, after which there must not be a minus sign too.
def dropPlus : Text → Option Text
  | '+' :: '-' :: _ => none
  | '+' :: rest => some rest
  | text => some text

/-- The plain form of a row of digits, perhaps with zeros in front, decimals that are all zero or
underscores. -/
def plainRow (text : Text) : Option Text :=
  (dropZeros text).map fun digits => dropUnderscores (dropZeroDecimals digits)

def plainNumber (text : Text) : Option Text :=
  match trimSpace text with
  | '-' :: row => (plainRow row).map ('-' :: ·)
  | other => (dropPlus other).bind plainRow

/-- A whole number with blanks around it, a plus sign, zeros in front, grouping underscores or decimals
that are all zero. -/
def looseInt (text : Text) : Except Fault Int :=
  match plainNumber text with
  | some number => plainInt number
  | none => .error .unreadableInt

def intOfText (text : Text) : Except Fault Int :=
  match plainInt text with
  | .error .unreadableInt => looseInt text
  | other => other

def intOfDouble (negative : Bool) (value : Double) : Except Fault Int :=
  match value, value.whole? with
  | .infinite, _ => .error .notFinite
  | .finite .., none => .error .fraction
  | .finite .., some magnitude =>
    if magnitude < Nat.pow 2 63 then .ok (if negative then -(magnitude : Int) else magnitude)
    else .error .longInt

def int : Json → Except Fault Int
  | .int value => .ok value
  | .bool value => .ok (if value then 1 else 0)
  | .text value => intOfText value
  | .decimal mantissa exponent => intOfDouble (mantissa < 0) (.ofDecimal mantissa.natAbs exponent)
  | .infinity _ | .notANumber => .error .notFinite
  | _ => .error .notInt

def truthWords : List (String × Bool) :=
  [("1", true), ("t", true), ("y", true), ("yes", true), ("on", true), ("true", true),
   ("0", false), ("f", false), ("n", false), ("no", false), ("off", false), ("false", false)]

def boolOfText (text : Text) : Except Fault Bool :=
  match truthWords.find? fun (word, _) => word.toList == text.map Char.toLower with
  | some (_, value) => .ok value
  | none => .error .unreadableBool

def boolOfInt (value : Int) : Except Fault Bool :=
  if value = 1 then .ok true else if value = 0 then .ok false else .error .unreadableBool

def bool : Json → Except Fault Bool
  | .bool value => .ok value
  | .text value => boolOfText value
  | .int value => if inWordRange value then boolOfInt value else .error .notBool
  | .decimal mantissa exponent =>
    match intOfDouble (mantissa < 0) (.ofDecimal mantissa.natAbs exponent) with
    | .ok value => boolOfInt value
    | .error _ => .error .notBool
  | _ => .error .notBool

def text : Json → Except Fault Text
  | .text value => .ok value
  | _ => .error .notText

def optional {α : Type} (convert : Json → Except Fault α) : Json → Except Fault (Option α)
  | .null => .ok none
  | value => (convert value).map some

def natural (value : Json) : Except Fault Int := do
  let number ← int value
  if number < 0 then .error .belowZero else return number

end Docblock.Lenient
