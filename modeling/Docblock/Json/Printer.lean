import Docblock.Json
import Docblock.Text.Digit
import Docblock.Text.Quoted

/-! Printing JSON on one line, in ASCII: a blank follows each colon and each comma. -/

set_option autoImplicit false

namespace Docblock.Json

def escapeUnit (unit : Nat) : Text := "\\u".toList ++ Text.hex 4 unit

-- A character as it stands in a string. Beyond the basic plane it takes two surrogates.
def printChar (c : Char) : Text :=
  if c = '"' ∨ c = '\\' then ['\\', c]
  else if c = '\n' then "\\n".toList
  else if c = '\r' then "\\r".toList
  else if c = '\t' then "\\t".toList
  else if c = '\x08' then "\\b".toList
  else if c = '\x0c' then "\\f".toList
  else if 32 ≤ c.toNat ∧ c.toNat < 127 then [c]
  else if c.toNat < 0x10000 then escapeUnit c.toNat
  else
    let offset := c.toNat - 0x10000
    escapeUnit (0xD800 + offset / 0x400) ++ escapeUnit (0xDC00 + offset % 0x400)

def printString (text : Text) : Text := '"' :: text.flatMap printChar ++ ['"']

mutual

def print : Json → Text
  | null => "null".toList
  | bool true => "true".toList
  | bool false => "false".toList
  | int value => Docblock.decimal value
  | decimal mantissa exponent => Docblock.decimal mantissa ++ 'e' :: Docblock.decimal exponent
  | infinity false => "Infinity".toList
  | infinity true => "-Infinity".toList
  | notANumber => "NaN".toList
  | text value => printString value
  | array items => '[' :: printItems items ++ [']']
  | object fields => '\x7b' :: printFields fields ++ ['\x7d']

def printItems : List Json → Text
  | [] => []
  | [item] => print item
  | item :: rest => print item ++ ", ".toList ++ printItems rest

def printFields : List (Text × Json) → Text
  | [] => []
  | [(name, value)] => printString name ++ ": ".toList ++ print value
  | (name, value) :: rest =>
    printString name ++ ": ".toList ++ print value ++ ", ".toList ++ printFields rest

end

end Docblock.Json
