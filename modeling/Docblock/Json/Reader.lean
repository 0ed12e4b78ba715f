import Docblock.Entries
import Docblock.Json
import Docblock.Text.Digit
import Docblock.Text.Point

/-! Reading JSON. Besides the standard grammar `NaN`, `Infinity` and `-Infinity` are numbers; of a field
that is given twice the first place and the last value count; a whole number can be too long, and a
value can be too deep. -/

set_option autoImplicit false

namespace Docblock.Json

/-- The values that other values stand in. -/
inductive Container where
  | array
  | object
  deriving DecidableEq, Repr

/-- What is wrong with a text that is no JSON. -/
inductive Complaint where
  | byteOrderMark
  | noValue
  | noName
  | noColon
  | noComma
  | openString
  | controlCharacter
  | unknownEscape
  | brokenCode
  | extraData
  deriving DecidableEq, Repr

def Complaint.message : Complaint → String
  | byteOrderMark => "Unexpected UTF-8 BOM (decode using utf-8-sig)"
  | noValue => "Expecting value"
  | noName => "Expecting property name enclosed in double quotes"
  | noColon => "Expecting ':' delimiter"
  | noComma => "Expecting ',' delimiter"
  | openString => "Unterminated string starting at"
  | controlCharacter => "Invalid control character at"
  | unknownEscape => "Invalid \\escape"
  | brokenCode => "Invalid \\uXXXX escape"
  | extraData => "Extra data"

inductive ReadError where
  /-- What is wrong is found where `rest` is still to be read. -/
  | malformed (complaint : Complaint) (rest : Text)
  | tooLong (limit : DigitLimit)
  /-- Too many values stand in each other; the innermost that was met is of this kind. -/
  | tooDeep (innermost : Container)
  deriving DecidableEq, Repr

/-- A place in a text. Lines and columns are counted from one; the offset is the number of characters in
front, where a line break is one. -/
structure Place where
  line : Nat
  column : Nat
  offset : Nat
  deriving DecidableEq, Repr

def Place.behind (front : Text) : Place :=
  let rows := front.lines
  ⟨rows.length, (rows.getLastD []).length + 1, (Text.join ['\n'] rows).length⟩

/-- The words for a text that is no JSON, with the place where `rest` of it is left. -/
def Complaint.wordsAt (complaint : Complaint) (text rest : Text) : String :=
  let place := Place.behind (text.take (text.length - rest.length))
  s!"{complaint.message}: line {place.line} column {place.column} (char {place.offset})"

def isSpace (c : Char) : Bool := c == ' ' || c == '\t' || c == '\n' || c == '\r'

def skipSpace (text : Text) : Text := text.dropWhile isSpace

def hexUnit? (a b c d : Char) : Option Nat := do
  return 4096 * (← hexValue? a) + 256 * (← hexValue? b) + 16 * (← hexValue? c) + (← hexValue? d)

def escape? : Char → Option Char
  | '"' => some '"'
  | '\\' => some '\\'
  | '/' => some '/'
  | 'b' => some '\x08'
  | 'f' => some '\x0c'
  | 'n' => some '\n'
  | 'r' => some '\r'
  | 't' => some '\t'
  | _ => none

/-- The code points and surrogates of a string after its opening quote, and the text behind the closing
one; `opened` is the text from the opening quote on, and `done` holds those before, last first. -/
def units (opened : Text) (done : List Nat) : Text → Except ReadError (List Nat × Text)
  | [] => .error (.malformed .openString opened)
  | '"' :: rest => .ok (done.reverse, rest)
  | '\\' :: 'u' :: a :: b :: c :: d :: rest =>
    match hexUnit? a b c d with
    | some unit =>
      -- The digits must not end the text.
      if rest.isEmpty then .error (.malformed .brokenCode ('u' :: a :: b :: c :: d :: rest))
      else units opened (unit :: done) rest
    | none => .error (.malformed .brokenCode ('u' :: a :: b :: c :: d :: rest))
  | '\\' :: 'u' :: rest => .error (.malformed .brokenCode ('u' :: rest))
  | '\\' :: c :: rest =>
    match escape? c with
    | some meant => units opened (meant.toNat :: done) rest
    | none => .error (.malformed .unknownEscape ('\\' :: c :: rest))
  | c :: rest =>
    if c = '\\' then .error (.malformed .openString opened)
    else if c.toNat < 32 then .error (.malformed .controlCharacter (c :: rest))
    else units opened (c.toNat :: done) rest

/-- The code points in a row of code points and surrogates: a high and a low surrogate make one. -/
def joinSurrogates : List Nat → Points
  | [] => []
  | [unit] => [.ofCode unit]
  | high :: low :: rest =>
    if 0xD800 ≤ high ∧ high < 0xDC00 ∧ 0xDC00 ≤ low ∧ low < 0xE000 then
      .ofCode (0x10000 + 0x400 * (high - 0xD800) + (low - 0xDC00)) :: joinSurrogates rest
    else .ofCode high :: joinSurrogates (low :: rest)

/-- A string whose opening quote stands in front of the text. -/
def string (text : Text) : Except ReadError (Points × Text) := do
  let (codes, rest) ← units ('"' :: text) [] text
  return (joinSurrogates codes, rest)

def digits (text : Text) : Text × Text :=
  (text.takeWhile Char.isDigit, text.dropWhile Char.isDigit)

-- The digits after a decimal point; none if the text does not go on with a point and a digit.
def fraction (text : Text) : Text × Text :=
  match text with
  | '.' :: rest => if (digits rest).1.isEmpty then ([], text) else digits rest
  | _ => ([], text)

def exponent (text : Text) : Option Int × Text :=
  let signed (negative : Bool) (rest : Text) : Option Int × Text :=
    let (row, behind) := digits rest
    if row.isEmpty then (none, text)
    else (some (if negative then -(numberOfDigits row : Int) else numberOfDigits row), behind)
  match text with
  | 'e' :: '-' :: rest | 'E' :: '-' :: rest => signed true rest
  | 'e' :: '+' :: rest | 'E' :: '+' :: rest => signed false rest
  | 'e' :: rest | 'E' :: rest => signed false rest
  | _ => (none, text)

/-- A number after its sign, which is the first of `opened`, if it has one. -/
def number (opened : Text) (negative : Bool) (text : Text) : Except ReadError (Json Points × Text) :=
  let (whole, rest) :=
    match text with
    | '0' :: rest => (['0'], rest)
    | _ => digits text
  if whole.isEmpty then .error (.malformed .noValue opened)
  else
    let (parts, afterParts) := fraction rest
    let (power?, behind) := exponent afterParts
    let signed (value : Nat) : Int := if negative then -(value : Int) else value
    if parts.isEmpty && power?.isNone then
      match readNumber whole with
      | .ok value => .ok (.int (signed value), behind)
      | .error limit => .error (.tooLong limit)
    else
      .ok (.decimal (signed (numberOfDigits (whole ++ parts))) (power?.getD 0 - parts.length), behind)

def words : List (String × Json Points) :=
  [("null", .null), ("true", .bool true), ("false", .bool false), ("NaN", .notANumber),
   ("Infinity", .infinity false), ("-Infinity", .infinity true)]

/-- A value that is neither a string nor made of other values. -/
def scalar (text : Text) : Except ReadError (Json Points × Text) :=
  match words.find? fun (word, _) => word.toList.isPrefixOf text with
  | some (word, value) => .ok (value, text.drop word.length)
  | none =>
    match text with
    | '-' :: rest => number text true rest
    | _ => number text false text

mutual

/-- A value at the front of a text, and what follows; `fuel` bounds the number of steps, and `room` how
many arrays and objects may still open in each other. -/
def value (fuel room : Nat) (text : Text) : Except ReadError (Json Points × Text) :=
  match fuel with
  | 0 => .error (.malformed .noValue text)
  | fuel + 1 =>
    match text, room with
    | '"' :: rest, _ => do
      let (content, behind) ← string rest
      return (.text content, behind)
    | '[' :: _, 0 => .error (.tooDeep .array)
    | '\x7b' :: _, 0 => .error (.tooDeep .object)
    | '[' :: rest, room + 1 =>
      match skipSpace rest with
      | ']' :: behind => .ok (.array [], behind)
      | inner => do
        let (values, behind) ← items fuel room inner
        return (.array values, behind)
    | '\x7b' :: rest, room + 1 =>
      match skipSpace rest with
      | '\x7d' :: behind => .ok (.object [], behind)
      | inner => do
        let (fields, behind) ← members fuel room [] inner
        return (.object fields, behind)
    | _, _ => scalar text

def items (fuel room : Nat) (text : Text) : Except ReadError (List (Json Points) × Text) :=
  match fuel with
  | 0 => .error (.malformed .noValue text)
  | fuel + 1 => do
    let (first, rest) ← value fuel room text
    match skipSpace rest with
    | ']' :: behind => return ([first], behind)
    | ',' :: more => do
      let (others, behind) ← items fuel room (skipSpace more)
      return (first :: others, behind)
    | left => .error (.malformed .noComma left)

def members (fuel room : Nat) (before : Entries Points (Json Points)) (text : Text) :
    Except ReadError (Entries Points (Json Points) × Text) :=
  match fuel with
  | 0 => .error (.malformed .noName text)
  | fuel + 1 =>
    match text with
    | '"' :: rest => do
      let (name, afterName) ← string rest
      match skipSpace afterName with
      | ':' :: afterColon =>
        let (content, afterValue) ← value fuel room (skipSpace afterColon)
        let fields := Entries.set name content before
        match skipSpace afterValue with
        | '\x7d' :: behind => return (fields, behind)
        | ',' :: more => members fuel room fields (skipSpace more)
        | left => .error (.malformed .noComma left)
      | left => .error (.malformed .noColon left)
    | _ => .error (.malformed .noName text)

end

/-- Reads a text in which no more than `depth` arrays and objects stand in each other. Of the steps two for
each character suffice. -/
def read (depth : Nat) (text : Text) : Except ReadError (Json Points) :=
  if text.head? = some '\ufeff' then .error (.malformed .byteOrderMark text)
  else do
    let (content, rest) ← value (2 * text.length + 1) depth (skipSpace text)
    match skipSpace rest with
    | [] => return content
    | left => .error (.malformed .extraData left)

end Docblock.Json
