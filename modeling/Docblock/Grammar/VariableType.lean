import Docblock.Grammar.JavaScript
import Docblock.Text.Digit

/-! The type of a JavaScript variable, as written or as its first value suggests. -/

set_option autoImplicit false

namespace Docblock.JavaScript

open Pattern

-- The type written after a variable's name, up to an equals sign or semicolon.
def writtenType? (text : Text) : Option Text :=
  (capture (variableHead ++ char ':') (some1 fun c => c != '=' && c != ';') empty text).map Text.trim

-- The value written after an equals sign, up to the nearest semicolon or the end.
def initialValue? (text : Text) : Option Text :=
  (capture (char '=' ++ blanks) (one (· != '\n') ++ few (· != '\n')) (char ';' ||| stop) text).map Text.trim

/-- Whether a text starts with one character and ends with another, which are two characters. -/
def between (first last : Char) (text : Text) : Bool :=
  match text with
  | c :: rest => c == first && rest.getLast? == some last
  | [] => false

def digitRow : Pattern := some1 isDigit

def numeral : Pattern :=
  start ++ optional (one fun c => c == '+' || c == '-') ++
    ((digitRow ++ optional (char '.' ++ digitRow)) ||| (char '.' ++ digitRow)) ++
    optional (one (fun c => c == 'e' || c == 'E') ++ optional (one fun c => c == '+' || c == '-') ++ digitRow) ++
    stop

def truthValue : Pattern := start ++ oneOf [word "true", word "false"] ++ edge

def functionValue : Pattern := start ++ asyncWord ++ word "function" ++ edge

def arrowParameterChar (c : Char) : Bool := nameChar c || isBlank c || ",\x7b\x7d[]".toList.contains c

def arrowValue : Pattern :=
  start ++ optional (word "async" ++ blanks) ++ many (· == '(') ++ many arrowParameterChar ++
    many (· == ')') ++ blanks ++ word "=>"

def constructed? (value : Text) : Option Text :=
  capture (start ++ word "new" ++ space) name (blanks ++ char '(') value

def typeOfValue? (value : Text) : Option Text :=
  if ['\'', '"', '\x60'].any fun quote => between quote quote value then some "string".toList
  else if numeral.matchesIn value then some "number".toList
  else if truthValue.matchesIn value then some "boolean".toList
  else if between '[' ']' value then some "Array<any>".toList
  else if between '\x7b' '\x7d' value then some "Object".toList
  else if functionValue.matchesIn value || arrowValue.matchesIn value then some "Function".toList
  else constructed? value

/-- The type of the variable that a line declares; a written type goes first. -/
def variableType? (text : Text) : Option Text :=
  let code := Comment.stripLine text
  match writtenType? code with
  | some type => some type
  | none => (initialValue? code).bind typeOfValue?

end Docblock.JavaScript
