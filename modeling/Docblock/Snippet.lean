import Docblock.Text.Digit

/-! Snippets: text with tab stops, placeholders and choices, and the plain text an editor leaves when
every default is accepted. -/

set_option autoImplicit false

namespace Docblock.Snippet

/-- What stands between a dollar sign with an opening brace, digits and `mark`, and the first character
that `plain` refuses; and what follows from there on. -/
def braced? (mark : Char) (plain : Char → Bool) : Text → Option (Text × Text)
  | '$' :: '\x7b' :: rest =>
    match rest.takeWhile isDigit, rest.dropWhile isDigit with
    | _ :: _, c :: inner =>
      if c = mark then some (inner.takeWhile plain, inner.dropWhile plain) else none
    | _, _ => none
  | _ => none

/-- A placeholder at the front, `${1:text}` with no brace in the text: its default and its length. -/
def placeholder? (text : Text) : Option (Text × Nat) :=
  match braced? ':' (fun c => c != '\x7b' && c != '\x7d') text with
  | some (default, '\x7d' :: rest) => some (default, text.length - rest.length)
  | _ => none

/-- A choice at the front, `${1|a,b|}`: its first option and its length. -/
def choice? (text : Text) : Option (Text × Nat) :=
  match braced? '|' (· != '|') text with
  | some (options, '|' :: '\x7d' :: rest) => some (options.takeWhile (· != ','), text.length - rest.length)
  | _ => none

/-- A bare tab stop at the front, `${1}` or `$1`: nothing, and its length. -/
def tabStop? (text : Text) : Option (Text × Nat) :=
  match text with
  | '$' :: '\x7b' :: rest =>
    match rest.takeWhile isDigit, rest.dropWhile isDigit with
    | _ :: _, '\x7d' :: behind => some ([], text.length - behind.length)
    | _, _ => none
  | '$' :: rest =>
    if (rest.takeWhile isDigit).isEmpty then none
    else some ([], text.length - (rest.dropWhile isDigit).length)
  | _ => none

/-- Puts defaults in place of placeholders, innermost first, until none is left or `rounds` are over. -/
def resolve : Nat → Text → Text
  | 0, text => text
  | rounds + 1, text =>
    let next := text.substitute placeholder?
    if next = text then text else resolve rounds next

-- The plain text of a snippet. An escaped dollar sign is set aside as NUL meanwhile.
def render (snippet : Text) : Text :=
  let text := snippet.replace ['\\', '$'] ['\x00']
  let text := resolve text.length text
  let text := text.substitute choice?
  let text := text.substitute tabStop?
  text.replace ['\x00'] ['$']

def stopDigits : Text → List Text
  | [] => []
  | '$' :: '\x7b' :: rest =>
    let row := rest.takeWhile isDigit
    if row.isEmpty then stopDigits rest else row :: stopDigits rest
  | '$' :: rest =>
    let row := rest.takeWhile isDigit
    if row.isEmpty then stopDigits rest else row :: stopDigits rest
  | _ :: rest => stopDigits rest

-- The highest of the numbers that rows of digits spell, and of a number to start with.
def highest (least : Nat) : List Text → Except DigitLimit Nat
  | [] => .ok least
  | row :: rest => do highest (max least (← readNumber row)) rest

/-- The first tab stop above all those that the lines use. -/
def nextStop (lines : List Text) : Except DigitLimit Nat := do
  return (← highest 0 (lines.flatMap stopDigits)) + 1

end Docblock.Snippet
