import Docblock.Entries
import Docblock.Text.Blank
import Docblock.Text.LineBreak

/-! Files of environment settings: a name and a value per line, with comments, quotes, escapes and
references to other names. -/

set_option autoImplicit false

namespace Docblock.Dotenv

def isInlineBlank (c : Char) : Bool := isBlank c && c != '\n'

def skipInline (text : Text) : Text := text.dropWhile isInlineBlank

def nextLine (text : Text) : Text := (text.dropWhile (· != '\n')).drop 1

/-- What is left of a text at the place where it stops being a statement. -/
structure Stray where
  rest : Text
  deriving DecidableEq, Repr

def skipExport (text : Text) : Text :=
  if "export".toList.isPrefixOf text && (text.drop 6).head?.any isInlineBlank then
    skipInline (text.drop 6)
  else text

/-- The name that a statement starts with, bare or in single quotes. A comment has none. -/
def name (text : Text) : Except Stray (Option Text × Text) :=
  match text with
  | '#' :: _ => .ok (none, text)
  | '\'' :: rest =>
    match rest.takeWhile (· != '\''), rest.dropWhile (· != '\'') with
    | c :: inside, _ :: behind => .ok (some (c :: inside), behind)
    | _, _ => .error ⟨text⟩
  | _ =>
    let inName (c : Char) : Bool := c != '=' && c != '#' && !isBlank c
    match text.takeWhile inName with
    | [] => .error ⟨text⟩
    | c :: inside => .ok (some (c :: inside), text.dropWhile inName)

-- Cuts a text at the closing quote. A backslash and the character after it belong together, so that
-- a quote there does not close.
def cutAtQuote (quote : Char) : Text → Option (Text × Text)
  | [] => none
  | '\\' :: c :: rest =>
    (cutAtQuote quote rest).map fun (inside, behind) => ('\\' :: c :: inside, behind)
  | c :: rest =>
    if c = quote then some ([], rest)
    else (cutAtQuote quote rest).map fun (inside, behind) => (c :: inside, behind)

def escape? : Char → Option Char
  | '\\' => some '\\'
  | '\'' => some '\''
  | '"' => some '"'
  | 'a' => some '\x07'
  | 'b' => some '\x08'
  | 'f' => some '\x0c'
  | 'n' => some '\n'
  | 'r' => some '\r'
  | 't' => some '\t'
  | 'v' => some '\x0b'
  | _ => none

-- Replaces escapes. In single quotes only the backslash and the single quote can be escaped.
def unescape (quote : Char) (text : Text) : Text :=
  text.substitute fun
    | '\\' :: c :: _ =>
      if quote = '"' ∨ c = '\\' ∨ c = '\'' then (escape? c).map fun meant => ([meant], 2) else none
    | _ => none

-- Cuts a comment off: a hash sign after a blank, and all that follows.
def dropComment : Text → Text
  | [] => []
  | c :: rest => if isBlank c && rest.head? == some '#' then [] else c :: dropComment rest

/-- The value that follows an equals sign, in quotes or up to a comment or the end of the line. -/
def value (text : Text) : Except Stray (Text × Text) :=
  match skipInline text with
  | [] => .ok ([], [])
  | c :: rest =>
    if c = '\'' ∨ c = '"' then
      match cutAtQuote c rest with
      | some (inside, behind) => .ok (unescape c inside, behind)
      | none => .error ⟨c :: rest⟩
    else
      .ok (Text.trim (dropComment (text.takeWhile (· != '\n'))), text.dropWhile (· != '\n'))

def lineEnd (text : Text) : Except Stray Text :=
  let behind := match skipInline text with
    | '#' :: rest => rest.dropWhile (· != '\n')
    | other => other
  match behind with
  | [] => .ok []
  | '\n' :: rest => .ok rest
  | _ => .error ⟨text⟩

-- A name and its value. A name without an equals sign has none.
abbrev Binding := Text × Option Text

def statement (text : Text) : Except Stray (Option Binding × Text) := do
  let (name?, afterName) ← name (skipExport text)
  match skipInline afterName with
  | '=' :: rest =>
    let (given, behind) ← value rest
    return (name?.map (·, some given), ← lineEnd behind)
  | rest => return (name?.map (·, none), ← lineEnd rest)

/-- The bindings of a text whose lines end in line feeds. A line that is no statement is passed over. -/
def bindings (text : Text) : List Binding :=
  match text.dropWhile isBlank with
  | [] => []
  | c :: rest =>
    let (found, behind) := match statement (c :: rest) with
      | .ok (found, behind) => (found.toList, behind)
      | .error stray => ([], nextLine stray.rest)
    if behind.length < text.length then found ++ bindings behind else found
termination_by text.length

/-- A reference at the front of a text, as in `${name}` or `${name:-default}`: the name, the default,
and the length. -/
def reference? : Text → Option (Text × Option Text × Nat)
  | '$' :: '\x7b' :: rest =>
    let inName (c : Char) : Bool := c != '\x7d' && c != ':'
    let name := rest.takeWhile inName
    match rest.dropWhile inName with
    | '\x7d' :: _ => some (name, none, name.length + 3)
    | ':' :: '-' :: behind =>
      let default := behind.takeWhile (· != '\x7d')
      if default.length < behind.length then some (name, some default, name.length + default.length + 5)
      else none
    | _ => none
  | _ => none

-- Puts values in place of references. What the file has bound so far goes before the environment.
def interpolate (environment : Entries Text Text) (bound : Entries Text (Option Text)) (text : Text) :
    Text :=
  text.substitute fun ahead =>
    match reference? ahead with
    | none => none
    | some (name, default, length) =>
      let found := match bound.lookup name with
        | some given => some (given.getD [])
        | none => environment.lookup name
      some ((found.orElse fun _ => default).getD [], length)

def dropMark : Text → Text
  | '\ufeff' :: rest => rest
  | file => file

def read (environment : Entries Text Text) (file : Text) : Entries Text (Option Text) :=
  (bindings (Text.join ['\n'] (dropMark file).lines)).foldl
    (fun bound (name, given) => Entries.set name (given.map (interpolate environment bound)) bound) []

end Docblock.Dotenv
