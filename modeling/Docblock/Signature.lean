import Docblock.Grammar

/-! Signatures that run over several lines, and the names of the parameters in them. -/

set_option autoImplicit false

namespace Docblock.Signature

/-- The texts of at most `count` lines from `line` on, through the first that closes the signature.
None can close it before a parenthesis has opened. -/
def collect (grammar : Grammar) (doc : Document) :
    Nat → Int → Bool → Except OutOfRange (Option (List Text))
  | 0, _, _ => .ok none
  | count + 1, line, opened => do
    let text ← grammar.declarationText doc line
    let opened := opened || text.contains '('
    if opened && grammar.signatureEnd.matchesIn text then return some [text]
    else return (← collect grammar doc count (line + 1) opened).map (text :: ·)

/-- The signature that starts at a line, joined by blanks; none if the window ends before it does. -/
def reassemble (grammar : Grammar) (doc : Document) (start : Int) : Except OutOfRange (Option Text) := do
  let last : Int := min (doc.count - 1) (start + grammar.windows.signature)
  let parts ← collect grammar doc (last + 1 - start).toNat start false
  return parts.map (Text.join [' '])

/-- The text up to the parenthesis that closes the one before it; `depth` others are open. -/
def closeParen (depth : Nat) : Text → Option Text
  | [] => none
  | c :: rest =>
    if c = '(' then (closeParen (depth + 1) rest).map (c :: ·)
    else if c = ')' then
      match depth with
      | 0 => some []
      | depth + 1 => (closeParen depth rest).map (c :: ·)
    else (closeParen depth rest).map (c :: ·)

def parameterList? (signature : Text) : Option Text :=
  match signature.dropWhile (· != '(') with
  | [] => none
  | _ :: rest => closeParen 0 rest

-- The opener that a closing bracket belongs to; of two the later entry counts.
def openerOf? (nesting : List (Char × Char)) (closer : Char) : Option Char :=
  (nesting.reverse.find? (·.2 == closer)).map (·.1)

def consFirst (c : Char) : List Text → List Text
  | [] => [[c]]
  | piece :: rest => (c :: piece) :: rest

/-- The pieces between the commas that stand outside all brackets; `opened` holds the openers that
wait for their closer, innermost first. A closer of another kind is an ordinary character. -/
def pieces (nesting : List (Char × Char)) (opened : List Char) : Text → List Text
  | [] => [[]]
  | c :: rest =>
    if nesting.any (·.1 == c) then consFirst c (pieces nesting (c :: opened) rest)
    else
      match openerOf? nesting c, opened with
      | some opener, innermost :: outer =>
        if innermost = opener then consFirst c (pieces nesting outer rest)
        else consFirst c (pieces nesting opened rest)
      | _, _ =>
        if c = ',' ∧ opened.isEmpty then [] :: pieces nesting [] rest
        else consFirst c (pieces nesting opened rest)

def split (nesting : List (Char × Char)) (list : Text) : List Text :=
  ((pieces nesting [] list).map Text.trim).filter (!·.isEmpty)

def names (grammar : Grammar) (signature : Text) : List Text :=
  match parameterList? signature with
  | some list => ((split grammar.nesting list).map grammar.parameterName).filter (!·.isEmpty)
  | none => []

/-- The parameter names of a declaration in the order of its signature. There are none for a kind
without parameters, a line outside the document, or a signature that does not end. -/
def parameters (grammar : Grammar) (doc : Document) (line : Int) (kind : Kind) :
    Except OutOfRange (List Text) := do
  if kind ∉ grammar.signatureKinds ∨ line < 0 ∨ doc.count ≤ line then return []
  match ← grammar.signatureStart doc line kind with
  | none => return []
  | some start =>
    match grammar.bareParameters? (← grammar.declarationText doc start) with
    | some bare => return bare
    | none => return ((← reassemble grammar doc start).map (names grammar)).getD []

end Docblock.Signature
