import Docblock.Comment
import Docblock.Declaration
import Docblock.Dialect
import Docblock.Pattern

/-! What a dialect is to the scanners: an ordered table of rules that tell the kind of a line, and the
shapes of annotations, signatures, parameters and doc tags. -/

set_option autoImplicit false

namespace Docblock

/-- One rule of a grammar. It fires on a line whose stripped text matches the pattern and whose
surroundings pass the test. -/
structure Rule where
  name : String
  kind : Kind
  pattern : Pattern := .empty
  surroundings : Document → Int → Text → Except OutOfRange Bool := fun _ _ _ => .ok true

def Rule.fires (rule : Rule) (doc : Document) (line : Int) (text : Text) : Except OutOfRange Bool :=
  if rule.pattern.matchesIn text then rule.surroundings doc line text else .ok false

/-- The shapes of the lines that carry a doc tag, and the line that describes a return value. -/
structure Markers where
  param : Pattern
  description : Pattern
  returns : Pattern
  sample : Pattern
  returnLine : Text → Text

structure AnnotationName where
  first : Char → Bool
  other : Char → Bool

structure Grammar where
  dialect : Dialect
  windows : Windows
  extensions : List String
  kinds : List Kind
  signatureKinds : List Kind
  rules : List Rule
  markers : Markers
  /-- The bracket pairs, opener first, whose commas do not separate parameters. -/
  nesting : List (Char × Char)
  annotationName : AnnotationName
  isAnnotationLine : Text → Bool
  className? : Text → Option Text
  /-- The line that holds the parenthesis which opens the parameter list of a declaration. -/
  signatureStart : Document → Int → Kind → Except OutOfRange (Option Int)
  signatureEnd : Pattern
  /-- Parameters that a signature line names without parentheses. -/
  bareParameters? : Text → Option (List Text)
  parameterName : Text → Text

namespace AnnotationName

def afterArguments (text : Text) : Text :=
  match text.trimLeft with
  | '(' :: inner =>
    match inner.dropWhile (· != ')') with
    | ')' :: rest => rest
    | _ => text
  | _ => text

def afterOne? (name : AnnotationName) : Text → Option Text
  | '@' :: c :: rest =>
    if name.first c then some (afterArguments (rest.dropWhile name.other)).trimLeft else none
  | _ => none

def afterSome (name : AnnotationName) : Nat → Text → Text
  | 0, text => text
  | count + 1, text =>
    match name.afterOne? text with
    | some rest => name.afterSome count rest
    | none => text

/-- The text without the annotations that open it; one that opens with none is left as it is. -/
def strip (name : AnnotationName) (text : Text) : Text :=
  match name.afterOne? text.trimLeft with
  | some rest => name.afterSome rest.length rest
  | none => text

end AnnotationName

/-- The name of the nearest class declared at or above a line. -/
def enclosingClass? (className? : Text → Option Text) (window : Int) (doc : Document) (line : Int) :
    Except OutOfRange (Option Text) :=
  scanUp (min line (doc.count - 1)) (max 0 (line - window)) fun i => do
    return className? (Comment.stripLine (← doc.line i))

namespace Grammar

def declarationText (grammar : Grammar) (doc : Document) (line : Int) : Except OutOfRange Text := do
  return grammar.annotationName.strip (Comment.stripLine (← doc.line line))

def firstKind? (doc : Document) (line : Int) (text : Text) : List Rule → Except OutOfRange (Option Kind)
  | [] => .ok none
  | rule :: rest => do
    if ← rule.fires doc line text then return some rule.kind else firstKind? doc line text rest

/-- The kind that a line declares, if it is a declaration line. -/
def kindAt (grammar : Grammar) (doc : Document) (line : Int) : Except OutOfRange (Option Kind) := do
  let text ← grammar.declarationText doc line
  if text.blank then return none else firstKind? doc line text grammar.rules

def bareAnnotationAt (grammar : Grammar) (doc : Document) (line : Int) : Except OutOfRange Bool := do
  if grammar.isAnnotationLine (← doc.line line) then return (← grammar.kindAt doc line).isNone
  else return false

def enclosingType? (grammar : Grammar) (doc : Document) (line : Int) :
    Except OutOfRange (Option Text) :=
  enclosingClass? grammar.className? grammar.windows.enclosingType doc line

end Grammar

end Docblock
