import Docblock.Grammar

/-! The grammar of Apex, whose keywords and names ignore letter case. -/

set_option autoImplicit false

namespace Docblock.Apex

open Pattern

def word (keyword : String) : Pattern := anyCase keyword.toList

def visibility : Pattern :=
  oneOf [word "public", word "private", word "protected", word "global"]

def nameStart (c : Char) : Bool := isLatin c || c == '_'

def name : Pattern := one nameStart ++ many isWord

-- The characters between the start of a member and its name: modifiers, and a type with type
-- arguments, array brackets and qualifiers.
def typeChar (c : Char) : Bool := isWord c || isBlank c || "<>[],?.".toList.contains c

-- Statement keywords, which open lines that look like a type and a name.
def statementStart : Pattern :=
  blanks ++ oneOf [word "return", word "new", word "else", word "throw", word "if", word "for",
    word "while", word "catch", word "switch"] ++ edge

def enumValueLine : Pattern :=
  start ++ blanks ++ some1 (fun c => c.isUpper || c.isDigit || c == '_') ++ blanks ++
    optional (char '=' ++ some1 (· != '\n') ++ blanks) ++ optional (char ',' ++ blanks) ++ stop

def methodLine : Pattern :=
  start ++ absent statementStart ++ some1 typeChar ++ space ++ name ++ blanks ++ char '('

def typeModifier : Pattern :=
  oneOf [word "virtual", word "abstract", word "with" ++ space ++ word "sharing",
    word "without" ++ space ++ word "sharing", word "inherited" ++ space ++ word "sharing"]

def typeLine : Pattern :=
  start ++ blanks ++ optional (visibility ++ blanks) ++ optional (typeModifier ++ blanks) ++
    oneOf [word "class", word "interface", word "enum"] ++ space ++ name

/-- A type and a name in front of a brace that an accessor follows. -/
def propertyLine : Pattern :=
  start ++ some1 typeChar ++ space ++ name ++ blanks ++ char '{' ++ blanks ++
    optional (visibility ++ space) ++ oneOf [word "get", word "set"] ++ blanks ++
    one (fun c => c == ';' || c == '{')

-- A call of the enclosing class, with no type in front.
def constructorLine (className : Text) : Pattern :=
  start ++ blanks ++ optional (visibility ++ blanks) ++ anyCase className ++ blanks ++ char '('

def className? (text : Text) : Option Text :=
  capture (edge ++ word "class" ++ space) name empty text

def classOrInterface : Pattern := edge ++ oneOf [word "class", word "interface"] ++ edge

def enumHeader : Pattern := edge ++ word "enum" ++ space ++ name

/-- Whether the nearest type header at or above a line is that of an enum. A line that names a class
or an interface is no enum header. -/
def insideEnum (windows : Windows) (doc : Document) (line : Int) : Except OutOfRange Bool := do
  let nearest ← scanUp line (max 0 (line - windows.enumBlock)) fun i => do
    let text := Comment.stripLine (← doc.line i)
    return if classOrInterface.matchesIn text then some false
      else if enumHeader.matchesIn text then some true else none
  return nearest.getD false

def enclosingName? (windows : Windows) (doc : Document) (line : Int) :
    Except OutOfRange (Option Text) :=
  enclosingClass? className? windows.enclosingType doc line

def callsEnclosingClass (windows : Windows) (doc : Document) (line : Int) (text : Text) :
    Except OutOfRange Bool := do
  match ← enclosingName? windows doc line with
  | some className => return (constructorLine className).matchesIn text
  | none => return false

def rules (windows : Windows) : List Rule :=
  [{ name := "enum_value", kind := .enumValue, pattern := enumValueLine
     surroundings := fun doc line _ => insideEnum windows doc line },
   { name := "constructor", kind := .constructor, surroundings := callsEnclosingClass windows },
   { name := "method", kind := .method, pattern := methodLine },
   { name := "type", kind := .type, pattern := typeLine },
   { name := "property", kind := .property, pattern := propertyLine }]

def annotationName : AnnotationName := ⟨isWord, isWord⟩

/-- The line nearest to a declaration, at or above it first and then below, that `shape` matches. -/
def nearestLike (shape : Pattern) (window : Int) (doc : Document) (line : Int) :
    Except OutOfRange (Option Int) := do
  let hit (i : Int) : Except OutOfRange (Option Int) := do
    let text := annotationName.strip (Comment.stripLine (← doc.line i))
    return if shape.matchesIn text then some i else none
  match ← scanUp line (max 0 (line - window)) hit with
  | some i => return some i
  | none => scanDown (line + 1) (min (doc.count - 1) (line + window)) hit

def signatureStart (windows : Windows) (doc : Document) (line : Int) (kind : Kind) :
    Except OutOfRange (Option Int) := do
  match kind with
  | .constructor =>
    match ← enclosingName? windows doc line with
    | some className => nearestLike (constructorLine className) windows.signature doc line
    | none => return none
  | .method => nearestLike methodLine windows.signature doc line
  | _ => return none

def tag (name : String) : Pattern :=
  start ++ char '*' ++ blanks ++ literal name.toList ++ edge

def markers : Markers where
  param := tag "@param"
  description := tag "@description"
  returns := start ++ optional (char '*') ++ blanks ++ literal "@return".toList ++ edge
  sample := tag "@example"
  returnLine := fun stop => " * @return $\x7b".toList ++ stop ++ ":description\x7d".toList

/-- The last word of a segment, less what a name cannot hold. -/
def parameterName (segment : Text) : Text :=
  segment.lastWord.filter fun c => c.isAlphanum || c == '_'

def grammar (windows : Windows) : Grammar where
  dialect := .apex
  windows := windows
  extensions := [".apex", ".cls", ".trigger"]
  kinds := [.type, .constructor, .enumValue, .method, .property]
  signatureKinds := [.constructor, .method]
  rules := rules windows
  markers := markers
  nesting := [('(', ')'), ('<', '>'), ('[', ']'), ('\x7b', '\x7d')]
  annotationName := annotationName
  isAnnotationLine := fun text => text.trim.head? == some '@'
  className? := className?
  signatureStart := signatureStart windows
  signatureEnd := char ')' ++ blanks ++ (one (fun c => c == '\x7b' || c == ';') ||| stop)
  bareParameters? := fun _ => none
  parameterName := parameterName

end Docblock.Apex
