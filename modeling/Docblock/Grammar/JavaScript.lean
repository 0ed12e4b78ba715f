import Docblock.Grammar

/-! The grammar of JavaScript and TypeScript, from web components to object literals. Its rules look at
a single line; the one for properties is rough and takes plain assignments too. -/

set_option autoImplicit false

namespace Docblock.JavaScript

open Pattern

def word (keyword : String) : Pattern := literal keyword.toList

def nameStart (c : Char) : Bool := c.isAlpha || c == '_' || c == '$'

def nameChar (c : Char) : Bool := isWord c || c == '$'

def name : Pattern := one nameStart ++ many nameChar

-- Words that open a statement with parentheses, not a method.
def control : Pattern :=
  oneOf [word "if", word "for", word "while", word "switch", word "catch", word "with",
    word "function", word "return"] ++ edge

def methodModifiers : Pattern :=
  star (oneOf [word "public", word "private", word "protected", word "static", word "async",
    word "get", word "set", word "override", word "readonly"] ++ space)

/-- `name(...) {`, perhaps with modifiers, type parameters and a return type. -/
def methodLine : Pattern :=
  start ++ blanks ++ absent control ++ methodModifiers ++ absent control ++ name ++ blanks ++
    optional (char '<' ++ many (· != '>') ++ char '>' ++ blanks) ++
    char '(' ++ many (· != ')') ++ char ')' ++ blanks ++
    optional (char ':' ++ some1 (fun c => c != '\x7b' && c != '=')) ++ char '\x7b'

def asyncWord : Pattern := optional (word "async" ++ space)

def generatorStar : Pattern := blanks ++ optional (char '*' ++ blanks)

/-- `name: function (...)`, as object literals write methods. -/
def objectMethodLine : Pattern :=
  start ++ blanks ++ name ++ blanks ++ char ':' ++ blanks ++ asyncWord ++ word "function" ++ edge ++
    generatorStar ++ char '('

def exportWord : Pattern := optional (word "export" ++ space)

def exportDefault : Pattern := optional (word "export" ++ space ++ optional (word "default" ++ space))

def functionLine : Pattern :=
  start ++ blanks ++ exportDefault ++ asyncWord ++ word "function" ++ edge ++ generatorStar ++ name ++
    blanks ++ char '('

def variableHead : Pattern :=
  start ++ blanks ++ exportWord ++ oneOf [word "const", word "let", word "var"] ++ space ++ name ++ blanks

def functionVariableLine : Pattern :=
  variableHead ++ optional (char ':' ++ some1 (· != '=')) ++ char '=' ++ blanks ++
    optional (word "async" ++ blanks) ++
    oneOf [char '(', word "function" ++ edge, name ++ blanks ++ word "=>"]

def classLine : Pattern :=
  start ++ blanks ++ exportDefault ++ optional (word "abstract" ++ space) ++ word "class" ++ space ++ name

def fieldModifiers : Pattern :=
  star (oneOf [word "public", word "private", word "protected", word "static", word "readonly",
    word "declare"] ++ space)

def fieldMark : Pattern := optional (one (fun c => c == '?' || c == '!') ++ blanks)

def propertyLine : Pattern :=
  start ++ blanks ++ fieldModifiers ++ optional (char '#') ++ name ++ blanks ++ fieldMark ++
    one (fun c => c == ':' || c == '=')

def fieldLine : Pattern :=
  start ++ blanks ++ fieldModifiers ++
    absent (oneOf [word "return", word "break", word "continue", word "debugger"] ++ edge) ++
    optional (char '#') ++ name ++ blanks ++ fieldMark ++ char ';' ++ blanks ++ stop

def variableLine : Pattern :=
  variableHead ++ (one (fun c => c == '=' || c == ':' || c == ';') ||| stop)

def rules : List Rule :=
  [{ name := "method_shorthand", kind := .method, pattern := methodLine },
   { name := "object_method", kind := .method, pattern := objectMethodLine },
   { name := "function_0", kind := .function, pattern := functionLine },
   { name := "function_1", kind := .function, pattern := functionVariableLine },
   { name := "class", kind := .type, pattern := classLine },
   { name := "property", kind := .property, pattern := propertyLine },
   { name := "class_field", kind := .property, pattern := fieldLine },
   { name := "variable", kind := .var, pattern := variableLine }]

def className? (text : Text) : Option Text :=
  capture (edge ++ word "class" ++ space) name empty text

def isAnnotationLine (text : Text) : Bool :=
  match text.trim with
  | '@' :: c :: _ => nameStart c
  | _ => false

/-- The parameter of an arrow function that is written without parentheses. -/
def bareParameter? (text : Text) : Option Text :=
  capture
    (variableHead ++ optional (char ':' ++ some1 (· != '=')) ++ char '=' ++ blanks ++ asyncWord)
    name (blanks ++ word "=>") text

def tag (name : Pattern) : Pattern := start ++ char '*' ++ blanks ++ name ++ edge

def looseTag (name : Pattern) : Pattern := start ++ optional (char '*') ++ blanks ++ name ++ edge

def markers : Markers where
  param := looseTag (word "@param")
  description := tag (word "@description")
  returns := looseTag (word "@return" ++ optional (char 's'))
  sample := tag (word "@example")
  returnLine := fun stop => " * @returns \x7bany\x7d $\x7b".toList ++ stop ++ ":What is returned\x7d".toList

/-- The segment up to its default value and its type, less brackets and what a name cannot hold. -/
def parameterName (segment : Text) : Text :=
  let target := (segment.cutAt ['=']).filter fun c => !"\x7b\x7d[]".toList.contains c
  (Text.trim (target.takeWhile (· != ':'))).filter nameChar

-- Braces do not nest: the names in a destructured parameter are parameters of their own.
def nesting : List (Char × Char) := [('(', ')'), ('<', '>')]

def grammar (windows : Windows) : Grammar where
  dialect := .javaScript
  windows := windows
  extensions := [".cjs", ".js", ".jsx", ".mjs", ".ts", ".tsx"]
  kinds := [.type, .function, .method, .property, .var]
  signatureKinds := [.function, .method]
  rules := rules
  markers := markers
  nesting := nesting
  annotationName := ⟨nameStart, nameChar⟩
  isAnnotationLine := isAnnotationLine
  className? := className?
  signatureStart := fun _ line kind =>
    .ok (if kind = .function ∨ kind = .method then some line else none)
  signatureEnd := char ')' ++ blanks ++
    oneOf [char '\x7b', char ';', word "=>", char ':', stop]
  bareParameters? := fun text => (bareParameter? text).map ([·])
  parameterName := parameterName

end Docblock.JavaScript
