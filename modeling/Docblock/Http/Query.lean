import Docblock.Json.Charset
import Docblock.Lenient

/-! The bodies of requests: a document, how its dialect is told, and a place in it. -/

set_option autoImplicit false

namespace Docblock.Http

inductive BodyError where
  | empty
  | notJson
  /-- It does not fit its encoding, a number in it is too long, or it is too deep. -/
  | unreadable
  deriving DecidableEq, Repr

/-- Reads a body in which no more than `depth` arrays and objects stand in each other. -/
def readBody (depth : Nat) (body : ByteArray) : Except BodyError Json :=
  if body.isEmpty then .error .empty
  else match Json.decodeBytes body with
    | none => .error .unreadable
    | some text =>
      match Json.read depth text with
      | .ok value => .ok (value.map Points.toText)
      | .error (.malformed ..) => .error .notJson
      | .error (.tooLong _) | .error (.tooDeep _) => .error .unreadable

structure Source where
  text : Text
  language : Option Text
  filePath : Option Text
  deriving DecidableEq, Repr

structure LineQuery where
  source : Source
  line : Int
  deriving DecidableEq, Repr

structure CursorQuery where
  source : Source
  line : Int
  character : Int
  deriving DecidableEq, Repr

-- The hints on the dialect in the order in which they are tried: the language, then the path. One
-- that is empty is none.
def Source.language? (source : Source) : Option Text := source.language.filter (!·.isEmpty)

def Source.filePath? (source : Source) : Option Text := source.filePath.filter (!·.isEmpty)

namespace Query

def bodyPlace : List Text := ["body".toList]

def place (name : String) : List Text := ["body".toList, name.toList]

def required {α : Type} (body : Json) (name : String) (convert : Json → Except Fault α) : Checked α :=
  match body.field? name with
  | some given => Checked.value (place name) convert given
  | none => .bad [⟨some (place name), .missing, body⟩]

def optional {α : Type} (body : Json) (name : String) (convert : Json → Except Fault α) (default : α) :
    Checked α :=
  match body.field? name with
  | some given => Checked.value (place name) convert given
  | none => .good default

def readSource (body : Json) : Checked Source :=
  Source.mk <$> required body "text" Lenient.text
    <*> optional body "language" (Lenient.optional Lenient.text) none
    <*> optional body "file_path" (Lenient.optional Lenient.text) none

def readLineQuery (body : Json) : Checked LineQuery :=
  LineQuery.mk <$> readSource body <*> required body "line" Lenient.natural

def readCursorQuery (body : Json) : Checked CursorQuery :=
  (fun (query : LineQuery) character => ⟨query.source, query.line, character⟩) <$> readLineQuery body
    <*> optional body "character" Lenient.natural 0

/-- Reads a query from an object, which has to tell the dialect in one way or the other. -/
def read {α : Type} (fields : Json → Checked α) (source : α → Source) (body : Json) : Checked α :=
  match body with
  | .object _ =>
    (fields body).ensure
      (fun query => (source query).language?.isSome || (source query).filePath?.isSome)
      ⟨some bodyPlace, .rule "either language or file_path is required", body⟩
  | _ => .bad [⟨some bodyPlace, .notObject, body⟩]

end Query

end Docblock.Http
