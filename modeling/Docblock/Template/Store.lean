import Docblock.Template

/-! Stores of template files, and the cache in front of a store. -/

set_option autoImplicit false

namespace Docblock.Template

abbrev Path := List Text

namespace Path

def ofText (text : Text) : Path :=
  (text.splitOn '/').filter fun part => !part.isEmpty && part != ['.']

def fileName (name : Text) : Text := name ++ ".json".toList

def ofTemplate (dialect : Dialect) (name : Text) : Path :=
  dialect.folder.toList :: ofText (fileName name)

def toText (path : Path) : Text := Text.join ['/'] path

-- The slashes that a path keeps in front: two stay two, more are one.
def slashes (text : Text) : Nat :=
  match (text.takeWhile (· == '/')).length with
  | 0 => 0
  | 2 => 2
  | _ => 1

end Path

inductive File where
  | bytes (content : ByteArray)
  | body (lines : List Text)
  /-- A file that the system does not let be read. -/
  | locked (reason : String)

/-- The limits of the system around a store. How many JSON values may stand in each other depends on the
calls that are under way, but there is always room for those of a template. -/
structure Limits where
  depth : Nat := 960
  depth_suffices : 3 ≤ depth := by decide
  partBytes : Nat := 255
  pathBytes : Nat := 4095
  /-- The bytes of a path that lead to the root of the store. -/
  rootBytes : Nat := 0

/-- A tree of files. A folder that was once made stays, even when its files are deleted. -/
structure Store where
  files : List (Path × File)
  folders : List Path
  /-- The folders that the system lets nobody look into. -/
  closed : List Path := []
  limits : Limits := {}

/-- Why the system does not tell whether there is a file. -/
inductive Refusal where
  | tooLong
  | closed
  deriving DecidableEq, Repr

def Refusal.message : Refusal → String
  | tooLong => "File name too long"
  | closed => "Permission denied"

inductive Defect where
  | notJson (words : String)
  | noBody
  | locked (reason : String)
  deriving DecidableEq, Repr

inductive Error where
  | notFound (dialect : Dialect) (name : Text)
  | invalid (dialect : Dialect) (name : Text) (defect : Defect)
  | refused (dialect : Dialect) (name : Text) (refusal : Refusal)
  | notText
  | tooLong (limit : DigitLimit)
  | tooDeep (innermost : Json.Container)
  deriving DecidableEq, Repr

def Defect.message : Defect → String
  | notJson words => words
  | noBody => "no body array found"
  | locked reason => reason

def shownPath (dialect : Dialect) (name : Text) : String :=
  dialect.folder ++ "/" ++ String.ofList name ++ ".json"

def Error.message : Error → String
  | notFound dialect name => "Template not found: " ++ shownPath dialect name
  | invalid dialect name defect =>
    "Invalid template format in " ++ shownPath dialect name ++ ": " ++ defect.message
  | refused dialect name refusal => refusal.message ++ ": " ++ shownPath dialect name
  | notText => "the template file is not UTF-8 text"
  | tooLong limit => limit.message
  | tooDeep .array => "maximum recursion depth exceeded while decoding a JSON array from a unicode string"
  | tooDeep .object => "maximum recursion depth exceeded while decoding a JSON object from a unicode string"

/-- Whether an error is one of the two that a caller is told about. -/
def Error.isReported : Error → Bool
  | notFound .. | invalid .. => true
  | refused .. | notText | tooLong _ | tooDeep _ => false

/-- How a template is looked for: the bytes in front of its path, the folder where the path starts, if that lies in
the store, and the path. -/
structure Route where
  frontBytes : Nat
  start? : Option Path
  path : Path

def Route.bytes (route : Route) : Nat := route.frontBytes + route.path.toText.utf8Bytes

/-- What a route comes to: a file or nothing, unless the system refuses to look. -/
inductive Found where
  | file (file : File)
  | nothing
  | refused (refusal : Refusal)

namespace Store

def bundled : Store where
  files := Dialect.all.flatMap fun dialect =>
    (Template.bundled dialect).map fun (name, lines) =>
      ([dialect.folder.toList, (name ++ ".json").toList], .body (lines.map String.toList))
  folders := Dialect.all.map fun dialect => [dialect.folder.toList]

def empty : Store := { files := [], folders := [] }

def write (store : Store) (path : Path) (content : ByteArray) : Store :=
  { store with
    files := (path, .bytes content) :: store.files.filter (·.1 != path)
    folders := (List.range path.length).map path.take ++ store.folders }

def delete (store : Store) (path : Path) : Store :=
  { store with files := store.files.filter (·.1 != path) }

/-- Walks along a path, from a folder whose parts are given last first, or from outside of the store, where
nothing is found. Two dots lead to the folder above. No part but the last may be missing. A folder is closed
to the walk, and a part is too long, only if the walk comes to it. -/
def walk (store : Store) : Option Path → Path → Found
  | _, [] => .nothing
  | folder?, part :: rest =>
    if folder?.any fun folder => store.closed.contains folder.reverse then .refused .closed
    else if part = "..".toList then
      match folder? with
      | some (_ :: above) => walk store (some above) rest
      | _ => walk store none rest
    else if store.limits.partBytes < part.utf8Bytes then .refused .tooLong
    else match folder? with
      | none => .nothing
      | some folder =>
        let path := (part :: folder).reverse
        if rest.isEmpty then (store.files.lookup path).elim .nothing .file
        else if path ∈ store.folders then walk store (some (part :: folder)) rest
        else .nothing

def route (store : Store) (dialect : Dialect) (name : Text) : Route :=
  match Path.slashes name with
  | 0 => ⟨store.limits.rootBytes, some [], Path.ofTemplate dialect name⟩
  | slashes => ⟨slashes, none, Path.ofText (Path.fileName name)⟩

def follow (store : Store) (route : Route) : Found :=
  if store.limits.pathBytes < route.bytes then .refused .tooLong else store.walk route.start? route.path

/-- Looks for the file of a template. A name that holds NUL has none. -/
def find (store : Store) (dialect : Dialect) (name : Text) : Found :=
  if name.contains '\x00' then .nothing else store.follow (store.route dialect name)

def file? (store : Store) (dialect : Dialect) (name : Text) : Option File :=
  match store.find dialect name with
  | .file file => some file
  | .nothing | .refused _ => none

def readText (limits : Limits) (dialect : Dialect) (name text : Text) : Except Error (List Points) :=
  match Json.read limits.depth text with
  | .error (.malformed complaint rest) => .error (.invalid dialect name (.notJson (complaint.wordsAt text rest)))
  | .error (.tooLong limit) => .error (.tooLong limit)
  | .error (.tooDeep innermost) => .error (.tooDeep innermost)
  | .ok value =>
    match body? value with
    | some lines => .ok lines
    | none => .error (.invalid dialect name .noBody)

def readBytes (limits : Limits) (dialect : Dialect) (name : Text) (content : ByteArray) :
    Except Error (List Points) :=
  match String.fromUTF8? content with
  | none => .error .notText
  | some text => readText limits dialect name text.toList

def load (store : Store) (dialect : Dialect) (name : Text) : Except Error (List Points) :=
  match store.find dialect name with
  | .nothing => .error (.notFound dialect name)
  | .refused refusal => .error (.refused dialect name refusal)
  | .file (.bytes content) => readBytes store.limits dialect name content
  | .file (.body lines) => .ok (lines.map Points.ofText)
  | .file (.locked reason) => .error (.invalid dialect name (.locked reason))

end Store

/-- The bodies that were loaded before. Only successes are kept, and for good. -/
abbrev Cache := List ((Dialect × Text) × List Points)

/-- The body of a template, what the cache holds afterwards, and whether the store was read. -/
structure Fetched where
  rows : List Points
  cache : Cache
  loaded : Bool
  deriving DecidableEq, Repr

/-- The body as plans show it. -/
def Fetched.lines (fetched : Fetched) : List Text := fetched.rows.map Points.toText

def Cache.get (cache : Cache) (store : Store) (dialect : Dialect) (name : Text) :
    Except Error Fetched :=
  match cache.lookup (dialect, name) with
  | some rows => .ok ⟨rows, cache, false⟩
  | none => (store.load dialect name).map fun rows => ⟨rows, cache ++ [((dialect, name), rows)], true⟩

end Docblock.Template
