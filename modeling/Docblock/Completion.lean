import Docblock.Search

/-! Completion inside doc comments: the tags that suit the declaration, then inline references. -/

set_option autoImplicit false

namespace Docblock

inductive CompletionKind where
  | keyword
  | snippet
  deriving DecidableEq, Repr

def CompletionKind.name : CompletionKind → String
  | keyword => "keyword"
  | snippet => "snippet"

structure Completion where
  label : String
  insertText : String
  kind : CompletionKind
  detail : String
  replaces : Option (Int × Int) := none
  deriving DecidableEq, Repr

namespace Completion

/-- The characters after which an editor asks for completions. -/
def triggers : Dialect → List String
  | .apex => ["@", "\x7b", "<"]
  | .javaScript => ["@", "\x7b"]

def commonTags : Dialect → List String
  | .apex => ["@description", "@example", "@author", "@date", "@group", "@group-content", "@see"]
  | .javaScript => ["@description", "@deprecated", "@see"]

def kindTags : Dialect → Kind → List String
  | .apex, .method | .apex, .constructor => ["@param", "@return", "@throws"]
  | .javaScript, .function | .javaScript, .method =>
    ["@param", "@returns", "@throws", "@example", "@async"]
  | .javaScript, .var | .javaScript, .property => ["@type", "@private", "@public", "@readonly"]
  | _, _ => []

def inlineReferences : Dialect → List (String × String)
  | .apex =>
    [("<<TypeName>>", "<<$\x7b1:TypeName\x7d>>"),
     ("\x7b@link TypeName\x7d", "\x7b@link $\x7b1:TypeName\x7d\x7d")]
  | .javaScript =>
    [("\x7b@link TypeOrURL\x7d", "\x7b@link $\x7b1:TypeOrURL\x7d\x7d"),
     ("\x7b@linkcode TypeOrURL\x7d", "\x7b@linkcode $\x7b1:TypeOrURL\x7d\x7d")]

def defaultKind : Dialect → Kind
  | .apex => .type
  | .javaScript => .function

def tagDetail : Dialect → String
  | .apex => "ApexDoc tag"
  | .javaScript => "JSDoc tag"

def all (dialect : Dialect) (kind : Kind) (replaces : Option (Int × Int)) : List Completion :=
  (commonTags dialect ++ kindTags dialect kind).map (fun tag =>
    { label := tag, insertText := tag ++ " ", kind := .keyword, detail := tagDetail dialect, replaces }) ++
  (inlineReferences dialect).map fun (label, snippet) =>
    { label, insertText := snippet, kind := .snippet, detail := "Inline reference" }

/-- The first line under the comment block that has text; the line itself if there is none. -/
def focus (grammar : Grammar) (doc : Document) (line : Int) : Except OutOfRange Int := do
  match ← Comment.blockEnd doc line grammar.windows.commentLookback with
  | none => return line
  | some last =>
    let below := last + 1
    let first ← skipDown (fun i => return (← doc.line i).blank) (doc.count - below).toNat below
    return if first < doc.count then first else line

-- An at sign just in front of the cursor, which the inserted text replaces.
def atSign (doc : Document) (line character : Int) : Except OutOfRange (Option (Int × Int)) := do
  if character ≤ 0 ∨ doc.count ≤ line then return none
  let text ← doc.line line
  return if text[character.toNat - 1]? = some '@' then some (character - 1, character) else none

/-- The completions at a cursor, and the search for the declaration they suit. Outside doc comments
there are none. -/
def suggest (grammar : Grammar) (doc : Document) (line character : Int) :
    Except OutOfRange (Search × List Completion) := do
  if !(← Comment.inside doc line grammar.windows.commentLookback) then return (.idle, [])
  let search ← Search.run grammar doc (← focus grammar doc line)
  let replaces ← atSign doc line character
  let kind := (search.site?.map (·.kind)).getD (defaultKind grammar.dialect)
  return (search, all grammar.dialect kind replaces)

end Completion

end Docblock
