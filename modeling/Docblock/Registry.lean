import Docblock.Entries
import Docblock.Event
import Docblock.Grammar.Apex
import Docblock.Grammar.JavaScript

/-! The grammars that are known, looked up by dialect, editor language or file extension. -/

set_option autoImplicit false

namespace Docblock

def Dialect.grammar : Dialect → Windows → Grammar
  | .apex => Apex.grammar
  | .javaScript => JavaScript.grammar

theorem Dialect.dialect_grammar (dialect : Dialect) (windows : Windows) :
    (dialect.grammar windows).dialect = dialect := by
  cases dialect <;> rfl

theorem Dialect.extensions_grammar (dialect : Dialect) (windows : Windows) :
    (dialect.grammar windows).extensions = (dialect.grammar {}).extensions := by
  cases dialect <;> rfl

def Grammar.summary (grammar : Grammar) : String :=
  let name := match grammar.dialect with
    | .apex => "ApexGrammar"
    | .javaScript => "JavaScriptGrammar"
  name ++ "(dialect='" ++ grammar.dialect.name ++ "')"

/-- The grammars in the order in which their dialects were first registered, and for each extension of
a file the dialect that was last registered with it. -/
structure Registry where
  grammars : Entries Dialect Grammar
  owners : Entries Text Dialect

namespace Registry

def empty : Registry := ⟨[], []⟩

/-- Replaces the grammar of a dialect in its place, or adds it at the end. All its extensions are the
dialect's from then on. -/
def register (registry : Registry) (grammar : Grammar) : Registry where
  grammars := Entries.set grammar.dialect grammar registry.grammars
  owners := grammar.extensions.foldl (fun owners extension => Entries.set extension.toList grammar.dialect owners)
    registry.owners

def registerEvent (grammar : Grammar) : Event :=
  .grammarRegistered grammar.dialect grammar.extensions

def full (windows : Windows) : Registry :=
  Dialect.all.foldl (fun registry dialect => registry.register (dialect.grammar windows)) empty

def fullEvents (windows : Windows) : List Event :=
  Dialect.all.map (fun dialect => registerEvent (dialect.grammar windows)) ++ [.registryReady Dialect.all]

def dialects (registry : Registry) : List Dialect := registry.grammars.map (·.1)

def extensions (registry : Registry) : List String := registry.owners.map (String.ofList ·.1)

def ofDialect? (registry : Registry) (dialect : Dialect) : Option Grammar :=
  registry.grammars.lookup dialect

def ofLanguage? (registry : Registry) (id : Text) : Option Grammar :=
  (Dialect.ofLanguage? id).bind registry.ofDialect?

/-- The extension of a file's name in lower case, with its dot; empty if the name has no dot. Both kinds
of slashes end a folder. -/
def extension (path : Text) : Text :=
  let name := path.reverse.takeWhile fun c => c != '/' && c != '\\'
  if name.contains '.' then '.' :: Text.lower (name.takeWhile (· != '.')).reverse else []

def ofFile? (registry : Registry) (path : Text) : Option Grammar :=
  (registry.owners.lookup (extension path)).bind registry.ofDialect?

def supports (registry : Registry) (path : Text) : Bool := (registry.ofFile? path).isSome

end Registry

end Docblock
