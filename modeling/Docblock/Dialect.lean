import Docblock.Text.Blank
import Docblock.Text.LowerCase
import Docblock.Text.Quoted

/-! The two dialects and the names under which editors know them. -/

set_option autoImplicit false

namespace Docblock

/-- `javaScript` includes TypeScript. -/
inductive Dialect where
  | apex
  | javaScript
  deriving DecidableEq, Repr

namespace Dialect

def name : Dialect → String
  | apex => "apex"
  | javaScript => "javascript"

def all : List Dialect := [apex, javaScript]

theorem mem_all (dialect : Dialect) : dialect ∈ all := by
  cases dialect <;> decide

def ofName? (name : Text) : Option Dialect := all.find? (·.name.toList == name)

structure Unknown where
  name : Text
  deriving DecidableEq, Repr

def Unknown.message (error : Unknown) : String :=
  String.ofList error.name.quoted ++ " is not a valid Dialect"

def read (name : Text) : Except Unknown Dialect :=
  match ofName? name with
  | some dialect => .ok dialect
  | none => .error ⟨name⟩

def folder : Dialect → String
  | apex => "ApexDoc"
  | javaScript => "JSDoc"

def languages : List (String × Dialect) :=
  [("apex", apex), ("javascript", javaScript), ("javascriptreact", javaScript),
   ("typescript", javaScript), ("typescriptreact", javaScript)]

/-- The dialect of a language identifier; case and surrounding blanks do not matter. -/
def ofLanguage? (id : Text) : Option Dialect :=
  (languages.find? (·.1.toList == id.trim.lower)).map (·.2)

theorem ofName?_name (dialect : Dialect) : ofName? dialect.name.toList = some dialect := by
  cases dialect <;> decide

end Dialect

end Docblock
