import Docblock.Comment

/-! Aura helpers: files whose first code opens an object literal in parentheses. -/

set_option autoImplicit false

namespace Docblock.AuraFile

def opensHelper (text : Text) : Bool :=
  match text.trim with
  | '(' :: rest => (Text.trimLeft rest).head? == some '\x7b'
  | _ => false

/-- Blank lines and line comments, which may stand before the first code. -/
def beforeCode (text : Text) : Bool :=
  text.blank || "//".toList.isPrefixOf text.trim

structure Preamble where
  isHelper : Bool
  firstCode : Int
  deriving DecidableEq, Repr

/-- Skips an interpreter line, blank lines and line comments. -/
def preamble (doc : Document) : Except OutOfRange Preamble := do
  if doc.lines.isEmpty then return ⟨false, 0⟩
  let top : Int := if "#!".toList.isPrefixOf (← doc.line 0) then 1 else 0
  let first ← skipDown (fun i => return beforeCode (← doc.line i)) (doc.count - top).toNat top
  if doc.count ≤ first then return ⟨false, first⟩
  return ⟨opensHelper (← doc.line first), first⟩

/-- Whether a doc comment block opens on one of the lines before `line`, with no code above it. -/
def hasHeader (doc : Document) (line : Int) : Except OutOfRange Bool := do
  let verdict ← scanDown 0 (min line doc.count - 1) fun i => do
    let text ← doc.line i
    return if Comment.opener.isPrefixOf text.trim then some true
      else if beforeCode text then none else some false
  return verdict.getD false

end Docblock.AuraFile
