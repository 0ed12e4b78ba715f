import Docblock.Grammar

/-! Runs of annotation lines: which lines touch one, what they belong to, and where a comment goes so
that it does not part them from their declaration. -/

set_option autoImplicit false

namespace Docblock.AnnotationRun

def blankOrBare (grammar : Grammar) (doc : Document) (line : Int) : Except OutOfRange Bool := do
  if (← doc.line line).blank then return true else grammar.bareAnnotationAt doc line

-- What one line says about a walk in search of an annotation: it is one, it ends the walk, or,
-- being blank, it says nothing.
def verdict (grammar : Grammar) (doc : Document) (line : Int) : Except OutOfRange (Option Bool) := do
  if (← doc.line line).blank then return none else return some (← grammar.bareAnnotationAt doc line)

/-- Whether a line is a bare annotation or touches one, with at most blank lines between. -/
def touches (grammar : Grammar) (doc : Document) (line : Int) : Except OutOfRange Bool := do
  if line < 0 ∨ doc.count ≤ line then return false
  if ← grammar.bareAnnotationAt doc line then return true
  let window := grammar.windows.annotationRun
  let above ← scanUp line (max 0 (line - window)) (verdict grammar doc)
  if above = some true then return true
  let below ← scanDown line (min (doc.count - 1) (line + window)) (verdict grammar doc)
  return below = some true

/-- The first declaration at or below the end of the run of blank and annotation lines at a line. -/
def nextDeclaration (grammar : Grammar) (doc : Document) (line : Int) :
    Except OutOfRange (Option Site) := do
  let top := max 0 line
  let first ← skipDown (blankOrBare grammar doc) (doc.count - top).toNat top
  scanDown first (min (doc.count - 1) (first + grammar.windows.declaration)) fun i => do
    return (← grammar.kindAt doc i).map (⟨·, i.toNat⟩)

/-- The line above which a comment on the declaration at a line goes: above the blank lines that stand
over the declaration, and above the annotations that stand over those. -/
def insertionLine (grammar : Grammar) (doc : Document) (line : Int) : Except OutOfRange Nat := do
  let below ← skipUp (fun i => return (← doc.line i).blank) (min line doc.count).toNat
  skipUp (grammar.bareAnnotationAt doc) below

end Docblock.AnnotationRun
