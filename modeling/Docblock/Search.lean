import Docblock.AnnotationRun

/-! The search for the declaration that a focus line belongs to. A hit above wins over one below; a
focus on or next to an annotation run is led to the declaration under the run first. -/

set_option autoImplicit false

namespace Docblock

inductive Way where
  | annotationRun
  | up
  | down
  deriving DecidableEq, Repr

def Way.name : Way → String
  | annotationRun => "annotation_run"
  | up => "up"
  | down => "down"

inductive Search where
  /-- No search was made, as in a document that has no line to start from. -/
  | idle
  | missed (focus : Int)
  | found (focus : Int) (site : Site) (way : Way)
  deriving DecidableEq, Repr

namespace Search

def site? : Search → Option Site
  | found _ site _ => some site
  | _ => none

def siteAt (grammar : Grammar) (doc : Document) (line : Int) : Except OutOfRange (Option Site) := do
  return (← grammar.kindAt doc line).map (⟨·, line.toNat⟩)

/-- The nearest site in the declaration window, at the focus or above it first. -/
def nearest (grammar : Grammar) (doc : Document) (focus : Int) : Except OutOfRange Search := do
  let window := grammar.windows.declaration
  match ← scanUp focus (max 0 (focus - window)) (siteAt grammar doc) with
  | some site => return found focus site .up
  | none =>
    match ← scanDown (focus + 1) (min (doc.count - 1) (focus + window)) (siteAt grammar doc) with
    | some site => return found focus site .down
    | none => return missed focus

/-- The search from a line, which is first moved into the document. -/
def run (grammar : Grammar) (doc : Document) (line : Int) : Except OutOfRange Search := do
  if doc.lines.isEmpty then return idle
  let focus := doc.clamp line
  if ← AnnotationRun.touches grammar doc focus then
    if let some site ← AnnotationRun.nextDeclaration grammar doc focus then
      return found focus site .annotationRun
  nearest grammar doc focus

end Search

def locate (grammar : Grammar) (doc : Document) (line : Int) : Except OutOfRange (Option Site) := do
  return (← Search.run grammar doc line).site?

end Docblock
