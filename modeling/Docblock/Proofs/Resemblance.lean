import Docblock.Proofs.Scanning
import Docblock.Search

/-! Documents that a search cannot tell apart. Of a line it sees no more than whether it is blank, whether it is
an annotation and what it declares. -/

set_option autoImplicit false

namespace Docblock

/-- Line by line the two documents are blank alike, annotations alike, and declare the same. -/
structure Grammar.Alike (grammar : Grammar) (doc other : Document) : Prop where
  count : doc.count = other.count
  blank : ∀ line, (doc.line line).map Text.blank = (other.line line).map Text.blank
  annotation : ∀ line,
    (doc.line line).map grammar.isAnnotationLine = (other.line line).map grammar.isAnnotationLine
  kindAt : grammar.kindAt doc = grammar.kindAt other

-- Steps that see no more of a value than the two values have in common go on alike.
theorem bind_congr_seen {ε α β γ : Type} (seen : α → β) {first second : Except ε α}
    (same : first.map seen = second.map seen) {next next_too : α → Except ε γ}
    (goes_on : ∀ value other, seen value = seen other → next value = next_too other) :
    (first >>= next) = (second >>= next_too) := by
  cases first with
  | error error =>
    cases second with
    | error other => simpa [Except.map, bind, Except.bind] using same
    | ok other => simp [Except.map] at same
  | ok value =>
    cases second with
    | error other => simp [Except.map] at same
    | ok other => exact goes_on value other (Except.ok.inj same)

namespace Grammar.Alike
variable {grammar : Grammar} {doc other : Document} (alike : grammar.Alike doc other)
include alike

theorem bareAnnotationAt : grammar.bareAnnotationAt doc = grammar.bareAnnotationAt other := by
  funext line
  refine bind_congr_seen _ (alike.annotation line) fun text text_too same => ?_
  rw [same, alike.kindAt]

theorem blankOrBare : AnnotationRun.blankOrBare grammar doc = AnnotationRun.blankOrBare grammar other := by
  funext line
  refine bind_congr_seen _ (alike.blank line) fun text text_too same => ?_
  rw [same, alike.bareAnnotationAt]

theorem verdict : AnnotationRun.verdict grammar doc = AnnotationRun.verdict grammar other := by
  funext line
  refine bind_congr_seen _ (alike.blank line) fun text text_too same => ?_
  rw [same, alike.bareAnnotationAt]

theorem touches : AnnotationRun.touches grammar doc = AnnotationRun.touches grammar other := by
  funext line
  simp only [AnnotationRun.touches, alike.count, alike.bareAnnotationAt, alike.verdict]

theorem nextDeclaration : AnnotationRun.nextDeclaration grammar doc = AnnotationRun.nextDeclaration grammar other := by
  funext line
  simp only [AnnotationRun.nextDeclaration, alike.count, alike.blankOrBare, alike.kindAt]

theorem nearest : Search.nearest grammar doc = Search.nearest grammar other := by
  have sites : Search.siteAt grammar doc = Search.siteAt grammar other := by
    funext line
    simp only [Search.siteAt, alike.kindAt]
  funext focus
  simp only [Search.nearest, alike.count, sites]

theorem run : Search.run grammar doc = Search.run grammar other := by
  have empty : doc.lines.isEmpty = other.lines.isEmpty := by
    have lengths : doc.lines.length = other.lines.length := alike.count
    cases first : doc.lines <;> cases second : other.lines <;> simp_all
  funext line
  simp only [Search.run, Document.clamp, empty, alike.count, alike.touches, alike.nextDeclaration, alike.nearest]

/-- From each line a search finds the same site in both. -/
theorem locate : Docblock.locate grammar doc = Docblock.locate grammar other := by
  funext line
  simp only [Docblock.locate, alike.run]

end Grammar.Alike

end Docblock
