import Docblock.Proofs.Classification
import Docblock.Proofs.SideBySide
import Docblock.Registry

/-! How far a line looks. What a line declares is told by its own text and, in Apex, by the lines above it that are
looked through for the class and the enum around it. No other line has a say in it, nor the length of the document. -/

set_option autoImplicit false

namespace Docblock

namespace Document

/-- From `top` through `bottom` the lines of the document stand in the other one too, `shift` lines further down. -/
def Moved (doc other : Document) (shift top bottom : Int) : Prop :=
  ∀ i, top ≤ i → i ≤ bottom → other.line (i + shift) = doc.line i

/-- Lines that are moved down in a document whose first lines, as many as they are moved, are empty. -/
structure Sunk (doc other : Document) (depth : Nat) (top bottom : Int) : Prop where
  moved : doc.Moved other depth top bottom
  empty : ∀ i : Int, 0 ≤ i → i < depth → other.line i = .ok []

variable {doc other : Document} {top bottom : Int}

theorem Sunk.narrow {depth : Nat} {first last : Int} (sunk : doc.Sunk other depth top bottom) (from_top : top ≤ first)
    (to_bottom : last ≤ bottom) : doc.Sunk other depth first last where
  moved i above below := sunk.moved i (Int.le_trans from_top above) (Int.le_trans below to_bottom)
  empty := sunk.empty

theorem Sunk.inside {depth : Nat} (sunk : doc.Sunk other depth top bottom) (ordered : top ≤ bottom)
    (above : 0 ≤ bottom) (below : bottom < doc.count) : bottom + depth < other.count := by
  obtain ⟨text, read⟩ := exists_line above below
  exact (line_within ((sunk.moved bottom ordered (Int.le_refl bottom)).trans read)).2

/-- A walk up that is told nothing by empty lines finds the same above a line that has sunk. -/
theorem Sunk.walkUp {β : Type} {view : Text → Option β} {depth : Nat} {window : Int}
    (sunk : doc.Sunk other depth top bottom) (silent : view [] = none) (from_top : top ≤ max 0 (bottom - window)) :
    scanUp (bottom + depth) (max 0 (bottom + depth - window)) (fun i => do return view (← other.line i)) =
      scanUp bottom (max 0 (bottom - window)) (fun i => do return view (← doc.line i)) := by
  have walks : scanUp (bottom + depth) (max 0 (bottom + depth - window)) (fun i => do return view (← other.line i)) =
      (scanUp bottom (max 0 (bottom - window)) (fun i => do return view (← doc.line i))).map (Option.map id) := by
    apply scanUp_sunk
    · intro i above below
      rw [sunk.moved i (Int.le_trans from_top above) below]
      simp
    · intro i above below
      rw [sunk.empty i above below]
      exact congrArg Except.ok silent
  simpa using walks

end Document

section
variable {doc other : Document} {depth : Nat} {top line : Int}

theorem Grammar.enclosingType?_sunk {grammar : Grammar} (unnamed : grammar.className? [] = none)
    (sunk : doc.Sunk other depth top line) (from_top : top ≤ max 0 (line - grammar.windows.enclosingType))
    (below : line < doc.count) (below_too : line + depth < other.count) :
    grammar.enclosingType? other (line + depth) = grammar.enclosingType? doc line := by
  unfold enclosingType? enclosingClass?
  rw [Int.min_eq_left (by omega), Int.min_eq_left (by omega)]
  exact sunk.walkUp (show grammar.className? (Comment.stripLine []) = none from unnamed) from_top

namespace Apex
variable {windows : Windows}

theorem insideEnum_sunk (sunk : doc.Sunk other depth top line) (from_top : top ≤ max 0 (line - windows.enumBlock)) :
    insideEnum windows other (line + depth) = insideEnum windows doc line := by
  unfold insideEnum
  rw [sunk.walkUp _ from_top]
  decide

theorem className?_nil : className? [] = none := by decide

theorem kindAt_sunk (sunk : doc.Sunk other depth top line) (ordered : top ≤ line)
    (class_walk : top ≤ max 0 (line - windows.enclosingType)) (enum_walk : top ≤ max 0 (line - windows.enumBlock))
    (below : line < doc.count) (below_too : line + depth < other.count) :
    (grammar windows).kindAt other (line + depth) = (grammar windows).kindAt doc line := by
  have unnamed : (grammar windows).className? [] = none := className?_nil
  have classes : enclosingName? windows other (line + depth) = enclosingName? windows doc line :=
    Grammar.enclosingType?_sunk unnamed sunk class_walk below below_too
  have enums := insideEnum_sunk sunk enum_walk
  have rules_alike (text : Text) : Grammar.firstKind? other (line + depth) text (rules windows) =
      Grammar.firstKind? doc line text (rules windows) := by
    simp only [rules, Grammar.firstKind?, Rule.fires, callsEnclosingClass, classes, enums]
  simp only [Grammar.kindAt, Grammar.declarationText, sunk.moved line ordered (Int.le_refl line)]
  simp only [grammar, rules_alike]

end Apex

theorem JavaScript.kindAt_moved {shift : Int} (windows : Windows) (same : other.line (line + shift) = doc.line line) :
    (grammar windows).kindAt other (line + shift) = (grammar windows).kindAt doc line := by
  rw [kindAt_eq, kindAt_eq, same]

/-! ## Both dialects -/

/-- How many lines above a line have a say in what it declares. -/
def Dialect.reach (windows : Windows) : Dialect → Int
  | .apex => max 0 (max windows.enumBlock windows.enclosingType)
  | .javaScript => 0

theorem Dialect.kindAt_sunk {dialect : Dialect} {windows : Windows}
    (sunk : doc.Sunk other depth (max 0 (line - dialect.reach windows)) line) (above : 0 ≤ line)
    (below : line < doc.count) :
    (dialect.grammar windows).kindAt other (line + depth) = (dialect.grammar windows).kindAt doc line := by
  cases dialect with
  | apex =>
    have reach : Dialect.apex.reach windows = max 0 (max windows.enumBlock windows.enclosingType) := rfl
    rw [reach] at sunk
    exact Apex.kindAt_sunk sunk (by omega) (by omega) (by omega) below (sunk.inside (by omega) above below)
  | javaScript =>
    have reach : Dialect.javaScript.reach windows = 0 := rfl
    rw [reach] at sunk
    exact JavaScript.kindAt_moved windows (sunk.moved line (by omega) (Int.le_refl line))

/-- Documents that have the same lines as far as a line looks declare the same on it. -/
theorem Dialect.kindAt_in_reach (dialect : Dialect) (windows : Windows) (above : 0 ≤ line) (below : line < doc.count)
    (same : ∀ i, max 0 (line - dialect.reach windows) ≤ i → i ≤ line → other.line i = doc.line i) :
    (dialect.grammar windows).kindAt other line = (dialect.grammar windows).kindAt doc line := by
  have sunk : doc.Sunk other 0 (max 0 (line - dialect.reach windows)) line := by
    constructor
    · simpa [Document.Moved] using same
    · intro i _ _
      omega
  simpa using Dialect.kindAt_sunk sunk above below

-- The header of an enum stands too far above the constructor to be seen from it.
theorem Dialect.kindAt_in_reach_of_constructor :
    let windows : Windows := { enumBlock := 1, enclosingType := 1 }
    let doc : Document := ⟨["enum Suit \x7b".toList, "class Box \x7b".toList, "  Box() \x7b".toList]⟩
    let other : Document := ⟨["total++;".toList, "class Box \x7b".toList, "  Box() \x7b".toList, "\x7d".toList]⟩
    (∀ i : Int, max 0 (2 - Dialect.apex.reach windows) ≤ i → i ≤ 2 → other.line i = doc.line i) ∧
      (Apex.grammar windows).kindAt doc 2 = .ok (some .constructor) ∧
      (Apex.grammar windows).kindAt other 2 = .ok (some .constructor) := by
  intro windows doc other
  have same (i : Int) (above : max 0 (2 - Dialect.apex.reach windows) ≤ i) (below : i ≤ 2) :
      other.line i = doc.line i := by
    have first : max 0 (2 - Dialect.apex.reach windows) = 1 := by decide
    rcases (by omega : i = 1 ∨ i = 2) with rfl | rfl
    · rfl
    · rfl
  have declared : (Apex.grammar windows).kindAt doc 2 = .ok (some .constructor) := by
    decide
  have first_line : (0 : Int) ≤ 2 := by decide
  have last_line : (2 : Int) < doc.count := by decide
  exact ⟨same, declared, (Dialect.kindAt_in_reach .apex windows first_line last_line same).trans declared⟩

end

end Docblock
