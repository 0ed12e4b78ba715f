import Docblock.Proofs.AnnotationRuns
import Docblock.Proofs.Closing
import Docblock.Proofs.ParameterLines
import Docblock.Proofs.Sessions

/-! Comments in their places. The rows of a comment that was carried out all belong to it: the first opens it,
the last ends it, and those between go on with an asterisk. Below the comment stand the annotations and the
blank lines that part it from its declaration. -/

set_option autoImplicit false

namespace Docblock

/-! ## The rows of a comment -/

namespace Comment

/-- A row goes on with a comment and does not close it. -/
def GoesOn (row : Text) : Prop := [' ', '*'] <+: row ∧ row.holds closer = false

instance : DecidablePred GoesOn := fun _ => inferInstanceAs (Decidable (_ ∧ _))

variable {rows : List Text} {row : Text} {i : Nat}

theorem head?_trim_of_margin (margin : [' ', '*'] <+: row) : row.trim.head? = some '*' := by
  obtain ⟨behind, rfl⟩ := margin
  exact (Text.head?_trim _).trans (Text.opening?_append (by decide : Text.opening? [' ', '*'] = some '*') behind)

theorem Enclosed.shows_comment (enclosed : Enclosed GoesOn rows) (member : row ∈ rows) :
    (opener.isPrefixOf row.trim || row.trim.head? == some '*') = true := by
  obtain ⟨inner, rfl, going_on⟩ := enclosed
  rw [List.mem_cons, List.mem_append, List.mem_singleton] at member
  rcases member with rfl | inside | rfl
  · decide
  · simp [head?_trim_of_margin (going_on row inside).1]
  · decide

theorem Enclosed.holds_closer_iff (enclosed : Enclosed GoesOn rows) (found : rows[i]? = some row) :
    row.holds closer = true ↔ i + 1 = rows.length := by
  obtain ⟨inner, rfl, going_on⟩ := enclosed
  cases i with
  | zero =>
    obtain rfl : opener = row := by simpa using found
    simp only [List.length_cons, List.length_append, List.length_nil]
    exact iff_of_false (by decide) (by omega)
  | succ i =>
    rw [List.getElem?_cons_succ, List.getElem?_append] at found
    simp only [List.length_cons, List.length_append, List.length_nil]
    split at found
    · next inside =>
      simp only [(going_on row (List.mem_of_getElem? found)).2, Bool.false_eq_true, false_iff]
      omega
    · next behind =>
      have last : i - inner.length < 1 := (List.getElem?_eq_some_iff.mp found).1
      obtain rfl : ending = row := by simpa [show i - inner.length = 0 by omega] using found
      exact iff_of_true (by decide) (by omega)

end Comment

namespace Planner
open Comment (Enclosed GoesOn closer)
open Snippet (render withoutStops)

section
variable {cache later : Template.Cache} {dialect : Dialect} {windows : Windows} {doc : Document} {plan : Plan}

theorem goesOn_paramLine {name : Text} (plain : '/' ∉ name) : GoesOn (paramLine dialect name) := by
  cases dialect with
  | apex =>
    refine ⟨⟨_, rfl⟩, Comment.holds_closer_of_no_slash ?_⟩
    exact List.not_mem_append (List.not_mem_append (by decide +kernel) plain) (by decide +kernel)
  | javaScript =>
    refine ⟨⟨_, rfl⟩, Comment.holds_closer_of_no_slash ?_⟩
    exact List.not_mem_append (List.not_mem_append (by decide +kernel) plain) (by decide +kernel)

theorem goesOn_added {names : List Text} {row : Text}
    (named : ∀ name ∈ names, ∀ c ∈ name, JavaScript.nameChar c = true)
    (added : Added (dialect.grammar windows) names row) : GoesOn (render row) := by
  rcases shows_added named added with ⟨name, member, shown, _⟩ | ⟨shown, _⟩
  · rw [shown.render_eq]
    refine goesOn_paramLine fun within => ?_
    exact absurd (nameChar_of_mem_withoutStops (named name member) '/' within) (by decide)
  · rw [shown.render_eq]
    cases dialect <;> decide +kernel

theorem Planned.block_enclosed (planned : Planned .bundled cache (dialect.grammar windows) doc plan later)
    (faithful : cache.Faithful .bundled) (no_header : plan.isFileHeader = false) (no_var : plan.kind ≠ some .var) :
    Enclosed GoesOn (Snippet.block plan.lines) := by
  have templates : ∀ entry ∈ Template.bundled dialect,
      Enclosed (fun row => GoesOn (render row)) (entry.2.map String.toList) := by
    cases dialect <;> decide +kernel
  obtain ⟨rows, lines_eq, going_on⟩ := planned.enclosed faithful no_header templates
    (fun row => goesOn_added planned.nameChar) (fun _ _ is_var => absurd is_var no_var)
  have alone := planned.alone_of_not_var faithful no_header no_var
  have block_eq := Snippet.block_eq_map (by simp [lines_eq]) (fun line member => (alone line member).shows)
    (fun line member => (alone line member).whole)
  have ends_kept : render Comment.opener = Comment.opener ∧ render Comment.ending = Comment.ending := by
    decide +kernel
  refine ⟨rows.map render, ?_, by simpa using going_on⟩
  rw [block_eq, lines_eq, List.map_cons, List.map_append, List.map_singleton, ends_kept.1, ends_kept.2]

end

end Planner

/-! ## The lines around a comment -/

/-- A comment stands on the lines from `top` on, and under it annotations, blank lines and the declaration. -/
structure Commented (grammar : Grammar) (doc : Document) (top : Nat) (rows : List Text) (site : Site) : Prop where
  enclosed : Comment.Enclosed Comment.GoesOn rows
  comment : ∀ (i : Nat) (row : Text), rows[i]? = some row → doc.line (top + i : Nat) = .ok row
  declares : site.Declares grammar doc
  parted : ∃ below : Nat, top + rows.length ≤ below ∧ below ≤ site.line ∧
    (∀ i : Nat, top + rows.length ≤ i → i < below → grammar.bareAnnotationAt doc i = .ok true) ∧
    ∀ i : Nat, below ≤ i → i < site.line → ∃ text, doc.line i = .ok text ∧ text.blank = true

namespace Document
variable {doc : Document} {above : Nat} {rows : List Text}

theorem line_inserted (within : above ≤ doc.count) {i : Nat} {row : Text} (found : rows[i]? = some row) :
    (doc.insertAbove above rows).line (above + i : Nat) = .ok row := by
  have inside : i < rows.length := (List.getElem?_eq_some_iff.mp found).1
  have front_length : (doc.lines.take above).length = above := List.length_take_of_le within
  refine line_eq_ok_iff.mpr ⟨by omega, ?_⟩
  rw [Int.toNat_natCast, insertAbove, List.append_assoc, List.getElem?_append_right (by omega), front_length,
    Nat.add_sub_cancel_left, List.getElem?_append_left inside]
  exact found

theorem line_below_inserted {line : Nat} {text : Text} (below : above ≤ line) (read : doc.line line = .ok text) :
    (doc.insertAbove above rows).line (line + rows.length : Nat) = .ok text := by
  have within := (line_within read).2
  refine line_eq_ok_iff.mpr ⟨by omega, ?_⟩
  rw [Int.toNat_natCast, getElem?_insertAbove below (by omega)]
  exact (line_eq_ok_iff.mp read).2

end Document

theorem JavaScript.bareAnnotationAt_congr {windows : Windows} {doc other : Document} {line place : Int} {text : Text}
    (read : doc.line line = .ok text) (other_read : other.line place = .ok text) :
    (grammar windows).bareAnnotationAt other place = (grammar windows).bareAnnotationAt doc line := by
  simp only [Grammar.bareAnnotationAt, kindAt_eq, read, other_read]

theorem commented_insertAbove {windows : Windows} {doc : Document} {site : Site} {above : Nat} {rows : List Text}
    (enclosed : Comment.Enclosed Comment.GoesOn rows) (declares : site.Declares (JavaScript.grammar windows) doc)
    (placed : AnnotationRun.insertionLine (JavaScript.grammar windows) doc site.line = .ok above) :
    Commented (JavaScript.grammar windows) (doc.insertAbove above rows) above rows
      ⟨site.kind, site.line + rows.length⟩ := by
  have within := declares.within
  obtain ⟨below, above_le, below_le, bare, blank, _⟩ := AnnotationRun.parting_of_insertionLine within.le placed
  -- A line under the comment is one that stood higher by the length of the comment.
  have moved (i : Nat) (under : above + rows.length ≤ i) : ∃ j, i = j + rows.length ∧ above ≤ j :=
    ⟨i - rows.length, by omega, by omega⟩
  refine ⟨enclosed, fun i row => Document.line_inserted (by omega),
    Session.declares_below declares (above_le.trans below_le) rows, below + rows.length, by omega,
    Nat.add_le_add_right below_le _, fun i under to_below => ?_, fun i from_below to_site => ?_⟩
  · obtain ⟨j, rfl, from_above⟩ := moved i under
    have annotated := bare j from_above (by omega)
    obtain ⟨text, read, _⟩ := bind_eq_ok_iff.mp annotated
    rw [JavaScript.bareAnnotationAt_congr read (Document.line_below_inserted from_above read), annotated]
  · obtain ⟨j, rfl, from_above⟩ := moved i (by omega)
    obtain ⟨text, read, is_blank⟩ := blank j (by omega) (Nat.lt_of_add_lt_add_right to_site)
    exact ⟨text, Document.line_below_inserted from_above read, is_blank⟩

/-- A comment that was planned for a declaration of a script stands, once it is carried out, above what parts it
from that declaration. -/
theorem Planner.Planned.commented {cache later : Template.Cache} {windows : Windows} {doc : Document} {plan : Plan}
    (planned : Planned .bundled cache (JavaScript.grammar windows) doc plan later)
    (faithful : cache.Faithful .bundled) (no_header : plan.isFileHeader = false) (no_var : plan.kind ≠ some .var) :
    ∃ (site : Site) (above : Nat), plan.kind = some site.kind ∧ plan.declarationLine = some (site.line : Int) ∧
      plan.insertLine = above ∧ 0 ≤ windows.declaration ∧
      Commented (JavaScript.grammar windows) (doc.insertAbove above (Snippet.block plan.lines)) above
        (Snippet.block plan.lines) ⟨site.kind, site.line + (Snippet.block plan.lines).length⟩ := by
  have of_script : Planned .bundled cache (Dialect.javaScript.grammar windows) doc plan later := planned
  have enclosed := of_script.block_enclosed faithful no_header no_var
  cases planned with
  | header _ _ => simp [headerPlan] at no_header
  | @site site _ _ _ grounded _ _ filled =>
    obtain ⟨_, lines, above, _, _, placed, rfl⟩ := fill_eq_ok_iff.mp filled
    exact ⟨site, above, rfl, rfl, rfl, grounded.2, commented_insertAbove enclosed grounded.1 placed⟩

end Docblock
