import Docblock.Comment
import Docblock.Proofs.Scanning
import Docblock.Proofs.SignatureLines

/-! Marks of comments. Where no line opens a comment again behind a mark that closes one, whether a line stands in an
open comment is what the last mark up to it says, all marks read forward from the edge of the window. -/

set_option autoImplicit false

namespace Docblock

theorem Text.holds_iff_infix {text part : Text} : text.holds part = true ↔ part <:+: text := by
  induction text with
  | nil => simp [Text.holds]
  | cons c rest ih => rw [Text.holds, Bool.or_eq_true, List.isPrefixOf_iff_prefix, ih, List.infix_cons_iff]

section
variable {β : Type} {doc : Document} {top size : Nat}

theorem Document.excerpt_succ (within : top + size < doc.lines.length) :
    doc.excerpt top (size + 1) = doc.excerpt top size ++ [doc.lines[top + size]] := by
  have inside : size < (doc.lines.drop top).length := by
    rw [List.length_drop]
    omega
  rw [excerpt, excerpt, List.take_succ_eq_append_getElem inside, List.getElem_drop]

theorem scanUp_lines (found? : Text → Option β) (within : top + size ≤ doc.count) :
    scanUp (top + size - 1 : Int) top (fun i => do return found? (← doc.line i)) =
      .ok ((doc.excerpt top size).reverse.findSome? found?) := by
  rw [scanUp, show ((top + size - 1 : Int) + 1 - top).toNat = size by omega]
  induction size with
  | zero => simp [firstHit, Document.excerpt]
  | succ size ih =>
    have read : doc.line (top + (size + 1 : Nat) - 1 : Int) = .ok doc.lines[top + size] := by
      rw [show (top + (size + 1 : Nat) - 1 : Int) = (top + size : Nat) by omega]
      exact Document.line_natCast doc (top + size) within
    have next : (top + (size + 1 : Nat) - 1 : Int) + -1 = top + size - 1 := by omega
    rw [firstHit, read, Document.excerpt_succ within, List.reverse_concat, List.findSome?_cons]
    cases answer : found? doc.lines[top + size] with
    | some value => simp [bind, Except.bind, pure, Except.pure, answer]
    | none =>
      rw [next]
      simpa [bind, Except.bind, pure, Except.pure, answer] using ih (Nat.le_of_succ_le within)

end

namespace Comment

/-! ## The marks of a row -/

inductive Mark where
  | opening
  | closing
  deriving DecidableEq, Repr

def Mark.text : Mark → Text
  | opening => opener
  | closing => closer

/-- The mark that stands at the front of a text. -/
def mark? (ahead : Text) : Option Mark :=
  if opener.isPrefixOf ahead then some .opening else if closer.isPrefixOf ahead then some .closing else none

/-- All marks of a row in the order of the places where they start. They may overlap. -/
def marks (row : Text) : List Mark := row.tails.filterMap mark?

/-- No opening mark starts behind the start of a closing one. -/
def Orderly (row : Text) : Prop := (marks row).Pairwise fun mark later => mark = .closing → later = .closing

instance : DecidablePred Orderly := fun _ => inferInstanceAs (Decidable (List.Pairwise _ _))

section
variable {row ahead : Text} {mark : Mark}

theorem mark?_eq_some_iff : mark? ahead = some mark ↔ mark.text <+: ahead := by
  have apart : opener <+: ahead → ¬ closer <+: ahead := by
    rintro ⟨rest, rfl⟩
    simp [opener, closer]
  unfold mark?
  simp only [List.isPrefixOf_iff_prefix]
  cases mark with
  | opening => split_ifs <;> simp_all [Mark.text]
  | closing => split_ifs <;> simp_all [Mark.text]

theorem mem_marks_iff : mark ∈ marks row ↔ row.holds mark.text = true := by
  rw [marks, List.mem_filterMap, Text.holds_iff_infix, List.infix_iff_prefix_suffix]
  simp only [List.mem_tails, mark?_eq_some_iff, and_comm]

theorem getLast?_marks (orderly : Orderly row) :
    (marks row).getLast? =
      if row.holds closer then some .closing else if row.holds opener then some .opening else none := by
  have closes : Mark.closing ∈ marks row ↔ row.holds closer = true := mem_marks_iff
  have opens : Mark.opening ∈ marks row ↔ row.holds opener = true := mem_marks_iff
  simp only [← closes, ← opens]
  unfold Orderly at orderly
  generalize marks row = all at orderly
  rcases List.eq_nil_or_concat all with rfl | ⟨before, last, rfl⟩
  · simp
  · rw [List.concat_eq_append, List.pairwise_append] at orderly
    rw [List.concat_eq_append, List.getLast?_concat]
    cases last with
    | closing => simp
    | opening =>
      have no_closing : Mark.closing ∉ before := fun member => by simpa using orderly.2.2 _ member .opening (by simp)
      simp [no_closing]

end

/-! ## The marks of a window -/

/-- The lines that are looked through for a line: those from the edge of its window on, and the line itself. -/
def window (doc : Document) (line lookback : Nat) : List Text :=
  doc.excerpt (line - lookback) (line + 1 - (line - lookback))

/-- What a line says of itself and of the lines below it: a closing mark counts for more than an opening one. -/
def verdict (row : Text) : Option Bool :=
  if row.holds closer then some false else if row.holds opener then some true else none

theorem verdict_eq {row : Text} (orderly : Orderly row) : verdict row = (marks row).getLast?.map (· == .opening) := by
  rw [verdict, getLast?_marks orderly]
  split_ifs <;> rfl

theorem findSome?_verdict {rows : List Text} (orderly : ∀ row ∈ rows, Orderly row) :
    rows.reverse.findSome? verdict = (rows.flatMap marks).getLast?.map (· == .opening) := by
  induction rows using List.reverseRecOn with
  | nil => rfl
  | append_singleton rows row ih =>
    obtain ⟨rows_orderly, row_orderly⟩ := List.forall_mem_append.mp orderly
    rw [List.reverse_concat, List.findSome?_cons, ih rows_orderly, verdict_eq (row_orderly row List.mem_cons_self),
      List.flatMap_append, List.flatMap_singleton, List.getLast?_append]
    cases (marks row).getLast? <;> rfl

/-- A line that does not itself belong to a comment by its look stands in an open one exactly if there is a mark in its
window and the last of them opens a comment. -/
theorem inside_eq_last_mark (doc : Document) (line lookback : Nat) (text : Text)
    (orderly : ∀ row ∈ doc.lines, Orderly row) (read : doc.line line = .ok text)
    (no_opener : ¬ opener <+: text.trim) (no_star : ¬ ['*'] <+: text.trim) :
    Comment.inside doc line lookback =
      .ok (decide (((window doc line lookback).flatMap marks).getLast? = some .opening)) := by
  have in_doc := (Document.line_within read).2
  have window_orderly : ∀ row ∈ window doc line lookback, Orderly row :=
    fun row member => orderly row (List.mem_of_mem_drop (List.mem_of_mem_take member))
  have walked : scanUp line (max 0 (line - lookback : Int)) (fun i => do return verdict (← doc.line i)) =
      .ok (((window doc line lookback).flatMap marks).getLast?.map (· == .opening)) := by
    have top_eq : max 0 (line - lookback : Int) = (line - lookback : Nat) := by omega
    have bottom_eq : (line : Int) = (line - lookback : Nat) + (line + 1 - (line - lookback) : Nat) - 1 := by omega
    rw [top_eq, ← findSome?_verdict window_orderly, window, ← scanUp_lines verdict (by omega), ← bottom_eq]
  have not_shown : (opener.isPrefixOf text.trim || text.trim.head? == some '*') = false := by
    rw [Bool.or_eq_false_iff, ← Bool.not_eq_true, List.isPrefixOf_iff_prefix, beq_eq_false_iff_ne]
    refine ⟨no_opener, fun first => no_star ?_⟩
    obtain ⟨rest, cut⟩ := List.head?_eq_some_iff.mp first
    exact ⟨rest, cut.symm⟩
  unfold Comment.inside
  rw [if_neg (by omega)]
  refine bind_eq_ok_iff.mpr ⟨text, read, ?_⟩
  rw [if_neg (by simp [not_shown])]
  refine bind_eq_ok_iff.mpr ⟨_, walked, ?_⟩
  rw [pure_eq_ok_iff]
  cases ((window doc line lookback).flatMap marks).getLast? with
  | none => rfl
  | some last => cases last <;> rfl

-- A comment that opens behind a call, in and above the window, and a line whose two marks overlap.
theorem inside_eq_last_mark_below_call :
    let doc : Document := ⟨["call(); /** why".toList, "".toList, "next".toList, "/**/ load();".toList]⟩
    (∀ row ∈ doc.lines, Orderly row) ∧ doc.line (2 : Nat) = .ok "next".toList ∧
      Comment.inside doc (2 : Nat) (2 : Nat) = .ok true ∧ Comment.inside doc (2 : Nat) (1 : Nat) = .ok false := by
  intro doc
  have orderly : ∀ row ∈ doc.lines, Orderly row := by decide
  have read : doc.line (2 : Nat) = .ok "next".toList := by decide
  have told (lookback : Nat) := inside_eq_last_mark doc 2 lookback "next".toList orderly read (by decide) (by decide)
  exact ⟨orderly, read, (told 2).trans (by decide), (told 1).trans (by decide)⟩

end Comment

end Docblock
