import Docblock.Proofs.Lines

/-! Line endings. Joining the lines of a text by an ending puts that ending in the place of each line break, and lines
that are joined by any of the three line breaks are found again. -/

set_option autoImplicit false

namespace Docblock

namespace Text

/-- The length of the line break that a text starts with; CR LF is a single one. -/
def breakLength? : Text → Option Nat
  | '\r' :: '\n' :: _ => some 2
  | '\r' :: _ => some 1
  | '\n' :: _ => some 1
  | _ => none

/-- The text with `ending` in the place of each line break. -/
def withEnding (text ending : Text) : Text :=
  substitute (fun ahead => (breakLength? ahead).map (ending, ·)) text

/-- The line breaks that lines can be joined by: CR LF, CR and LF. -/
def endings : List Text := [['\r', '\n'], ['\r'], ['\n']]

/-! ## From texts to lines and back -/

section
variable (ending rest : Text)

theorem withEnding_feed : withEnding ('\n' :: rest) ending = ending ++ withEnding rest ending := by
  simp [withEnding, substitute, substituteFrom, breakLength?]

theorem withEnding_return_feed : withEnding ('\r' :: '\n' :: rest) ending = ending ++ withEnding rest ending := by
  simp [withEnding, substitute, substituteFrom, breakLength?]

variable {rest}

theorem withEnding_return (alone : rest.head? ≠ some '\n') :
    withEnding ('\r' :: rest) ending = ending ++ withEnding rest ending := by
  have single : breakLength? ('\r' :: rest) = some 1 :=
    breakLength?.eq_2 rest (by rintro tail rfl; exact alone rfl)
  simp [withEnding, substitute, substituteFrom, single]

theorem withEnding_cons {c : Char} (other : c ≠ '\r' ∧ c ≠ '\n') :
    withEnding (c :: rest) ending = c :: withEnding rest ending := by
  simp [withEnding, substitute, substituteFrom, breakLength?, other]

end

theorem join_lines (ending text : Text) : join ending (lines text) = text.withEnding ending := by
  induction text using lines_induction with
  | nil => rfl
  | feed rest ih =>
    rw [lines_feed, join_cons_of_ne_nil _ _ (lines_ne_nil rest), ih, withEnding_feed, List.nil_append]
  | return_feed rest ih =>
    rw [lines_return_feed, join_cons_of_ne_nil _ _ (lines_ne_nil rest), ih, withEnding_return_feed, List.nil_append]
  | return_alone rest alone ih =>
    rw [lines_return alone, join_cons_of_ne_nil _ _ (lines_ne_nil rest), ih, withEnding_return ending alone,
      List.nil_append]
  | other c rest plain ih =>
    obtain ⟨line, more, cut⟩ := List.exists_cons_of_ne_nil (lines_ne_nil rest)
    rw [lines_cons plain cut, join_cons_char, ← cut, ih, withEnding_cons ending plain]

/-! ## From lines to texts and back -/

-- A line feed at once behind a carriage return would belong to the same line break.
theorem lines_unbroken_ending {line ending below : Text} (whole : line.Unbroken) (member : ending ∈ endings)
    (apart : ending = ['\r'] → below.head? ≠ some '\n') : lines (line ++ ending ++ below) = line :: lines below := by
  induction line with
  | nil =>
    simp only [endings, List.mem_cons, List.not_mem_nil, or_false] at member
    rcases member with rfl | rfl | rfl
    · exact lines_return_feed below
    · exact lines_return (apart rfl)
    · exact lines_feed below
  | cons c rest ih =>
    obtain ⟨plain, rest_whole⟩ := unbroken_cons.mp whole
    exact lines_cons plain (ih rest_whole)

theorem lines_unbroken {line : Text} (whole : line.Unbroken) : lines line = [line] :=
  linesBy_whole rfl whole.not_end

theorem head?_join_return {rows : List Text} (whole : ∀ row ∈ rows, Unbroken row) :
    (join ['\r'] rows).head? ≠ some '\n' := by
  intro starts
  obtain ⟨row, member, within⟩ := (mem_join_iff (by decide : '\n' ∉ ['\r'])).mp (List.mem_of_head? starts)
  exact (whole row member _ within).2 rfl

theorem lines_join_ending {rows : List Text} {ending : Text} (some_row : rows ≠ [])
    (whole : ∀ row ∈ rows, Unbroken row) (member : ending ∈ endings) : lines (join ending rows) = rows := by
  refine cut_join (fun row => lines_unbroken) (fun row rest row_whole rest_whole => ?_) some_row whole
  refine lines_unbroken_ending row_whole member ?_
  rintro rfl
  exact head?_join_return rest_whole

end Text

namespace Document

/-- Cutting into lines and joining them are inverse to each other up to the line breaks: a text gets all its line
breaks alike, and a document stays as it is. -/
theorem ofText_inverse :
    (∀ text : Text, (ofText text).lines ≠ [] ∧ (∀ line ∈ (ofText text).lines, line.Unbroken) ∧
      ∀ ending, (ofText text).text ending = text.withEnding ending) ∧
    ∀ doc : Document, doc.lines ≠ [] → (∀ line ∈ doc.lines, line.Unbroken) →
      ∀ ending ∈ Text.endings, ofText (doc.text ending) = doc := by
  constructor
  · intro text
    exact ⟨ofText_lines_ne_nil text, fun line member => Text.unbroken_of_mem_lines member,
      fun ending => Text.join_lines ending text⟩
  · intro doc some_line whole ending member
    exact congrArg Document.mk (Text.lines_join_ending some_line whole member)

-- Empty lines leave line breaks side by side, where a carriage return must not be taken with a line feed.
theorem ofText_inverse_of_mixed_breaks :
    (ofText "a\r\n\r\rb\n".toList).text ['\n'] = "a\n\n\nb\n".toList ∧
    ∀ ending ∈ Text.endings, ofText (Document.text ⟨[[], "a".toList, [], []]⟩ ending) = ⟨[[], "a".toList, [], []]⟩ := by
  refine ⟨((ofText_inverse.1 _).2.2 ['\n']).trans (by decide), ?_⟩
  exact ofText_inverse.2 ⟨[[], "a".toList, [], []]⟩ (by decide) (by decide)

end Document

end Docblock
