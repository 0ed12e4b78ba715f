import Docblock.Buffer
import Docblock.Proofs.Rendering

/-! Insertion above a line. The lines of the snippet come to stand between the lines above and the lines
below, all of which stay what they are. -/

set_option autoImplicit false

namespace Docblock

namespace Snippet

def plain (snippet : List Text) : Text := render (Text.join ['\n'] snippet ++ ['\n'])

/-- The lines that a snippet puts into a document. -/
def block (snippet : List Text) : List Text := (plain snippet).lines.dropLast

/-- The plain text of a snippet is a block of lines, at least one, and stands as such above any text. -/
theorem block_spec (snippet : List Text) :
    block snippet ≠ [] ∧ ∀ below, (plain snippet ++ below).lines = block snippet ++ below.lines :=
  Text.lines_ended_append (getLast?_render (by simp))

theorem block_ne_nil (snippet : List Text) : block snippet ≠ [] := (block_spec snippet).1

theorem lines_plain_append (snippet : List Text) (below : Text) :
    (plain snippet ++ below).lines = block snippet ++ below.lines :=
  (block_spec snippet).2 below

theorem length_block (snippet : List Text) : (block snippet).length = (plain snippet).breaks := by
  have cut := lines_plain_append snippet []
  have counted := Text.length_lines (plain snippet)
  rw [List.append_nil] at cut
  rw [cut, List.length_append] at counted
  simpa using counted

theorem unbroken_of_mem_block {snippet : List Text} {line : Text} (member : line ∈ block snippet) :
    line.Unbroken :=
  Text.unbroken_of_mem_lines (List.dropLast_subset _ member)

end Snippet

namespace Document

def Unbroken (doc : Document) : Prop := ∀ line ∈ doc.lines, line.Unbroken

instance (doc : Document) : Decidable doc.Unbroken := List.decidableBAll _ doc.lines

theorem unbroken_ofText (text : Text) : (ofText text).Unbroken :=
  fun _ => Text.unbroken_of_mem_lines

def insertAbove (doc : Document) (number : Nat) (rows : List Text) : Document :=
  ⟨doc.lines.take number ++ rows ++ doc.lines.drop number⟩

theorem count_insertAbove {doc : Document} {number : Nat} (within : number < doc.count) (rows : List Text) :
    (doc.insertAbove number rows).count = doc.count + rows.length := by
  unfold count at within ⊢
  simp only [insertAbove, List.length_append, List.length_take, List.length_drop]
  omega

-- A line at or below the place moves down by as many lines as were put in.
theorem getElem?_insertAbove {doc : Document} {above line : Nat} (below : above ≤ line)
    (within : line < doc.count) (rows : List Text) :
    (doc.insertAbove above rows).lines[line + rows.length]? = doc.lines[line]? := by
  unfold count at within
  have front_length : (doc.lines.take above ++ rows).length = above + rows.length := by
    simp only [List.length_append, List.length_take]
    omega
  rw [insertAbove, List.getElem?_append_right (by omega), front_length, List.getElem?_drop]
  congr 1
  omega

theorem Unbroken.insertAbove {doc : Document} (whole : doc.Unbroken) (number : Nat) {rows : List Text}
    (rows_whole : ∀ row ∈ rows, row.Unbroken) : (doc.insertAbove number rows).Unbroken := by
  intro line member
  simp only [Document.insertAbove, List.mem_append] at member
  rcases member with (above | inside) | below
  · exact whole line (List.mem_of_mem_take above)
  · exact rows_whole line inside
  · exact whole line (List.mem_of_mem_drop below)

end Document

namespace Buffer

theorem insert_eq {buffer : Buffer} {number : Nat} (whole : buffer.document.Unbroken)
    (within : number < buffer.document.count) (snippet : List Text) :
    buffer.insert snippet number 0 =
      .ok ⟨buffer.document.insertAbove number (Snippet.block snippet), buffer.insertions + 1⟩ := by
  obtain ⟨doc, insertions⟩ := buffer
  have above_whole : ∀ row ∈ doc.lines.take number, row.Unbroken :=
    fun row member => whole row (List.mem_of_mem_take member)
  have below_whole : ∀ row ∈ doc.lines.drop number, row.Unbroken :=
    fun row member => whole row (List.mem_of_mem_drop member)
  have below_some : doc.lines.drop number ≠ [] := by
    intro none
    exact absurd (List.drop_eq_nil_iff.mp none) (Nat.not_le.mpr within)
  obtain ⟨target, below, cut⟩ := List.exists_cons_of_ne_nil below_some
  -- Flattened, the lines above, the snippet and the lines below are cut where they were joined.
  have spliced_lines :
      (spliced (doc.lines.take number) target below (Snippet.plain snippet) 0).lines =
        doc.lines.take number ++ Snippet.block snippet ++ doc.lines.drop number := by
    simp only [spliced, Int.toNat_zero, List.take_zero, List.drop_zero]
    rw [List.append_assoc, Text.lines_join_append above_whole, Snippet.lines_plain_append,
      ← cut, Text.lines_join below_some below_whole, List.append_assoc]
  simp only [insert, insertedText, Int.toNat_natCast, cut]
  exact congrArg (fun rows => Except.ok (Buffer.mk ⟨rows⟩ (insertions + 1))) spliced_lines

end Buffer

end Docblock
