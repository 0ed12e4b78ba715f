import Docblock.Proofs.Insertion
import Docblock.Proofs.Scanning

/-! Insertions that change places. Of two snippets the lower one can go in first, above its own line, or second, as many
lines further down as the upper one has put in. -/

set_option autoImplicit false

namespace Docblock

namespace Document
variable {doc : Document} {upper lower : Nat}

theorem insertAbove_of_lower (ordered : upper ≤ lower) (within : lower ≤ doc.count) (rows others : List Text) :
    (doc.insertAbove lower others).insertAbove upper rows =
      ⟨doc.lines.take upper ++ rows ++ (doc.lines.take lower).drop upper ++ others ++ doc.lines.drop lower⟩ := by
  have reaches : upper ≤ (doc.lines.take lower).length := by
    rw [List.length_take_of_le within]
    exact ordered
  rw [insertAbove, insertAbove, List.append_assoc (doc.lines.take lower), List.take_append_of_le_length reaches,
    List.drop_append_of_le_length reaches, List.take_take, min_eq_left ordered]
  simp only [List.append_assoc]

theorem insertAbove_of_upper (ordered : upper ≤ lower) (within : lower ≤ doc.count) (rows others : List Text) :
    (doc.insertAbove upper rows).insertAbove (lower + rows.length) others =
      ⟨doc.lines.take upper ++ rows ++ (doc.lines.take lower).drop upper ++ others ++ doc.lines.drop lower⟩ := by
  obtain ⟨apart, rfl⟩ := Nat.exists_eq_add_of_le ordered
  have front_length : (doc.lines.take upper ++ rows).length = upper + rows.length := by
    rw [List.length_append, List.length_take_of_le (Nat.le_of_add_right_le within)]
  have place : upper + apart + rows.length = (doc.lines.take upper ++ rows).length + apart := by
    rw [front_length]
    omega
  rw [insertAbove, insertAbove, place, List.take_length_add_append, List.drop_length_add_append, List.drop_drop,
    List.drop_take, Nat.add_sub_cancel_left]

end Document

/-- Two snippets that are inserted at the front of their lines come to stand in the same document, whichever goes in
first. The document that was there before is read again at the end, and is what it was. -/
theorem Buffer.insert_swap (text : Text) (first second : List Text) (upper lower : Nat) (ordered : upper ≤ lower)
    (within : lower < (Document.ofText text).count) :
    let doc := Document.ofText text
    let start : Buffer := { document := doc }
    let rows := doc.lines.take upper ++ Snippet.block first ++ (doc.lines.take lower).drop upper ++
      Snippet.block second ++ doc.lines.drop lower
    (do
      let above ← start.insert first upper 0
      let both ← above.insert second (lower + (Snippet.plain first).breaks : Nat) 0
      let below ← start.insert second lower 0
      let both_too ← below.insert first upper 0
      return (both, both_too, start.document)) = .ok (⟨⟨rows⟩, 2⟩, ⟨⟨rows⟩, 2⟩, doc) := by
  intro doc start rows
  have within : lower < doc.count := within
  have whole : doc.Unbroken := Document.unbroken_ofText text
  have block_whole (snippet : List Text) : ∀ row ∈ Snippet.block snippet, row.Unbroken :=
    fun _ => Snippet.unbroken_of_mem_block
  have above : start.insert first upper 0 = .ok ⟨doc.insertAbove upper (Snippet.block first), 1⟩ :=
    insert_eq whole (ordered.trans_lt within) first
  have below : start.insert second lower 0 = .ok ⟨doc.insertAbove lower (Snippet.block second), 1⟩ :=
    insert_eq whole within second
  have above_count : (doc.insertAbove upper (Snippet.block first)).count = doc.count + (Snippet.block first).length :=
    Document.count_insertAbove (ordered.trans_lt within) _
  have below_count : (doc.insertAbove lower (Snippet.block second)).count = doc.count + (Snippet.block second).length :=
    Document.count_insertAbove within _
  have both : (Buffer.mk (doc.insertAbove upper (Snippet.block first)) 1).insert second
      (lower + (Snippet.plain first).breaks : Nat) 0 = .ok ⟨⟨rows⟩, 2⟩ := by
    rw [← Snippet.length_block, insert_eq (whole.insertAbove upper (block_whole first)) (by dsimp only; omega),
      Document.insertAbove_of_upper ordered within.le]
  have both_too : (Buffer.mk (doc.insertAbove lower (Snippet.block second)) 1).insert first upper 0 =
      .ok ⟨⟨rows⟩, 2⟩ := by
    rw [insert_eq (whole.insertAbove lower (block_whole second)) (by dsimp only; omega),
      Document.insertAbove_of_lower ordered within.le]
  refine bind_eq_ok_iff.mpr ⟨_, above, bind_eq_ok_iff.mpr ⟨_, both, ?_⟩⟩
  exact bind_eq_ok_iff.mpr ⟨_, below, bind_eq_ok_iff.mpr ⟨_, both_too, rfl⟩⟩

-- Both snippets go above one line, and the first renders to more lines than it has rows.
theorem Buffer.insert_swap_at_line :
    let start : Buffer := { document := .ofText "a\r\nb".toList }
    let first : List Text := ["$\x7b1:x\ry\x7d".toList, []]
    let second : List Text := ["z".toList]
    let rows : List Text := ["a".toList, "x".toList, "y".toList, [], "z".toList, "b".toList]
    1 ≤ 1 ∧ 1 < start.document.count ∧ (Snippet.plain first).breaks = 3 ∧
    (do
      let above ← start.insert first (1 : Nat) 0
      let both ← above.insert second (1 + (Snippet.plain first).breaks : Nat) 0
      let below ← start.insert second (1 : Nat) 0
      let both_too ← below.insert first (1 : Nat) 0
      return (both, both_too, start.document)) = .ok (⟨⟨rows⟩, 2⟩, ⟨⟨rows⟩, 2⟩, start.document) := by
  intro start first second rows
  have within : 1 < start.document.count := by decide
  refine ⟨le_rfl, within, by decide, (insert_swap "a\r\nb".toList first second 1 1 le_rfl within).trans ?_⟩
  decide

end Docblock
