import Docblock.Proofs.Insertion
import Docblock.Proofs.Planning
import Docblock.Registry

/-! Carrying out plans. A planned comment comes to stand as a block of its own lines above one line of the
document, and no other line changes. -/

set_option autoImplicit false

namespace Docblock

theorem Planner.Planned.apply_eq {store : Template.Store} {cache later : Template.Cache} {grammar : Grammar}
    {buffer : Buffer} {plan : Plan} (planned : Planned store cache grammar buffer.document plan later)
    (whole : buffer.document.Unbroken) :
    ∃ above : Nat, plan.insertLine = above ∧ above < buffer.document.count ∧
      buffer.apply plan =
        .ok ⟨buffer.document.insertAbove above (Snippet.block plan.lines), buffer.insertions + 1⟩ := by
  obtain ⟨above, line_eq, within, column_eq⟩ := planned.placed
  refine ⟨above, line_eq, within, ?_⟩
  rw [Buffer.apply, line_eq, column_eq]
  exact Buffer.insert_eq whole within plan.lines

theorem lines_render_snippet (plan : Plan) :
    (Snippet.render plan.snippet).lines = Snippet.block plan.lines ++ [[]] := by
  have cut := Snippet.lines_plain_append plan.lines []
  rw [List.append_nil] at cut
  exact cut

/-- A plan for a text, whether for a declaration or for a header, puts the lines of its rendered snippet
above one line of the text. All lines of the text stay, in their order. -/
theorem plan_keeps_lines (store : Template.Store) (cache : Template.Cache) (dialect : Dialect)
    (windows : Windows) (text : Text) (line : Int) (insertions : Nat) (plan : Plan)
    (made : (Planner.generate store cache (dialect.grammar windows) (.ofText text) line).plan? = some plan ∨
      (Planner.fileHeader store cache (dialect.grammar windows) (.ofText text)).plan? = some plan) :
    ∃ (above : Nat) (comment : List Text),
      plan.insertLine = above ∧ above < text.lines.length ∧
      comment.length = (Snippet.render plan.snippet).breaks ∧ 1 ≤ comment.length ∧
      (Snippet.render plan.snippet).lines = comment ++ [[]] ∧
      Buffer.apply ⟨.ofText text, insertions⟩ plan =
        .ok ⟨⟨text.lines.take above ++ comment ++ text.lines.drop above⟩, insertions + 1⟩ := by
  have planned : ∃ later, Planner.Planned store cache (dialect.grammar windows) (.ofText text) plan later := by
    cases made with
    | inl generated => exact ⟨_, Planner.generate_planned generated⟩
    | inr headed => exact ⟨_, Planner.fileHeader_planned headed⟩
  obtain ⟨later, planned⟩ := planned
  have buffer_planned : Planner.Planned store cache (dialect.grammar windows)
      (Buffer.mk (.ofText text) insertions).document plan later := planned
  obtain ⟨above, line_eq, within, applied⟩ := buffer_planned.apply_eq (Document.unbroken_ofText text)
  exact ⟨above, Snippet.block plan.lines, line_eq, within, Snippet.length_block plan.lines,
    List.length_pos_iff.mpr (Snippet.block_ne_nil plan.lines), lines_render_snippet plan, applied⟩

-- A field between lines that end in three different ways.
theorem plan_keeps_lines_of_field :
    ∃ (plan : Plan) (above : Nat) (comment : List Text),
      let text : Text := "class Meter \x7b\r\n  @track count = 0;\r\x7d\n".toList
      (Planner.generate .bundled [] (Dialect.javaScript.grammar {}) (.ofText text) 1).plan? = some plan ∧
      plan.insertLine = above ∧ above < text.lines.length ∧
      comment.length = (Snippet.render plan.snippet).breaks ∧ 1 ≤ comment.length ∧
      (Snippet.render plan.snippet).lines = comment ++ [[]] ∧
      Buffer.apply ⟨.ofText text, 0⟩ plan =
        .ok ⟨⟨text.lines.take above ++ comment ++ text.lines.drop above⟩, 0 + 1⟩ := by
  obtain ⟨plan, made⟩ : ∃ plan, (Planner.generate .bundled [] (Dialect.javaScript.grammar {})
      (.ofText "class Meter \x7b\r\n  @track count = 0;\r\x7d\n".toList) 1).plan? = some plan :=
    Option.isSome_iff_exists.mp (by decide +kernel)
  obtain ⟨above, comment, kept⟩ := plan_keeps_lines .bundled [] .javaScript {} _ 1 0 plan (.inl made)
  exact ⟨plan, above, comment, made, kept⟩

end Docblock
