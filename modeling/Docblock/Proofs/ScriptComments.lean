import Docblock.Proofs.Margins
import Docblock.Proofs.Names
import Docblock.Proofs.Rows

/-! Comments in scripts. Names and types are taken from lines of the document and so have no line break in
them. The lines that are planned open a comment and keep to its margin from then on. -/

set_option autoImplicit false

namespace Docblock

namespace JavaScript

theorem unbroken_of_mem_parameters {windows : Windows} {doc : Document} {line : Int} {kind : Kind}
    {names : List Text} (read : Signature.parameters (grammar windows) doc line kind = .ok names) :
    ∀ name ∈ names, name.Unbroken := by
  have read : Signature.parameters (Dialect.javaScript.grammar windows) doc line kind = .ok names := read
  intro name member
  exact Text.unbroken_of_forall (by decide) (by decide) (nameChar_of_mem_parameters read name member)

theorem typeOfValue?_unbroken {value type : Text} (whole : value.Unbroken)
    (found : typeOfValue? value = some type) : type.Unbroken := by
  unfold typeOfValue? at found
  split_ifs at found
  case neg => exact whole.of_subset (Pattern.capture_subset found)
  all_goals
    obtain rfl := Option.some.inj found
    decide

theorem variableType?_unbroken {text type : Text} (whole : text.Unbroken)
    (found : variableType? text = some type) : type.Unbroken := by
  have code_whole : (Comment.stripLine text).Unbroken := whole.of_subset (Text.cutAt_subset text _)
  have capture_whole {before body after : Pattern} {captured : Text}
      (captured_eq : Pattern.capture before body after (Comment.stripLine text) = some captured) :
      captured.trim.Unbroken :=
    (code_whole.of_subset (Pattern.capture_subset captured_eq)).of_subset (Text.trim_subset captured)
  unfold variableType? at found
  dsimp only at found
  split at found
  · next written written_eq =>
    obtain rfl := Option.some.inj found
    obtain ⟨captured, captured_eq, rfl⟩ := Option.map_eq_some_iff.mp written_eq
    exact capture_whole captured_eq
  · obtain ⟨value, value_eq, found⟩ := Option.bind_eq_some_iff.mp found
    obtain ⟨captured, captured_eq, rfl⟩ := Option.map_eq_some_iff.mp value_eq
    exact typeOfValue?_unbroken (capture_whole captured_eq) found

end JavaScript

theorem Planner.unbroken_variableType {doc : Document} {line : Int} {type : Text} (whole : doc.Unbroken)
    (read : variableType doc line = .ok type) : type.Unbroken := by
  obtain ⟨text, text_read, read⟩ := bind_eq_ok_iff.mp read
  have text_whole := whole text (Document.mem_of_line text_read)
  split at read
  · next c rest found =>
    obtain rfl := pure_eq_ok_iff.mp read
    exact JavaScript.variableType?_unbroken text_whole found
  · obtain rfl := pure_eq_ok_iff.mp read
    decide

/-! ## Framed lines -/

namespace Comment

/-- A line that opens a comment, and below it lines that keep to its margin. -/
def Framed (lines : List Text) : Prop :=
  ∃ rows, lines = opener :: rows ∧ rows ≠ [] ∧ ∀ row ∈ rows, row.Unbroken ∧ row.Marginal

namespace Framed
variable {lines : List Text}

theorem block (framed : Framed lines) :
    ∃ rows, Snippet.block lines = opener :: rows ∧ ∀ row ∈ rows, row.Marginal := by
  obtain ⟨rows, rfl, _, kept⟩ := framed
  exact Snippet.block_margined (by decide) (by decide) (fun row member => (kept row member).1)
    (fun row member => (kept row member).2)

theorem kindOf_block (framed : Framed lines) {row : Text} (member : row ∈ Snippet.block lines) :
    JavaScript.kindOf row = none := by
  obtain ⟨rows, block_eq, marginal⟩ := framed.block
  rw [block_eq] at member
  apply JavaScript.kindOf_eq_none
  intro c opens
  rcases List.mem_cons.mp member with rfl | below
  · have slash : opener.opening? = some '/' := by decide
    exact .inr (by simpa [slash] using opens.symm)
  · rcases marginal row below with rfl | ⟨behind, rfl⟩
    · simp at opens
    · have star : Text.opening? (' ' :: '*' :: behind) = some '*' := by
        simp [Text.opening?_cons, show isBlank ' ' = true by decide, show isBlank '*' = false by decide]
      exact .inl (by simpa [star] using opens.symm)

theorem of_enclosed (enclosed : Enclosed (fun row => row.Unbroken ∧ row.Marginal) lines) : Framed lines := by
  obtain ⟨rows, rfl, kept⟩ := enclosed
  exact ⟨rows ++ [ending], rfl, by simp, List.forall_mem_append.mpr ⟨kept, by decide⟩⟩

end Framed

end Comment

namespace Planner
open Comment (Framed)

theorem scriptParamLine_kept {description name : Text} (description_whole : description.Unbroken)
    (name_whole : name.Unbroken) :
    (scriptParamLine description name).Unbroken ∧ (scriptParamLine description name).Marginal := by
  unfold scriptParamLine
  refine ⟨?_, .inr ?_⟩
  · have blank_whole : Text.Unbroken (' ' :: description) :=
      Text.unbroken_append.mpr ⟨(by decide : Text.Unbroken [' ']), description_whole⟩
    exact Text.unbroken_append.mpr ⟨Text.unbroken_append.mpr ⟨by decide, name_whole⟩, blank_whole⟩
  · exact ⟨_, rfl⟩

theorem added_kept {windows : Windows} {names : List Text} {row : Text}
    (names_whole : ∀ name ∈ names, name.Unbroken) (added : Added (JavaScript.grammar windows) names row) :
    row.Unbroken ∧ row.Marginal := by
  cases added with
  | apexParam apex => exact absurd apex (by simp [JavaScript.grammar])
  | scriptParam _ member => exact scriptParamLine_kept (by decide) (names_whole _ member)
  | stopParam _ member written =>
    have stop_whole := (Snippet.digits_of_writeNumber written).unbroken
    refine scriptParamLine_kept ?_ (names_whole _ member)
    exact Text.unbroken_append.mpr ⟨Text.unbroken_append.mpr ⟨by decide, stop_whole⟩, by decide⟩
  | returns written =>
    have stop_whole := (Snippet.digits_of_writeNumber written).unbroken
    refine ⟨?_, .inr ⟨_, rfl⟩⟩
    exact Text.unbroken_append.mpr ⟨Text.unbroken_append.mpr ⟨by decide, stop_whole⟩, by decide⟩

theorem typeLine_kept {type : Text} (whole : type.Unbroken) :
    (typeLine type).Unbroken ∧ (typeLine type).Marginal := by
  have braced_whole : Text.Unbroken ('\x7b' :: type ++ ['\x7d']) :=
    Text.unbroken_append.mpr ⟨Text.unbroken_append.mpr ⟨(by decide : Text.Unbroken ['\x7b']), whole⟩, by decide⟩
  exact ⟨Text.unbroken_append.mpr ⟨by decide, braced_whole⟩, .inr ⟨_, rfl⟩⟩

theorem fileTemplate_mem :
    ("file", ["/**", " * @file $\x7b1:File purpose\x7d", " * @description $\x7b2:What this helper provides\x7d",
      " * @author $\x7b3:author\x7d", " */"]) ∈ Template.bundled .javaScript :=
  List.mem_cons_self

/-- With the templates that come with the library every comment that is planned for a script is framed. -/
theorem Planned.framed {cache later : Template.Cache} {windows : Windows} {doc : Document} {plan : Plan}
    (planned : Planned .bundled cache (JavaScript.grammar windows) doc plan later)
    (faithful : cache.Faithful .bundled) (whole : doc.Unbroken) : Framed plan.lines := by
  have templates : ∀ entry ∈ Template.bundled .javaScript,
      Comment.Enclosed (fun row => row.Unbroken ∧ row.Marginal) (entry.2.map String.toList) := by
    decide +kernel
  have of_script : Planned .bundled cache (Dialect.javaScript.grammar windows) doc plan later := planned
  cases planned with
  | header _ got =>
    obtain ⟨rows, rows_eq, kept⟩ := templates _ fileTemplate_mem
    refine ⟨rows ++ [Comment.ending] ++ [[]], ?_, by simp, fun row member => ?_⟩
    · rw [headerPlan, faithful.bundled_lines fileTemplate_mem got, rows_eq, List.cons_append]
    · have ends_kept : ∀ row ∈ [Comment.ending, []], Text.Unbroken row ∧ Text.Marginal row := by decide
      rw [List.append_assoc] at member
      exact (List.mem_append.mp member).elim (kept row) (ends_kept row)
  | site _ _ _ filled =>
    obtain ⟨names, lines, insertLine, read, _, _, rfl⟩ := fill_eq_ok_iff.mp filled
    have names_whole := JavaScript.unbroken_of_mem_parameters read
    apply Framed.of_enclosed
    refine of_script.enclosed faithful rfl templates (fun row => added_kept names_whole) ?_
    intro line type _ _ type_read
    exact typeLine_kept (unbroken_variableType whole type_read)

end Planner

end Docblock
