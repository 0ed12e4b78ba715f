import Docblock.Planner
import Docblock.Proofs.Scanning
import Docblock.Proofs.Trimming

/-! Headed documents. No file header is wanted for a document whose first line opens a doc comment, from
whatever line it is looked at. -/

set_option autoImplicit false

namespace Docblock

def Document.Headed (doc : Document) : Prop :=
  ∃ top below, doc.lines = top :: below ∧ Comment.opener.isPrefixOf top.trim = true

namespace Document.Headed
variable {doc : Document}

theorem count_pos (headed : doc.Headed) : 0 < doc.count := by
  obtain ⟨top, below, cut, _⟩ := headed
  simp [count, cut]

theorem first_line (headed : doc.Headed) :
    ∃ top, doc.line 0 = .ok top ∧ Comment.opener.isPrefixOf top.trim = true ∧
      AuraFile.beforeCode top = false ∧ AuraFile.opensHelper top = false ∧
      "#!".toList.isPrefixOf top = false := by
  obtain ⟨top, below, cut, opens⟩ := headed
  obtain ⟨rest, trimmed⟩ := List.isPrefixOf_iff_prefix.mp opens
  have slash : top.opening? = some '/' := by
    rw [← Text.head?_trim, ← trimmed]
    rfl
  have filled : top.blank = false := by
    rw [← Bool.not_eq_true, ← Text.opening?_eq_none_iff, slash]
    simp
  have no_interpreter : "#!".toList.isPrefixOf top = false := by
    cases top with
    | nil => rfl
    | cons c more =>
      have other : c ≠ '#' := by
        intro same
        subst same
        rw [Text.opening?_cons] at slash
        simp [show isBlank '#' = false by decide] at slash
      simp [List.isPrefixOf, other.symm]
  refine ⟨top, by simp [line_eq_ok_iff, cut], opens, ?_, ?_, no_interpreter⟩
  · simp [AuraFile.beforeCode, filled, ← trimmed, Comment.opener, List.isPrefixOf]
  · simp [AuraFile.opensHelper, ← trimmed, Comment.opener]

theorem hasHeader (headed : doc.Headed) {line : Int} (below : 0 < line) :
    AuraFile.hasHeader doc line = .ok true := by
  have some_line := headed.count_pos
  obtain ⟨top, read, opens, _⟩ := headed.first_line
  -- The walk starts on the first line, which has the answer.
  have found : scanDown 0 (min line doc.count - 1) (fun i => do
      let text ← doc.line i
      return if Comment.opener.isPrefixOf text.trim then some true
        else if AuraFile.beforeCode text then none else some false) = .ok (some true) :=
    scanDown_eq_some_iff.mpr ⟨0, by omega, by omega,
      bind_eq_ok_iff.mpr ⟨top, read, by simp [opens]⟩, fun j _ _ => by omega⟩
  exact bind_eq_ok_iff.mpr ⟨some true, found, rfl⟩

theorem preamble (headed : doc.Headed) : AuraFile.preamble doc = .ok ⟨false, 0⟩ := by
  have some_line := headed.count_pos
  obtain ⟨top, read, _, code, no_helper, no_interpreter⟩ := headed.first_line
  have filled : doc.lines.isEmpty = false := by
    obtain ⟨_, _, cut, _⟩ := headed
    simp [cut]
  have skipped : skipDown (fun i => return AuraFile.beforeCode (← doc.line i))
      ((doc.count : Int) - 0).toNat 0 = .ok 0 :=
    skipDown_eq_ok_iff.mpr ⟨by omega, by omega, fun i _ _ => by omega,
      fun _ => bind_eq_ok_iff.mpr ⟨top, read, by simp [code]⟩⟩
  simp only [AuraFile.preamble, filled, Bool.false_eq_true, if_false]
  refine bind_eq_ok_iff.mpr ⟨top, read, ?_⟩
  simp only [no_interpreter, Bool.false_eq_true, if_false]
  refine bind_eq_ok_iff.mpr ⟨0, skipped, ?_⟩
  rw [if_neg (by omega)]
  exact bind_eq_ok_iff.mpr ⟨top, read, by simp [no_helper]⟩

end Document.Headed

namespace Planner
variable {doc : Document}

theorem not_headed_of_headerOnOpenLine {line : Int} (wanted : headerOnOpenLine doc line = .ok true) :
    ¬ doc.Headed := by
  intro headed
  unfold headerOnOpenLine at wanted
  obtain ⟨text, read, wanted⟩ := bind_eq_ok_iff.mp wanted
  split at wanted
  · next opens =>
    by_cases on_top : doc.clamp line = 0
    · -- The focus is on the first line, which opens no helper.
      obtain ⟨top, read_top, _, _, no_helper, _⟩ := headed.first_line
      obtain rfl : top = text := by simpa [on_top, read_top] using read
      exact absurd opens (by simp [no_helper])
    · -- Below it, the search for a header ends at the first line.
      have below : 0 < doc.clamp line := by
        unfold Document.clamp at on_top ⊢
        omega
      have found := headed.hasHeader below
      obtain ⟨has, checked, wanted⟩ := bind_eq_ok_iff.mp wanted
      obtain rfl : true = has := by simpa [found] using checked
      simp at wanted
  · simp at wanted

theorem not_headed_of_headerAtTop {line : Int} (wanted : headerAtTop doc line = .ok true) :
    ¬ doc.Headed := by
  intro headed
  obtain ⟨preamble, skipped, wanted⟩ := bind_eq_ok_iff.mp wanted
  obtain rfl : ⟨false, 0⟩ = preamble := by simpa [headed.preamble] using skipped
  simp at wanted

theorem not_headed_of_wantsHeader {grammar : Grammar} (wanted : wantsHeader grammar doc = .ok true) :
    ¬ doc.Headed := by
  intro headed
  unfold wantsHeader at wanted
  split at wanted
  · simp at wanted
  · obtain ⟨preamble, skipped, wanted⟩ := bind_eq_ok_iff.mp wanted
    obtain rfl : ⟨false, 0⟩ = preamble := by simpa [headed.preamble] using skipped
    simp at wanted

end Planner

end Docblock
