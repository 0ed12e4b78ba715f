import Docblock.Proofs.AnnotationRuns

/-! Comments asked for from an annotation. The search goes from the annotation to the declaration at the end of its
run, over blank lines wherever they stand. The place of the comment is above the annotations that stand together over
that declaration, so that it is above the annotation asked from exactly if no blank line parts the two. -/

set_option autoImplicit false

namespace Docblock.Planner
variable {store : Template.Store} {cache : Template.Cache} {dialect : Dialect} {windows : Windows} {doc : Document}
  {focus : Nat} {plan : Plan}

theorem no_header_from_annotation
    (annotated : (dialect.grammar windows).bareAnnotationAt doc focus = .ok true)
    (made : (generate store cache (dialect.grammar windows) doc focus).plan? = some plan) :
    plan.isFileHeader = false := by
  obtain ⟨text, read, annotation⟩ := opening?_of_bareAnnotationAt annotated
  obtain ⟨on_open_line, at_top⟩ := no_header_on_annotation read annotation
  rw [← Bool.not_eq_true]
  intro header
  obtain ⟨_, _, wanted, _⟩ := header_wanted made header
  exact wanted.elim on_open_line at_top

/-- A search from an annotation finds the declaration at the end of its run. The comment that is planned from there
is one for that declaration, and it goes above the annotation exactly if no other annotation of the run stands
between the two under a blank line. -/
theorem plan_from_annotated (store : Template.Store) (cache : Template.Cache) (dialect : Dialect) (windows : Windows)
    (doc : Document) (focus : Nat) (site : Site)
    (annotated : (dialect.grammar windows).bareAnnotationAt doc focus = .ok true) (above : focus < site.line)
    (run : ∀ i : Nat, focus < i → i < site.line →
      doc.BlankAt i ∨ (dialect.grammar windows).bareAnnotationAt doc i = .ok true)
    (declares : site.Declares (dialect.grammar windows) doc) :
    (0 ≤ windows.declaration → locate (dialect.grammar windows) doc focus = .ok (some site)) ∧
      ∀ plan, (generate store cache (dialect.grammar windows) doc focus).plan? = some plan →
        plan.kind = some site.kind ∧ plan.declarationLine = some (site.line : Int) ∧
          (plan.insertLine ≤ focus ↔ ∀ i j : Nat, focus < i → i < j → j < site.line → doc.BlankAt i →
            (dialect.grammar windows).bareAnnotationAt doc j ≠ .ok true) := by
  have parted : ∀ i : Nat, focus ≤ i → i < site.line →
      doc.BlankAt i ∨ (dialect.grammar windows).bareAnnotationAt doc i = .ok true := by
    intro i from_focus to_site
    rcases from_focus.eq_or_lt with rfl | below
    · exact .inr annotated
    · exact run i below to_site
  have ends (window : 0 ≤ (dialect.grammar windows).windows.declaration) :
      Search.run (dialect.grammar windows) doc focus = .ok (.found focus site .annotationRun) :=
    Search.run_of_annotation declares window above.le annotated parted
  refine ⟨fun window => ?_, fun plan made => ?_⟩
  · exact bind_eq_ok_iff.mpr ⟨_, ends (by simpa using window), rfl⟩
  · have no_header := no_header_from_annotation annotated made
    cases generate_answered (Outcome.plan?_eq_some_iff.mp made) with
    | header header => simp [no_header] at header
    | @site search found name template plan ran at_site filled =>
      have reached := ends (Search.run_sound ran at_site).2
      obtain rfl : Search.found focus site .annotationRun = search := Except.ok.inj (reached.symm.trans ran)
      obtain rfl : site = found := Option.some.inj at_site
      obtain ⟨_, _, place, _, _, placed, rfl⟩ := fill_eq_ok_iff.mp filled
      obtain ⟨below, parting⟩ := AnnotationRun.parting_of_insertionLine declares.within.le placed
      exact ⟨rfl, rfl, Int.ofNat_le.trans (parting.place_le_iff annotated run)⟩

def together : Document :=
  ⟨["class Box \x7b".toList, "  @AuraEnabled".toList, "  @TestVisible".toList, "".toList, "  void run() \x7b".toList]⟩

-- The blank line stands under both annotations.
theorem plan_from_annotated_method :
    ∃ plan, (generate .bundled [] (Apex.grammar {}) together 1).plan? = some plan ∧
      plan.kind = some .method ∧ plan.declarationLine = some 4 ∧ plan.insertLine ≤ 1 := by
  obtain ⟨plan, made, _⟩ : ∃ plan, (generate .bundled [] (Apex.grammar {}) together 1).plan? = some plan ∧
      (!plan.isFileHeader) = true :=
    (Option.any_eq_true _ _).mp (by decide +kernel)
  have run (i : Nat) (from_focus : 1 < i) (to_site : i < 4) :
      together.BlankAt i ∨ (Apex.grammar {}).bareAnnotationAt together i = .ok true := by
    rcases (by omega : i = 2 ∨ i = 3) with rfl | rfl
    · exact .inr (by decide)
    · exact .inl ⟨_, rfl, by decide⟩
  have declared : (Apex.grammar {}).kindAt together 4 = .ok (some .method) := by decide
  obtain ⟨kind, line, placed⟩ := (plan_from_annotated .bundled [] .apex {} together 1 ⟨.method, 4⟩ (by decide)
    (by decide) run declared).2 plan made
  refine ⟨plan, made, kind, line, placed.mpr fun i j from_focus upper to_site _ => ?_⟩
  obtain rfl : j = 3 := by
    have to_site : j < 4 := to_site
    omega
  decide

def apart : Document :=
  ⟨["class Box \x7b".toList, "  @AuraEnabled".toList, "".toList, "  @TestVisible".toList, "  void run() \x7b".toList]⟩

/-- A comment asked for from an annotation above a blank line and another annotation goes between the two. -/
theorem comment_below_annotation :
    (Apex.grammar {}).bareAnnotationAt apart 1 = .ok true ∧ apart.BlankAt 2 ∧
      (Apex.grammar {}).bareAnnotationAt apart 3 = .ok true ∧
      (Apex.grammar {}).kindAt apart 4 = .ok (some .method) ∧
      ∃ plan, (generate .bundled [] (Apex.grammar {}) apart 1).plan? = some plan ∧
        plan.declarationLine = some 4 ∧ 1 < plan.insertLine := by
  obtain ⟨plan, made, told⟩ : ∃ plan, (generate .bundled [] (Apex.grammar {}) apart 1).plan? = some plan ∧
      (plan.declarationLine == some 4 && decide (1 < plan.insertLine)) = true :=
    (Option.any_eq_true _ _).mp (by decide +kernel)
  obtain ⟨line, below⟩ : plan.declarationLine = some 4 ∧ 1 < plan.insertLine := by simpa using told
  exact ⟨by decide, ⟨_, rfl, by decide⟩, by decide, by decide, plan, made, line, below⟩

end Docblock.Planner
