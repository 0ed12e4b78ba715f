import Docblock.Proofs.CommentCompletions
import Docblock.Proofs.SearchOrder

/-! Completions above the end of a comment. Wherever the comment came from, what is offered in it suits the
declaration under it: the search starts under the line that closes the comment, so that it is led over blank lines
and annotations downward, and what is declared above the comment does not count. -/

set_option autoImplicit false

namespace Docblock

def Document.HoldsAt (doc : Document) (part : Text) (line : Int) : Prop :=
  ∃ text, doc.line line = .ok text ∧ text.holds part = true

variable {dialect : Dialect} {windows : Windows} {doc : Document} {line code close : Int} {site : Site}

theorem Comment.blockEnd_eq_some_iff {lookahead : Int} (above : 0 ≤ line) :
    blockEnd doc line lookahead = .ok (some close) ↔
      IsLeast {i | line ≤ i ∧ i ≤ line + lookahead ∧ doc.HoldsAt closer i} close := by
  have test {i : Int} {text : Text} (read : doc.line i = .ok text) (answer : Option Int) :
      (do return if (← doc.line i).holds closer then some i else none : Except OutOfRange (Option Int)) =
        .ok answer ↔ (if text.holds closer then some i else none) = answer := by
    rw [read]
    exact pure_eq_ok_iff
  unfold blockEnd
  rw [max_eq_right above, scanDown_eq_some_iff]
  constructor
  · intro found
    obtain ⟨i, from_line, to_bottom, hit, nearer⟩ := found
    obtain ⟨text, read, told⟩ := bind_eq_ok_iff.mp hit
    have closes : text.holds closer = true ∧ i = close := by simpa using told
    obtain ⟨holds, rfl⟩ := closes
    refine ⟨⟨from_line, by omega, text, read, holds⟩, fun j member => ?_⟩
    obtain ⟨from_line, _, other, other_read, other_holds⟩ := member
    by_contra passed
    have silent := (test other_read none).mp (nearer j from_line (by omega))
    simp [other_holds] at silent
  · intro first
    obtain ⟨⟨from_line, to_bottom, text, read, holds⟩, least⟩ := first
    have within := Document.line_within read
    refine ⟨close, from_line, by omega, (test read _).mpr (if_pos holds), fun j from_line closer_by => ?_⟩
    obtain ⟨other, other_read⟩ : ∃ other, doc.line j = .ok other := Document.exists_line (by omega) (by omega)
    refine (test other_read _).mpr (if_neg fun other_holds => ?_)
    have reached : close ≤ j := least ⟨from_line, by omega, other, other_read, other_holds⟩
    omega

namespace Completion

theorem run_from_code (window : 0 ≤ windows.declaration) (above : 0 ≤ code) (filled : ¬ doc.BlankAt code)
    (stops : IsLeast (AnnotationRun.outside (dialect.grammar windows) doc code) site.line)
    (declares : site.Declares (dialect.grammar windows) doc) :
    ∃ search, Search.run (dialect.grammar windows) doc code = .ok search ∧ search.site? = some site := by
  have window : 0 ≤ (dialect.grammar windows).windows.declaration := by simpa using window
  have code_le : code ≤ site.line := stops.1.1
  rcases code_le.eq_or_lt with rfl | to_site
  · obtain ⟨search, ran, found⟩ := bind_eq_ok_iff.mp (Search.locate_declaring declares window)
    exact ⟨search, ran, pure_eq_ok_iff.mp found⟩
  · obtain ⟨code, rfl⟩ := Int.eq_ofNat_of_zero_le above
    have parted (i : Nat) (from_code : code ≤ i) (to_site : i < site.line) :
        doc.BlankAt i ∨ (dialect.grammar windows).bareAnnotationAt doc i = .ok true := by
      by_contra stops_here
      have reached : (site.line : Int) ≤ i := stops.2
        ⟨Int.ofNat_le.mpr from_code, fun passed => stops_here (AnnotationRun.blankOrBare_eq_true_iff.mp passed)⟩
      omega
    have annotated := (parted code le_rfl (by omega)).resolve_left filled
    exact ⟨_, Search.run_of_annotation declares window (by omega) annotated parted, rfl⟩

/-- In a comment that is closed at the cursor or below it, the completions are the tags that all declarations share,
then those of the declaration under the comment, if it stands there by itself or behind annotations and blank
lines, and then the inline references. -/
theorem completions_above_code (dialect : Dialect) (windows : Windows) (doc : Document) (line character : Int)
    (close code : Int) (site : Site) (window : 0 ≤ windows.declaration)
    (inside : Comment.inside doc line windows.commentLookback = .ok true)
    (closes : IsLeast {i | line ≤ i ∧ i ≤ line + windows.commentLookback ∧ doc.HoldsAt Comment.closer i} close)
    (starts : IsLeast {i | close < i ∧ ¬ doc.BlankAt i} code)
    (stops : IsLeast (AnnotationRun.outside (dialect.grammar windows) doc code) site.line)
    (declares : site.Declares (dialect.grammar windows) doc) :
    ∃ search replaces offered, atSign doc line character = .ok replaces ∧
      suggest (dialect.grammar windows) doc line character = .ok (search, offered) ∧ search.site? = some site ∧
      offered = all dialect site.kind replaces ∧
      offered.map (·.label) =
        commonTags dialect ++ kindTags dialect site.kind ++ (inlineReferences dialect).map (·.1) := by
  have above := Comment.nonneg_of_inside inside
  have from_line : line ≤ close := closes.1.1
  have under : close < code := starts.1.1
  have code_le : code ≤ site.line := stops.1.1
  have within := declares.within
  have windows_eq : (dialect.grammar windows).windows = windows := Dialect.windows_grammar dialect windows
  have readable (i : Int) (from_close : close < i) (to_code : i ≤ code) : ∃ text, doc.line i = .ok text :=
    Document.exists_line (by omega) (by omega)
  have blank (i : Int) (from_close : close < i) (to_code : i < code) : doc.BlankAt i := by
    by_contra filled
    have reached : code ≤ i := starts.2 ⟨from_close, filled⟩
    omega
  have filled : ∃ text, doc.line code = .ok text ∧ text.blank = false := by
    obtain ⟨text, read⟩ := readable code under le_rfl
    exact ⟨text, read, by simpa using fun is_blank => starts.1.2 ⟨text, read, is_blank⟩⟩
  have ends : Comment.blockEnd doc line (dialect.grammar windows).windows.commentLookback = .ok (some close) := by
    rw [windows_eq]
    exact (Comment.blockEnd_eq_some_iff above).mpr closes
  obtain ⟨search, ran, found⟩ := run_from_code window (by omega) starts.1.2 stops declares
  have focus_eq := focus_of_closed ends under blank filled
  obtain ⟨replaces, signed, suggested⟩ :=
    suggest_of_search (by rw [windows_eq]; exact inside) focus_eq ran found character
  rw [Dialect.dialect_grammar] at suggested
  exact ⟨search, replaces, _, signed, suggested, found, rfl, labels_all dialect site.kind replaces⟩

def annotatedBox : Document :=
  ⟨["class Box \x7b".toList, "  /** @".toList, "   */".toList, "".toList, "  @AuraEnabled".toList, "  ".toList,
    "  void run() \x7b".toList]⟩

-- The class stands closer to the comment than the method.
theorem completions_above_code_of_method :
    ∃ search replaces offered, atSign annotatedBox 1 7 = .ok replaces ∧
      suggest (Apex.grammar {}) annotatedBox 1 7 = .ok (search, offered) ∧
      search.site? = some ⟨.method, 6⟩ ∧ offered = all .apex .method replaces ∧
      offered.map (·.label) =
        commonTags .apex ++ kindTags .apex .method ++ (inlineReferences .apex).map (·.1) := by
  have closes : IsLeast {i : Int | 1 ≤ i ∧ i ≤ 1 + 100 ∧ annotatedBox.HoldsAt Comment.closer i} 2 := by
    refine ⟨⟨by decide, by decide, _, rfl, by decide⟩, fun i member => ?_⟩
    obtain ⟨from_line, _, text, read, holds⟩ := member
    by_contra passed
    obtain rfl : i = 1 := by omega
    obtain rfl := Except.ok.inj read
    exact absurd holds (by decide)
  have starts : IsLeast {i : Int | 2 < i ∧ ¬ annotatedBox.BlankAt i} 4 := by
    have annotated : (Dialect.apex.grammar {}).bareAnnotationAt annotatedBox 4 = .ok true := by decide
    refine ⟨⟨by decide, fun blank => blank.not_bare annotated⟩, fun i member => ?_⟩
    by_contra passed
    obtain rfl : i = 3 := by
      have under := member.1
      omega
    exact member.2 ⟨_, rfl, by decide⟩
  have stops : IsLeast (AnnotationRun.outside (Apex.grammar {}) annotatedBox 4) (6 : Nat) := by
    refine ⟨⟨by decide, by decide⟩, fun i member => ?_⟩
    obtain ⟨from_code, fails⟩ := member
    by_contra passed
    rcases (by omega : i = 4 ∨ i = 5) with rfl | rfl
    · exact fails (by decide)
    · exact fails (by decide)
  have declares : (Apex.grammar {}).kindAt annotatedBox 6 = .ok (some .method) := by decide
  exact completions_above_code .apex {} annotatedBox 1 7 2 4 ⟨.method, 6⟩ (by decide) (by decide) closes starts
    stops declares

end Completion

end Docblock
