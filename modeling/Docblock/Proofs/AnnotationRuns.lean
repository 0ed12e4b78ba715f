import Docblock.Proofs.Bounds
import Mathlib.Algebra.Order.Group.Abs
import Mathlib.Algebra.Order.Group.Int
import Mathlib.Order.Interval.Set.UnorderedInterval

/-! Annotation runs. A line touches a run exactly if only blank lines and annotations part it from an annotation
inside the window. The place of a comment is above the annotations that stand over its declaration, from which
nothing but blank lines part them, and above all of these. -/

set_option autoImplicit false

namespace Docblock

def Document.BlankAt (doc : Document) (line : Int) : Prop :=
  ∃ text, doc.line line = .ok text ∧ text.blank = true

section
variable {dialect : Dialect} {windows : Windows} {doc : Document} {line : Int}

theorem opening?_of_bareAnnotationAt (bare : (dialect.grammar windows).bareAnnotationAt doc line = .ok true) :
    ∃ text, doc.line line = .ok text ∧ text.opening? = some '@' := by
  obtain ⟨text, read, bare⟩ := bind_eq_ok_iff.mp bare
  split at bare
  · next annotation => exact ⟨text, read, Dialect.opening?_of_isAnnotationLine annotation⟩
  · simp at bare

theorem filled_of_bareAnnotationAt (bare : (dialect.grammar windows).bareAnnotationAt doc line = .ok true) :
    ∃ text, doc.line line = .ok text ∧ text.blank = false := by
  obtain ⟨text, read, opens⟩ := opening?_of_bareAnnotationAt bare
  exact ⟨text, read, Text.blank_eq_false_of_opening? opens⟩

theorem Document.BlankAt.not_bare (blank : doc.BlankAt line) :
    (dialect.grammar windows).bareAnnotationAt doc line ≠ .ok true := by
  intro bare
  obtain ⟨text, read, is_blank⟩ := blank
  obtain ⟨other, other_read, filled⟩ := filled_of_bareAnnotationAt bare
  obtain rfl : text = other := Except.ok.inj (read.symm.trans other_read)
  simp [is_blank] at filled

end

namespace AnnotationRun

/-! ## What a walk makes of a line -/

section
variable {grammar : Grammar} {doc : Document} {line : Int}

theorem blankOrBare_eq_true_iff : blankOrBare grammar doc line = .ok true ↔
    doc.BlankAt line ∨ grammar.bareAnnotationAt doc line = .ok true := by
  unfold blankOrBare Document.BlankAt
  constructor
  · intro passed
    obtain ⟨text, read, passed⟩ := bind_eq_ok_iff.mp passed
    split at passed
    · next blank => exact .inl ⟨text, read, blank⟩
    · exact .inr passed
  · intro cases
    rcases cases with ⟨text, read, blank⟩ | bare
    · exact bind_eq_ok_iff.mpr ⟨text, read, by simp [blank]⟩
    · obtain ⟨text, read, _⟩ := bind_eq_ok_iff.mp bare
      refine bind_eq_ok_iff.mpr ⟨text, read, ?_⟩
      split
      · rfl
      · exact bare

theorem verdict_eq_none_iff : verdict grammar doc line = .ok none ↔ doc.BlankAt line := by
  unfold verdict Document.BlankAt
  rw [bind_eq_ok_iff]
  refine exists_congr fun text => and_congr_right fun _ => ?_
  cases text.blank with
  | true => simp
  | false => cases grammar.bareAnnotationAt doc line <;> simp

end

section
variable {dialect : Dialect} {windows : Windows} {doc : Document} {line : Int}

theorem verdict_eq_true_iff : verdict (dialect.grammar windows) doc line = .ok (some true) ↔
    (dialect.grammar windows).bareAnnotationAt doc line = .ok true := by
  unfold verdict
  constructor
  · intro told
    obtain ⟨text, _, told⟩ := bind_eq_ok_iff.mp told
    split at told
    · simp at told
    · obtain ⟨bare, read, told⟩ := bind_eq_ok_iff.mp told
      rwa [Option.some.inj (pure_eq_ok_iff.mp told)] at read
  · intro bare
    obtain ⟨text, read, filled⟩ := filled_of_bareAnnotationAt bare
    refine bind_eq_ok_iff.mpr ⟨text, read, ?_⟩
    rw [filled]
    exact bind_eq_ok_iff.mpr ⟨true, bare, rfl⟩

theorem verdict_of_run (run : doc.BlankAt line ∨ (dialect.grammar windows).bareAnnotationAt doc line = .ok true) :
    verdict (dialect.grammar windows) doc line = .ok none ∨
      verdict (dialect.grammar windows) doc line = .ok (some true) :=
  run.imp verdict_eq_none_iff.mpr verdict_eq_true_iff.mpr

/-! ## Lines that touch a run -/

theorem touches_eq {grammar : Grammar} {here : Bool} {up down : Option Bool} (above : 0 ≤ line)
    (below : line < doc.count) (read : grammar.bareAnnotationAt doc line = .ok here)
    (scanned_up : scanUp line (max 0 (line - grammar.windows.annotationRun)) (verdict grammar doc) = .ok up)
    (scanned_down : scanDown line (min (doc.count - 1) (line + grammar.windows.annotationRun))
      (verdict grammar doc) = .ok down) :
    touches grammar doc line = .ok (here || decide (up = some true) || decide (down = some true)) := by
  unfold touches
  rw [if_neg (by omega), read]
  cases here with
  | true => rfl
  | false =>
    simp only [scanned_up, scanned_down, bind, Except.bind]
    by_cases found : up = some true
    · simp [found]
    · simp [found]

/-- From the line, blank lines and annotations lead to an annotation. -/
def LeadsTo (grammar : Grammar) (doc : Document) (line goal : Int) : Prop :=
  grammar.bareAnnotationAt doc goal = .ok true ∧
    ∀ i ∈ Set.uIcc line goal, doc.BlankAt i ∨ grammar.bareAnnotationAt doc i = .ok true

variable {window : Int}

theorem scanUp_verdict_iff :
    scanUp line (max 0 (line - window)) (verdict (dialect.grammar windows) doc) = .ok (some true) ↔
      ∃ goal, line - window ≤ goal ∧ goal ≤ line ∧ LeadsTo (dialect.grammar windows) doc line goal := by
  constructor
  · intro scanned
    obtain ⟨goal, from_top, to_line, hit, nearer⟩ := scanUp_eq_some_iff.mp scanned
    have annotated := verdict_eq_true_iff.mp hit
    refine ⟨goal, by omega, to_line, annotated, fun i between => ?_⟩
    rw [Set.uIcc_of_ge to_line, Set.mem_Icc] at between
    rcases between.1.eq_or_lt with rfl | closer
    · exact .inr annotated
    · exact .inl (verdict_eq_none_iff.mp (nearer i closer between.2))
  · intro reached
    obtain ⟨goal, from_top, to_line, annotated, run⟩ := reached
    obtain ⟨_, read, _⟩ := filled_of_bareAnnotationAt annotated
    have nonneg := (Document.line_within read).1
    refine scanUp_of_passed (by omega) to_line (verdict_eq_true_iff.mpr annotated) fun i closer below => ?_
    exact verdict_of_run (run i (by simp [Set.uIcc_of_ge to_line]; omega))

theorem scanDown_verdict_iff :
    scanDown line (min (doc.count - 1) (line + window)) (verdict (dialect.grammar windows) doc) = .ok (some true) ↔
      ∃ goal, goal ≤ line + window ∧ line ≤ goal ∧ LeadsTo (dialect.grammar windows) doc line goal := by
  constructor
  · intro scanned
    obtain ⟨goal, from_line, to_bottom, hit, nearer⟩ := scanDown_eq_some_iff.mp scanned
    have annotated := verdict_eq_true_iff.mp hit
    refine ⟨goal, by omega, from_line, annotated, fun i between => ?_⟩
    rw [Set.uIcc_of_le from_line, Set.mem_Icc] at between
    rcases between.2.eq_or_lt with rfl | closer
    · exact .inr annotated
    · exact .inl (verdict_eq_none_iff.mp (nearer i between.1 closer))
  · intro reached
    obtain ⟨goal, to_bottom, from_line, annotated, run⟩ := reached
    obtain ⟨_, read, _⟩ := filled_of_bareAnnotationAt annotated
    have within := (Document.line_within read).2
    refine scanDown_of_passed from_line (by omega) (verdict_eq_true_iff.mpr annotated) fun i below closer => ?_
    exact verdict_of_run (run i (by simp [Set.uIcc_of_le from_line]; omega))

/-- A line touches a run exactly if an annotation stands inside the window, above or below it, to which only blank
lines and annotations lead. -/
theorem touches_iff (dialect : Dialect) (windows : Windows) (doc : Document) (line : Int) (above : 0 ≤ line)
    (below : line < doc.count) (window : 0 ≤ windows.annotationRun) :
    ∃ answer, touches (dialect.grammar windows) doc line = .ok answer ∧
      (answer = true ↔ ∃ goal, |goal - line| ≤ windows.annotationRun ∧
        LeadsTo (dialect.grammar windows) doc line goal) := by
  have bounded := dialect.bounded windows doc
  obtain ⟨here, read⟩ := bounded.bareAnnotationAt_ok above below
  obtain ⟨up, scanned_up⟩ : ∃ up, scanUp line (max 0 (line - windows.annotationRun))
      (verdict (dialect.grammar windows) doc) = .ok up :=
    scanUp_ok fun i _ _ => bounded.verdict_ok (by omega) (by omega)
  obtain ⟨down, scanned_down⟩ : ∃ down, scanDown line (min (doc.count - 1) (line + windows.annotationRun))
      (verdict (dialect.grammar windows) doc) = .ok down :=
    scanDown_ok fun i _ _ => bounded.verdict_ok (by omega) (by omega)
  have told := touches_eq above below read (by simpa using scanned_up) (by simpa using scanned_down)
  refine ⟨_, told, ?_⟩
  simp only [Bool.or_eq_true, decide_eq_true_eq]
  constructor
  · intro touched
    rcases touched with (annotated | rfl) | rfl
    · refine ⟨line, by simpa using window, annotated ▸ read, fun i between => ?_⟩
      obtain rfl : i = line := by simpa using between
      exact .inr (annotated ▸ read)
    · obtain ⟨goal, from_top, to_line, leads⟩ := scanUp_verdict_iff.mp scanned_up
      exact ⟨goal, abs_le.mpr ⟨by omega, by omega⟩, leads⟩
    · obtain ⟨goal, to_bottom, from_line, leads⟩ := scanDown_verdict_iff.mp scanned_down
      exact ⟨goal, abs_le.mpr ⟨by omega, by omega⟩, leads⟩
  · intro reached
    obtain ⟨goal, near, leads⟩ := reached
    obtain ⟨near_above, near_below⟩ := abs_le.mp near
    rcases le_total goal line with to_line | from_line
    · have found := scanned_up.symm.trans (scanUp_verdict_iff.mpr ⟨goal, by omega, to_line, leads⟩)
      exact .inl (.inr (Except.ok.inj found))
    · have found := scanned_down.symm.trans (scanDown_verdict_iff.mpr ⟨goal, by omega, from_line, leads⟩)
      exact .inr (Except.ok.inj found)

def spaced : Document :=
  ⟨["class Box \x7b".toList, "  @TestVisible".toList, "".toList, "  ".toList, "  @Future void run() \x7b".toList]⟩

-- The annotation is as far away as the window goes; one that shares its line with a method is no way out.
theorem touches_iff_at_edge :
    touches (Apex.grammar { annotationRun := 2 }) spaced 3 = .ok true ∧
      touches (Apex.grammar { annotationRun := 1 }) spaced 3 = .ok false := by
  have leads : LeadsTo (Apex.grammar { annotationRun := 2 }) spaced 3 1 := by
    refine ⟨by decide, fun i between => ?_⟩
    rw [Set.uIcc_of_ge (by decide), Set.mem_Icc] at between
    rcases (by omega : i = 1 ∨ i = 2 ∨ i = 3) with rfl | rfl | rfl
    · exact .inr (by decide)
    · exact .inl ⟨_, rfl, by decide⟩
    · exact .inl ⟨_, rfl, by decide⟩
  obtain ⟨answer, told, reached⟩ :=
    touches_iff .apex { annotationRun := 2 } spaced 3 (by decide) (by decide) (by decide)
  obtain rfl : answer = true := reached.mpr ⟨1, by decide, leads⟩
  exact ⟨told, by decide⟩

/-! ## Where a comment goes -/

/-- What parts a place from the line under it: annotations from the place on and then, from `below` on, blank lines.
The line above the place is no annotation, and it is not blank if there are no annotations. -/
structure Parting (grammar : Grammar) (doc : Document) (line place below : Nat) : Prop where
  place_le : place ≤ below
  below_le : below ≤ line
  bare : ∀ i : Nat, place ≤ i → i < below → grammar.bareAnnotationAt doc i = .ok true
  blank : ∀ i : Nat, below ≤ i → i < line → doc.BlankAt i
  no_annotation : 0 < place → grammar.bareAnnotationAt doc (place - 1 : Nat) = .ok false
  no_blank : 0 < place → place = below → ¬ doc.BlankAt (place - 1 : Nat)

section
variable {grammar : Grammar} {doc : Document} {line place below : Nat}

theorem parting_of_insertionLine (within : line ≤ doc.count) (placed : insertionLine grammar doc line = .ok place) :
    ∃ below, Parting grammar doc line place below := by
  obtain ⟨below, skipped, placed⟩ := bind_eq_ok_iff.mp placed
  obtain ⟨below_le, blank, no_blank⟩ := skipUp_eq_ok_iff.mp skipped
  obtain ⟨place_le, bare, no_annotation⟩ := skipUp_eq_ok_iff.mp placed
  refine ⟨below, place_le, by omega, bare, fun i from_below to_line => ?_, no_annotation, fun some_line same => ?_⟩
  · obtain ⟨text, read, passed⟩ := bind_eq_ok_iff.mp (blank i from_below (by omega))
    exact ⟨text, read, pure_eq_ok_iff.mp passed⟩
  · rintro ⟨text, read, is_blank⟩
    obtain ⟨other, other_read, failed⟩ := bind_eq_ok_iff.mp (no_blank (same ▸ some_line))
    obtain rfl : text = other := Except.ok.inj (read.symm.trans (same ▸ other_read))
    simp [is_blank] at failed

end

section
variable {place below : Nat} {line : Nat}

namespace Parting
variable (parting : Parting (dialect.grammar windows) doc line place below)
include parting

theorem not_blank_above (some_line : 0 < below) : ¬ doc.BlankAt (below - 1 : Nat) := by
  rcases parting.place_le.eq_or_lt with same | annotations
  · rw [← same]
    exact parting.no_blank (same ▸ some_line) same
  · intro blank
    exact blank.not_bare (parting.bare (below - 1) (by omega) (by omega))

/-- A run that leads from an annotation to the line is parted from it as a whole exactly if no annotation of the run
stands under one of its blank lines. -/
theorem place_le_iff {focus : Nat} (annotated : (dialect.grammar windows).bareAnnotationAt doc focus = .ok true)
    (run : ∀ i : Nat, focus < i → i < line →
      doc.BlankAt i ∨ (dialect.grammar windows).bareAnnotationAt doc i = .ok true) :
    place ≤ focus ↔ ∀ i j : Nat, focus < i → i < j → j < line → doc.BlankAt i →
      (dialect.grammar windows).bareAnnotationAt doc j ≠ .ok true := by
  have place_le := parting.place_le
  have below_le := parting.below_le
  constructor
  · intro placed i j from_focus upper to_line blank bare
    by_cases annotations : j < below
    · exact blank.not_bare (parting.bare i (by omega) (by omega))
    · exact (parting.blank j (by omega) to_line).not_bare bare
  · intro unbroken
    by_contra passed
    have bare_above : (dialect.grammar windows).bareAnnotationAt doc (place - 1 : Nat) ≠ .ok true := by
      simp [parting.no_annotation (by omega)]
    have from_focus : focus < place - 1 := by
      have other : place - 1 ≠ focus := fun same => bare_above (same ▸ annotated)
      omega
    -- The line above the place is one of the run, and no annotation, so that annotations stand under it.
    have blank : doc.BlankAt (place - 1 : Nat) := (run (place - 1) from_focus (by omega)).resolve_right bare_above
    have annotations : place ≠ below := fun same => parting.no_blank (by omega) same blank
    exact unbroken (place - 1) place from_focus (by omega) (by omega) blank (parting.bare place le_rfl (by omega))

end Parting

theorem insertionLine_of_parting (within : line ≤ doc.count)
    (parting : Parting (dialect.grammar windows) doc line place below) :
    insertionLine (dialect.grammar windows) doc line = .ok place := by
  have below_le := parting.below_le
  have skipped : skipUp (fun i => return (← doc.line i).blank) (min (line : Int) doc.count).toNat = .ok below := by
    refine skipUp_eq_ok_iff.mpr ⟨by omega, fun i from_below to_line => ?_, fun some_line => ?_⟩
    · obtain ⟨text, read, blank⟩ := parting.blank i from_below (by omega)
      exact bind_eq_ok_iff.mpr ⟨text, read, pure_eq_ok_iff.mpr blank⟩
    · obtain ⟨text, read⟩ : ∃ text, doc.line (below - 1 : Nat) = .ok text :=
        Document.exists_line (by omega) (by omega)
      refine bind_eq_ok_iff.mpr ⟨text, read, pure_eq_ok_iff.mpr ?_⟩
      rw [← Bool.not_eq_true]
      exact fun blank => parting.not_blank_above some_line ⟨text, read, blank⟩
  exact bind_eq_ok_iff.mpr ⟨below, skipped,
    skipUp_eq_ok_iff.mpr ⟨parting.place_le, parting.bare, parting.no_annotation⟩⟩

/-- A comment has a place for each line, and it is the one that nothing but a run of annotations and then blank lines
part from the line, and that no more of the run stands above. -/
theorem insertionLine_eq_ok_iff (dialect : Dialect) (windows : Windows) (doc : Document) (line : Nat)
    (within : line ≤ doc.count) :
    (∃ place, insertionLine (dialect.grammar windows) doc line = .ok place) ∧
      ∀ place, insertionLine (dialect.grammar windows) doc line = .ok place ↔
        ∃ below, Parting (dialect.grammar windows) doc line place below := by
  refine ⟨(dialect.bounded windows doc).insertionLine_ok line, fun place => ⟨parting_of_insertionLine within, ?_⟩⟩
  rintro ⟨below, parting⟩
  exact insertionLine_of_parting within parting

def decorated : Document :=
  ⟨["  @api recordId;".toList, "  @api".toList, "  @track".toList, "".toList, "  title;".toList]⟩

-- The first line declares a field of its own.
theorem insertionLine_eq_ok_iff_below_field :
    insertionLine (JavaScript.grammar {}) decorated 4 = .ok 1 ∧
      ∃ below, Parting (JavaScript.grammar {}) decorated 4 1 below := by
  have placed : insertionLine (JavaScript.grammar {}) decorated 4 = .ok 1 := by decide
  exact ⟨placed, ((insertionLine_eq_ok_iff .javaScript {} decorated 4 (by decide)).2 1).mp placed⟩

end

end

end AnnotationRun

/-! ## Searches from annotations -/

namespace Search
variable {grammar : Grammar} {doc : Document} {site : Site}

/-- A search that starts on an annotation ends at the declaration under it, if only annotations and blank lines
part the two. -/
theorem run_of_annotation {line : Nat} (declares : site.Declares grammar doc)
    (window : 0 ≤ grammar.windows.declaration) (above : line ≤ site.line)
    (annotated : grammar.bareAnnotationAt doc line = .ok true)
    (parted : ∀ i : Nat, line ≤ i → i < site.line → doc.BlankAt i ∨ grammar.bareAnnotationAt doc i = .ok true) :
    run grammar doc line = .ok (found line site .annotationRun) := by
  have within := declares.within
  have filled : doc.lines.isEmpty = false := Document.lines_filled (by omega : 0 ≤ (line : Int)) (by omega)
  have focus_eq : doc.clamp line = line := Document.clamp_eq_self (by omega) (by omega)
  have touches : AnnotationRun.touches grammar doc line = .ok true := by
    unfold AnnotationRun.touches
    rw [if_neg (by omega)]
    exact bind_eq_ok_iff.mpr ⟨true, annotated, rfl⟩
  -- The walk over the run ends on the declaration, which is neither blank nor an annotation.
  have skipped : skipDown (AnnotationRun.blankOrBare grammar doc) (doc.count - max 0 (line : Int)).toNat
      (max 0 line) = .ok site.line := by
    obtain ⟨text, read, text_filled, bare⟩ := Grammar.filled_of_kindAt declares
    refine skipDown_eq_ok_iff.mpr ⟨by omega, by omega, fun i from_line to_site => ?_, fun _ => ?_⟩
    · obtain ⟨i, rfl⟩ := Int.eq_ofNat_of_zero_le (by omega : 0 ≤ i)
      exact AnnotationRun.blankOrBare_eq_true_iff.mpr (parted i (by omega) (by omega))
    · exact bind_eq_ok_iff.mpr ⟨text, read, by simpa [text_filled] using bare⟩
  have hit : scanDown site.line (min (doc.count - 1) (site.line + grammar.windows.declaration))
      (siteAt grammar doc) = .ok (some site) :=
    scanDown_eq_some_iff.mpr ⟨site.line, by omega, by omega, siteAt_eq_some_iff.mpr ⟨declares, rfl⟩,
      fun j _ _ => by omega⟩
  have redirected : AnnotationRun.nextDeclaration grammar doc line = .ok (some site) :=
    bind_eq_ok_iff.mpr ⟨site.line, skipped, hit⟩
  simp only [run, filled, focus_eq, Bool.false_eq_true, if_false]
  refine bind_eq_ok_iff.mpr ⟨true, touches, ?_⟩
  exact bind_eq_ok_iff.mpr ⟨some site, redirected, rfl⟩

end Search

end Docblock
