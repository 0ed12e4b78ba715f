import Docblock.Completion
import Docblock.Proofs.Agreement
import Docblock.Proofs.HelperHeaders
import Docblock.Proofs.Signatures

/-! Bounds. Wherever a walk starts and however far it may look, it reads no line that the document does not
have, so that every search comes to an answer. -/

set_option autoImplicit false

namespace Docblock

theorem Document.clamp_within {doc : Document} (filled : doc.lines ≠ []) (line : Int) :
    0 ≤ doc.clamp line ∧ doc.clamp line < doc.count := by
  have some_line : 0 < doc.count := List.length_pos_iff.mpr filled
  unfold clamp
  omega

/-- A grammar whose own looks around a line of the document stay in the document. -/
structure Grammar.Bounded (grammar : Grammar) (doc : Document) : Prop where
  surroundings : ∀ rule ∈ grammar.rules, ∀ (line : Int) (text : Text), 0 ≤ line → line < doc.count →
    ∃ passes, rule.surroundings doc line text = .ok passes
  signatureStart : ∀ (line : Int) (kind : Kind), 0 ≤ line → line < doc.count →
    ∃ start?, grammar.signatureStart doc line kind = .ok start? ∧
      ∀ start, start? = some start → 0 ≤ start ∧ start < doc.count

/-! ## The two grammars -/

namespace Apex
variable {windows : Windows} {doc : Document} {line : Int}

theorem insideEnum_ok (below : line < doc.count) : ∃ inside, insideEnum windows doc line = .ok inside := by
  refine bind_ok (scanUp_ok fun i from_top to_line => ?_) fun nearest _ => ⟨_, rfl⟩
  exact Document.bind_line_ok (by omega) (by omega) fun text => ⟨_, rfl⟩

theorem enclosingName?_ok (windows : Windows) (doc : Document) (line : Int) :
    ∃ name, enclosingName? windows doc line = .ok name :=
  (grammar windows).enclosingType?_ok doc line

theorem callsEnclosingClass_ok (windows : Windows) (doc : Document) (line : Int) (text : Text) :
    ∃ calls, callsEnclosingClass windows doc line text = .ok calls := by
  refine bind_ok (enclosingName?_ok windows doc line) fun name _ => ?_
  cases name with
  | none => exact ⟨_, rfl⟩
  | some className => exact ⟨_, rfl⟩

theorem nearestLike_ok (shape : Pattern) (window : Int) (above : 0 ≤ line) (below : line < doc.count) :
    ∃ found, nearestLike shape window doc line = .ok found ∧
      ∀ i, found = some i → 0 ≤ i ∧ i < doc.count := by
  have reads (i : Int) (from_first : 0 ≤ i) (to_last : i < doc.count) : ∃ answer, likeAt shape doc i = .ok answer :=
    Document.bind_line_ok from_first to_last fun text => ⟨_, rfl⟩
  rw [nearestLike_eq]
  obtain ⟨up, scanned_up⟩ : ∃ up, scanUp line (max 0 (line - window)) (likeAt shape doc) = .ok up :=
    scanUp_ok fun i from_top to_line => reads i (by omega) (by omega)
  cases up with
  | some i =>
    obtain ⟨j, from_top, to_line, like, _⟩ := scanUp_eq_some_iff.mp scanned_up
    refine ⟨some i, bind_eq_ok_iff.mpr ⟨some i, scanned_up, rfl⟩, fun other other_eq => ?_⟩
    obtain rfl := Option.some.inj other_eq
    have same := eq_of_likeAt like
    omega
  | none =>
    obtain ⟨down, scanned_down⟩ : ∃ down, scanDown (line + 1) (min (doc.count - 1) (line + window))
        (likeAt shape doc) = .ok down :=
      scanDown_ok fun i from_line to_bottom => reads i (by omega) (by omega)
    refine ⟨down, bind_eq_ok_iff.mpr ⟨none, scanned_up, scanned_down⟩, fun i down_eq => ?_⟩
    obtain ⟨j, from_line, to_bottom, like, _⟩ := scanDown_eq_some_iff.mp (down_eq ▸ scanned_down)
    have same := eq_of_likeAt like
    omega

theorem signatureStart_ok {kind : Kind} (above : 0 ≤ line) (below : line < doc.count) :
    ∃ start?, signatureStart windows doc line kind = .ok start? ∧
      ∀ start, start? = some start → 0 ≤ start ∧ start < doc.count := by
  cases kind with
  | method => exact nearestLike_ok methodLine windows.signature above below
  | constructor =>
    obtain ⟨name, named⟩ := enclosingName?_ok windows doc line
    cases name with
    | none => exact ⟨none, bind_eq_ok_iff.mpr ⟨none, named, rfl⟩, by simp⟩
    | some className =>
      obtain ⟨start?, found, within⟩ := nearestLike_ok (constructorLine className) windows.signature above below
      exact ⟨start?, bind_eq_ok_iff.mpr ⟨some className, named, found⟩, within⟩
  | type | property | enumValue | function | var => exact ⟨none, rfl, by simp⟩

theorem bounded (windows : Windows) (doc : Document) : (grammar windows).Bounded doc where
  surroundings := by
    intro rule member line text above below
    have member : rule ∈ rules windows := member
    simp only [rules, List.mem_cons, List.not_mem_nil, or_false] at member
    rcases member with rfl | rfl | rfl | rfl | rfl
    · exact insideEnum_ok below
    · exact callsEnclosingClass_ok windows doc line text
    all_goals exact ⟨true, rfl⟩
  signatureStart := fun line kind above below => signatureStart_ok above below

end Apex

theorem JavaScript.bounded (windows : Windows) (doc : Document) : (grammar windows).Bounded doc where
  surroundings := by
    intro rule member line text _ _
    have plain : ∀ rule ∈ rules, rule.surroundings doc line text = .ok true := by simp [rules]
    exact ⟨true, plain rule member⟩
  signatureStart := by
    intro line kind above below
    refine ⟨_, rfl, fun start start_eq => ?_⟩
    split at start_eq
    · obtain rfl := Option.some.inj start_eq
      exact ⟨above, below⟩
    · simp at start_eq

@[simp] theorem Dialect.windows_grammar (dialect : Dialect) (windows : Windows) :
    (dialect.grammar windows).windows = windows := by
  cases dialect <;> rfl

theorem Dialect.opening?_of_isAnnotationLine {dialect : Dialect} {windows : Windows} {text : Text}
    (annotated : (dialect.grammar windows).isAnnotationLine text = true) : text.opening? = some '@' := by
  rw [← Text.head?_trim]
  cases dialect with
  | apex => simpa [Dialect.grammar, Apex.grammar] using annotated
  | javaScript =>
    have annotated : JavaScript.isAnnotationLine text = true := annotated
    unfold JavaScript.isAnnotationLine at annotated
    split at annotated
    · next cut => rw [cut]; rfl
    · simp at annotated

theorem Dialect.bounded (dialect : Dialect) (windows : Windows) (doc : Document) :
    (dialect.grammar windows).Bounded doc := by
  cases dialect with
  | apex => exact Apex.bounded windows doc
  | javaScript => exact JavaScript.bounded windows doc

/-! ## Walks over lines -/

namespace Grammar.Bounded
variable {grammar : Grammar} {doc : Document} {line : Int}

theorem firstKind?_ok (bounded : grammar.Bounded doc) (above : 0 ≤ line) (below : line < doc.count)
    (text : Text) {rules : List Rule} (subset : rules ⊆ grammar.rules) :
    ∃ kind?, firstKind? doc line text rules = .ok kind? := by
  induction rules with
  | nil => exact ⟨none, rfl⟩
  | cons rule rest ih =>
    obtain ⟨member, subset_below⟩ := List.cons_subset.mp subset
    have fires : ∃ fires, rule.fires doc line text = .ok fires := by
      unfold Rule.fires
      split
      · exact bounded.surroundings rule member line text above below
      · exact ⟨false, rfl⟩
    refine bind_ok fires fun fired _ => ?_
    cases fired with
    | true => exact ⟨some rule.kind, rfl⟩
    | false => exact ih subset_below

variable (bounded : grammar.Bounded doc)
include bounded

theorem kindAt_ok (above : 0 ≤ line) (below : line < doc.count) :
    ∃ kind?, grammar.kindAt doc line = .ok kind? := by
  have reads : ∃ text, grammar.declarationText doc line = .ok text :=
    Document.bind_line_ok above below fun text => ⟨_, rfl⟩
  refine bind_ok reads fun text _ => ?_
  split
  · exact ⟨none, rfl⟩
  · exact bounded.firstKind?_ok above below text (List.Subset.refl _)

theorem siteAt_ok (above : 0 ≤ line) (below : line < doc.count) :
    ∃ site?, Search.siteAt grammar doc line = .ok site? :=
  bind_ok (bounded.kindAt_ok above below) fun _ _ => ⟨_, rfl⟩

theorem bareAnnotationAt_ok (above : 0 ≤ line) (below : line < doc.count) :
    ∃ bare, grammar.bareAnnotationAt doc line = .ok bare := by
  refine Document.bind_line_ok above below fun text => ?_
  split
  · exact bind_ok (bounded.kindAt_ok above below) fun _ _ => ⟨_, rfl⟩
  · exact ⟨false, rfl⟩

/-! ## Annotation runs -/

theorem verdict_ok (above : 0 ≤ line) (below : line < doc.count) :
    ∃ answer, AnnotationRun.verdict grammar doc line = .ok answer := by
  refine Document.bind_line_ok above below fun text => ?_
  split
  · exact ⟨none, rfl⟩
  · exact bind_ok (bounded.bareAnnotationAt_ok above below) fun bare _ => ⟨_, rfl⟩

theorem touches_ok (line : Int) : ∃ touches, AnnotationRun.touches grammar doc line = .ok touches := by
  unfold AnnotationRun.touches
  split
  · exact ⟨false, rfl⟩
  · next within =>
    refine bind_ok (bounded.bareAnnotationAt_ok (by omega) (by omega)) fun bare _ => ?_
    split
    · exact ⟨true, rfl⟩
    · refine bind_ok (scanUp_ok fun i _ _ => bounded.verdict_ok (by omega) (by omega)) fun up _ => ?_
      split
      · exact ⟨true, rfl⟩
      · exact bind_ok (scanDown_ok fun i _ _ => bounded.verdict_ok (by omega) (by omega))
          fun down _ => ⟨_, rfl⟩

theorem nextDeclaration_ok (line : Int) :
    ∃ site?, AnnotationRun.nextDeclaration grammar doc line = .ok site? := by
  have skips : ∃ first, skipDown (AnnotationRun.blankOrBare grammar doc) (doc.count - max 0 line).toNat
      (max 0 line) = .ok first := by
    refine skipDown_ok fun i _ _ => ?_
    refine Document.bind_line_ok (by omega) (by omega) fun text => ?_
    split
    · exact ⟨true, rfl⟩
    · exact bounded.bareAnnotationAt_ok (by omega) (by omega)
  refine bind_ok skips fun first skipped => ?_
  have below_line := (skipDown_eq_ok_iff.mp skipped).1
  exact scanDown_ok fun i _ _ => bounded.siteAt_ok (by omega) (by omega)

theorem insertionLine_ok (line : Int) :
    ∃ number, AnnotationRun.insertionLine grammar doc line = .ok number := by
  refine bind_ok (skipUp_ok fun i _ => ?_) fun blanks skipped => skipUp_ok fun i _ => ?_
  · exact Document.bind_line_ok (by omega) (by omega) fun text => ⟨_, rfl⟩
  · have fewer := (skipUp_eq_ok_iff.mp skipped).1
    exact bounded.bareAnnotationAt_ok (by omega) (by omega)

/-! ## Searches -/

theorem nearest_ok {focus : Int} (above : 0 ≤ focus) (below : focus < doc.count) :
    ∃ search, Search.nearest grammar doc focus = .ok search := by
  refine bind_ok (scanUp_ok fun i _ _ => bounded.siteAt_ok (by omega) (by omega)) fun up _ => ?_
  cases up with
  | some site => exact ⟨_, rfl⟩
  | none =>
    refine bind_ok (scanDown_ok fun i _ _ => bounded.siteAt_ok (by omega) (by omega)) fun down _ => ?_
    cases down with
    | some site => exact ⟨_, rfl⟩
    | none => exact ⟨_, rfl⟩

theorem run_ok (line : Int) : ∃ search, Search.run grammar doc line = .ok search := by
  unfold Search.run
  split
  · exact ⟨.idle, rfl⟩
  · next filled =>
    obtain ⟨above, below⟩ := Document.clamp_within (by simpa using filled) line
    refine bind_ok (bounded.touches_ok _) fun touches _ => ?_
    cases touches with
    | false => exact bounded.nearest_ok above below
    | true =>
      refine bind_ok (bounded.nextDeclaration_ok _) fun site? _ => ?_
      cases site? with
      | some site => exact ⟨_, rfl⟩
      | none => exact bounded.nearest_ok above below

theorem locate_ok (line : Int) : ∃ site?, locate grammar doc line = .ok site? :=
  bind_ok (bounded.run_ok line) fun _ _ => ⟨_, rfl⟩

/-! ## Signatures -/

omit bounded in
theorem collect_ok {count : Nat} (above : 0 ≤ line) (below : line + count ≤ doc.count) (opened : Bool) :
    ∃ rows?, Signature.collect grammar doc count line opened = .ok rows? := by
  induction count generalizing line opened with
  | zero => exact ⟨none, rfl⟩
  | succ count ih =>
    have reads : ∃ text, grammar.declarationText doc line = .ok text :=
      Document.bind_line_ok above (by omega) fun text => ⟨_, rfl⟩
    refine bind_ok reads fun text _ => ?_
    dsimp only
    split
    · exact ⟨_, rfl⟩
    · exact bind_ok (ih (by omega) (by omega) _) fun rows? _ => ⟨_, rfl⟩

theorem parameters_ok (line : Int) (kind : Kind) :
    ∃ names, Signature.parameters grammar doc line kind = .ok names := by
  unfold Signature.parameters
  split
  · exact ⟨[], rfl⟩
  · next within =>
    obtain ⟨start?, started, start_within⟩ :=
      bounded.signatureStart line kind (by omega) (by omega)
    refine bind_ok ⟨start?, started⟩ fun other other_started => ?_
    obtain rfl : start? = other := Except.ok.inj (started.symm.trans other_started)
    cases start? with
    | none => exact ⟨[], rfl⟩
    | some start =>
      obtain ⟨above, below⟩ := start_within start rfl
      refine bind_ok (Document.bind_line_ok above below fun text => ⟨_, rfl⟩) fun text _ => ?_
      split
      · exact ⟨_, rfl⟩
      · refine bind_ok (bind_ok (collect_ok above ?_ false) fun rows? _ => ⟨_, rfl⟩) fun signature? _ => ⟨_, rfl⟩
        omega

end Grammar.Bounded

/-! ## Comments and completions -/

section
variable {doc : Document} {line : Int}

theorem Comment.inside_ok (doc : Document) (line lookback : Int) :
    ∃ within, inside doc line lookback = .ok within := by
  unfold inside
  split
  · exact ⟨false, rfl⟩
  · refine Document.bind_line_ok (by omega) (by omega) fun text => ?_
    dsimp only
    split
    · exact ⟨true, rfl⟩
    · refine bind_ok (scanUp_ok fun i _ _ => ?_) fun nearest _ => ⟨_, rfl⟩
      exact Document.bind_line_ok (by omega) (by omega) fun text => ⟨_, rfl⟩

theorem Comment.nonneg_of_inside {lookback : Int} (within : inside doc line lookback = .ok true) : 0 ≤ line := by
  unfold inside at within
  split at within
  · simp at within
  · omega

namespace Completion

theorem focus_ok (grammar : Grammar) (doc : Document) (line : Int) :
    ∃ focus, Completion.focus grammar doc line = .ok focus := by
  refine bind_ok (scanDown_ok fun i _ _ => ?_) fun last? ended => ?_
  · exact Document.bind_line_ok (by omega) (by omega) fun text => ⟨_, rfl⟩
  · cases last? with
    | none => exact ⟨line, rfl⟩
    | some last =>
      obtain ⟨i, from_line, _, found, _⟩ := scanDown_eq_some_iff.mp ended
      obtain ⟨text, _, found⟩ := bind_eq_ok_iff.mp found
      have found := pure_eq_ok_iff.mp found
      split at found
      · obtain rfl := Option.some.inj found
        refine bind_ok (skipDown_ok fun j _ _ => ?_) fun first _ => ⟨_, rfl⟩
        exact Document.bind_line_ok (by omega) (by omega) fun text => ⟨_, rfl⟩
      · simp at found

theorem atSign_ok (above : 0 ≤ line) (character : Int) :
    ∃ sign, atSign doc line character = .ok sign := by
  unfold atSign
  split
  · exact ⟨none, rfl⟩
  · exact Document.bind_line_ok above (by omega) fun text => ⟨_, rfl⟩

theorem suggest_ok {grammar : Grammar} (bounded : grammar.Bounded doc) (line character : Int) :
    ∃ offered, suggest grammar doc line character = .ok offered := by
  refine bind_ok (Comment.inside_ok doc line _) fun within checked => ?_
  cases within with
  | false => exact ⟨(.idle, []), rfl⟩
  | true =>
    refine bind_ok (focus_ok grammar doc line) fun focus _ => ?_
    refine bind_ok (bounded.run_ok focus) fun search _ => ?_
    exact bind_ok (atSign_ok (Comment.nonneg_of_inside checked) character) fun sign _ => ⟨_, rfl⟩

end Completion

end

/-! ## Descriptions and targets -/

namespace Planner
variable {grammar : Grammar} {doc : Document} {line : Int}

theorem describe_ok (bounded : grammar.Bounded doc) (line : Int) :
    ∃ told, describe grammar doc line = .ok told := by
  refine bind_ok (bounded.run_ok line) fun search _ => ?_
  split
  · exact ⟨_, rfl⟩
  · next site _ =>
    refine bind_ok (bounded.insertionLine_ok _) fun insertLine _ => ?_
    refine bind_ok (grammar.enclosingType?_ok doc _) fun enclosingType _ => ?_
    exact bind_ok (bounded.parameters_ok _ _) fun parameters _ => ⟨_, rfl⟩

theorem headerOnOpenLine_ok (filled : doc.lines ≠ []) (line : Int) :
    ∃ wanted, headerOnOpenLine doc line = .ok wanted := by
  obtain ⟨above, below⟩ := Document.clamp_within filled line
  refine Document.bind_line_ok above below fun text => ?_
  split
  · exact bind_ok (AuraFile.hasHeader_ok doc _) fun has _ => ⟨_, rfl⟩
  · exact ⟨false, rfl⟩

theorem headerAtTop_ok (filled : doc.lines ≠ []) (line : Int) :
    ∃ wanted, headerAtTop doc line = .ok wanted := by
  obtain ⟨preamble, found, _⟩ := AuraFile.exists_preamble filled
  refine bind_ok ⟨preamble, found⟩ fun other _ => ?_
  split
  · exact bind_ok (AuraFile.hasHeader_ok doc _) fun has _ => ⟨_, rfl⟩
  · exact ⟨false, rfl⟩

theorem wantsHeader_ok (grammar : Grammar) (doc : Document) :
    ∃ wanted, wantsHeader grammar doc = .ok wanted := by
  unfold wantsHeader
  split
  · exact ⟨false, rfl⟩
  · next applies =>
    have filled : doc.lines ≠ [] := fun none => applies (.inr (by simp [none]))
    obtain ⟨preamble, found, _⟩ := AuraFile.exists_preamble filled
    refine bind_ok ⟨preamble, found⟩ fun other _ => ?_
    split
    · exact bind_ok (AuraFile.hasHeader_ok doc _) fun has _ => ⟨_, rfl⟩
    · exact ⟨false, rfl⟩

theorem aim_ok (bounded : grammar.Bounded doc) (line : Int) : ∃ aimed, aim grammar doc line = .ok aimed := by
  unfold aim
  split
  · exact ⟨_, rfl⟩
  · next filled =>
    have filled : doc.lines ≠ [] := by simpa using filled
    dsimp only
    split
    · refine bind_ok (headerOnOpenLine_ok filled line) fun wanted _ => ?_
      split
      · exact ⟨_, rfl⟩
      · refine bind_ok (bounded.run_ok line) fun search _ => ?_
        split
        · exact ⟨_, rfl⟩
        · refine bind_ok (headerAtTop_ok filled line) fun wanted _ => ?_
          split <;> exact ⟨_, rfl⟩
    · refine bind_ok (bounded.run_ok line) fun search _ => ?_
      split <;> exact ⟨_, rfl⟩

end Planner

end Docblock
