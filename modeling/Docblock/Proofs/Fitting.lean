import Docblock.Comment
import Docblock.Grammar.JavaScript
import Docblock.Proofs.Scanning
import Docblock.Template.Tags
import Mathlib.Data.List.TakeDrop
import Mathlib.Data.List.TakeWhile

/-! Fitting a template. Parameter lines and return lines each have their place among the lines of the template, and
go there as they are. The lines that open and end the comment stay in their places, and between them stand rows of
the template and rows that were put in. Of parameter lines only those that were put in are left, and another block
of them takes the place of the first. -/

set_option autoImplicit false

namespace Docblock

namespace Comment

def ending : Text := " */".toList

/-- The line that opens a comment, rows that all have some property, and the line that ends the comment. -/
def Enclosed (Inner : Text → Prop) (lines : List Text) : Prop :=
  ∃ rows, lines = opener :: (rows ++ [ending]) ∧ ∀ row ∈ rows, Inner row

instance (Inner : Text → Prop) [DecidablePred Inner] (lines : List Text) : Decidable (Enclosed Inner lines) :=
  decidable_of_iff (lines = opener :: (lines.tail.dropLast ++ [ending]) ∧
      ∀ row ∈ lines.tail.dropLast, Inner row) <| by
    constructor
    · intro enclosed
      exact ⟨_, enclosed⟩
    · intro enclosed
      obtain ⟨rows, rfl, inner⟩ := enclosed
      simpa using inner

end Comment

namespace Template
open Comment (Enclosed)

variable {markers : Markers} {template block lines : List Text}

/-! ## Where lines are put in -/

section
variable {test : Text → Bool} {rows above below : List Text} {row : Text}

theorem exists_first_failing (test : Text → Bool) (rows : List Text) :
    (∃ above row below,
      rows = above ++ row :: below ∧ (∀ other ∈ above, test other = true) ∧ test row = false) ∨
      ∀ row ∈ rows, test row = true := by
  by_cases passed : ∀ row ∈ rows, test row = true
  · exact .inr passed
  · obtain ⟨row, below, cut⟩ := List.exists_cons_of_ne_nil (mt List.dropWhile_eq_nil_iff.mp passed)
    have stopped := List.head?_dropWhile_not test rows
    have stopped_row : test row = false := by simpa [cut] using stopped
    refine .inl ⟨rows.takeWhile test, row, below, ?_, fun other => List.mem_takeWhile_imp, stopped_row⟩
    rw [← cut, List.takeWhile_append_dropWhile]

theorem span_at_failing (passed : ∀ other ∈ above, test other = true) (stopped : test row = false) :
    (above ++ row :: below).span test = (above, row :: below) := by
  rw [List.span_eq_takeWhile_dropWhile, List.takeWhile_append_of_pos passed, List.dropWhile_append_of_pos passed]
  simp [stopped]

theorem span_of_all (passed : ∀ row ∈ rows, test row = true) : rows.span test = (rows, []) := by
  rw [List.span_eq_takeWhile_dropWhile, List.takeWhile_eq_self_iff.mpr passed, List.dropWhile_eq_nil_iff.mpr passed]

end

/-- The place of a block of parameter lines in a template: the first parameter line, or else behind the first
description, or else in front of the last line. Above and below it stand the other lines of the template. -/
inductive ParameterPlace (markers : Markers) : List Text → List Text → List Text → Prop where
  | parameter {above below : List Text} {line : Text} : (∀ row ∈ above, hasTag markers.param row = false) →
      hasTag markers.param line = true →
      ParameterPlace markers (above ++ line :: below) above (below.filter fun row => !hasTag markers.param row)
  | description {above below : List Text} {line : Text} :
      (∀ row ∈ above ++ line :: below, hasTag markers.param row = false) →
      (∀ row ∈ above, hasTag markers.description row = false) → hasTag markers.description line = true →
      ParameterPlace markers (above ++ line :: below) (above ++ [line]) below
  | last {template : List Text} : (∀ row ∈ template, hasTag markers.param row = false) →
      (∀ row ∈ template, hasTag markers.description row = false) →
      ParameterPlace markers template (template.take (template.length - 1)) (template.drop (template.length - 1))

/-- The place of a return line: in front of the first example line, or else of the last line. -/
inductive ReturnPlace (markers : Markers) : List Text → List Text → List Text → Prop where
  | sample {above below : List Text} {line : Text} : (∀ row ∈ above, hasTag markers.sample row = false) →
      hasTag markers.sample line = true → ReturnPlace markers (above ++ line :: below) above (line :: below)
  | last {template : List Text} : (∀ row ∈ template, hasTag markers.sample row = false) →
      ReturnPlace markers template (template.take (template.length - 1)) (template.drop (template.length - 1))

theorem exists_parameterPlace (markers : Markers) (template : List Text) :
    ∃ above below, ParameterPlace markers template above below := by
  rcases exists_first_failing (fun row => !hasTag markers.param row) template with
    ⟨above, line, below, rfl, plain, tagged⟩ | plain
  · exact ⟨_, _, .parameter (by simpa using plain) (by simpa using tagged)⟩
  · rcases exists_first_failing (fun row => !hasTag markers.description row) template with
      ⟨above, line, below, rfl, above_plain, tagged⟩ | no_description
    · exact ⟨_, _, .description (by simpa using plain) (by simpa using above_plain) (by simpa using tagged)⟩
    · exact ⟨_, _, .last (by simpa using plain) (by simpa using no_description)⟩

theorem exists_returnPlace (markers : Markers) (template : List Text) :
    ∃ above below, ReturnPlace markers template above below := by
  rcases exists_first_failing (fun row => !hasTag markers.sample row) template with
    ⟨above, line, below, rfl, plain, tagged⟩ | plain
  · exact ⟨_, _, .sample (by simpa using plain) (by simpa using tagged)⟩
  · exact ⟨_, _, .last (by simpa using plain)⟩

section
variable {above below : List Text}

/-- The lines above and below the place are those that have no parameter tag, in their order. -/
theorem ParameterPlace.append_eq (place : ParameterPlace markers template above below) :
    above ++ below = template.filter fun row => !hasTag markers.param row := by
  have kept {rows : List Text} (plain : ∀ row ∈ rows, hasTag markers.param row = false) :
      rows.filter (fun row => !hasTag markers.param row) = rows :=
    List.filter_eq_self.mpr fun row member => by simp [plain row member]
  cases place with
  | parameter plain tagged => rw [List.filter_append, kept plain, List.filter_cons_of_neg (by simp [tagged])]
  | description plain _ _ => rw [kept plain, List.append_assoc, List.singleton_append]
  | last plain _ => rw [kept plain, List.take_append_drop]

theorem ParameterPlace.injectParameters_eq (place : ParameterPlace markers template above below)
    (block : List Text) : injectParameters markers template block = above ++ block ++ below := by
  unfold injectParameters
  cases place with
  | parameter plain tagged => rw [span_at_failing (by simpa using plain) (by simp [tagged])]
  | description plain above_plain tagged =>
    rw [span_of_all (by simpa using plain)]
    dsimp only
    rw [span_at_failing (by simpa using above_plain) (by simp [tagged])]
    simp
  | last plain no_description =>
    rw [span_of_all (by simpa using plain)]
    dsimp only
    rw [span_of_all (by simpa using no_description)]
    rfl

theorem ReturnPlace.append_eq (place : ReturnPlace markers template above below) : above ++ below = template := by
  cases place with
  | sample _ _ => rfl
  | last _ => exact List.take_append_drop _ _

/-- The return line that is added, if any, goes to its place with the first tab stop that is free. -/
theorem ReturnPlace.ensureReturn_eq (place : ReturnPlace markers template above below)
    (plain : ∀ row ∈ template, hasTag markers.returns row = false) :
    ensureReturn markers template = do
      let number ← Snippet.nextStop template
      let stop ← writeNumber number
      return above ++ markers.returnLine stop :: below := by
  have none_tagged : template.any (hasTag markers.returns) = false := by simpa using plain
  unfold ensureReturn
  simp only [none_tagged, Bool.false_eq_true, if_false]
  cases place with
  | sample above_plain tagged => rw [span_at_failing (by simpa using above_plain) (by simp [tagged])]
  | last no_sample =>
    rw [span_of_all (by simpa using no_sample)]
    simp [insertBeforeLast]

end

theorem ensureReturn_of_tagged (tagged : ∃ row ∈ template, hasTag markers.returns row = true) :
    ensureReturn markers template = .ok template := by
  unfold ensureReturn
  rw [if_pos (by simpa using tagged)]
  rfl

theorem ensureReturn_cases (ensured : ensureReturn markers template = .ok lines) :
    lines = template ∨ ∃ (number : Nat) (stop : Text) (above below : List Text), writeNumber number = .ok stop ∧
      ReturnPlace markers template above below ∧ lines = above ++ markers.returnLine stop :: below := by
  by_cases tagged : ∃ row ∈ template, hasTag markers.returns row = true
  · exact .inl (Except.ok.inj (ensured.symm.trans (ensureReturn_of_tagged tagged)))
  · obtain ⟨above, below, place⟩ := exists_returnPlace markers template
    rw [place.ensureReturn_eq (by simpa using tagged)] at ensured
    obtain ⟨number, _, ensured⟩ := bind_eq_ok_iff.mp ensured
    obtain ⟨stop, written, ensured⟩ := bind_eq_ok_iff.mp ensured
    exact .inr ⟨number, stop, above, below, written, place, (pure_eq_ok_iff.mp ensured).symm⟩

/-! ## What stands between the ends -/

/-- The lines that open and end a comment have none of the tags that fitting looks for. -/
def PlainEnds (markers : Markers) : Prop :=
  ∀ line ∈ [Comment.opener, Comment.ending],
    ∀ tag ∈ [markers.param, markers.description, markers.sample], hasTag tag line = false

instance (markers : Markers) : Decidable (PlainEnds markers) := List.decidableBAll _ _

-- A line that is neither of the ends is one of the rows between them.
theorem cut_between {first last line : Text} {rows above below : List Text}
    (cut : first :: (rows ++ [last]) = above ++ line :: below) (no_first : first ≠ line)
    (no_last : last ≠ line) :
    ∃ upper lower, above = first :: upper ∧ below = lower ++ [last] ∧ rows = upper ++ line :: lower := by
  cases above with
  | nil => exact absurd (List.cons.inj cut).1 no_first
  | cons _ upper =>
    obtain ⟨rfl, cut_below⟩ := List.cons.inj cut
    rcases List.eq_nil_or_concat below with rfl | ⟨lower, other, below_eq⟩
    · obtain ⟨_, last_eq⟩ := List.append_inj' cut_below rfl
      exact absurd (List.cons.inj last_eq).1 no_last
    · obtain rfl : below = lower ++ [other] := by simpa using below_eq
      have regrouped : rows ++ [last] = (upper ++ line :: lower) ++ [other] := by simpa using cut_below
      obtain ⟨rows_eq, last_eq⟩ := List.append_inj' regrouped rfl
      obtain rfl := (List.cons.inj last_eq).1
      exact ⟨upper, lower, rfl, rfl, rows_eq⟩

theorem ne_of_hasTag {tag : Pattern} {plain line : Text} (untagged : hasTag tag plain = false)
    (tagged : hasTag tag line = true) : plain ≠ line := by
  rintro rfl
  simp [untagged] at tagged

-- The opener stays above the place and the ending below it.
theorem ParameterPlace.between {rows above below : List Text} (ends : PlainEnds markers)
    (place : ParameterPlace markers (Comment.opener :: (rows ++ [Comment.ending])) above below) :
    ∃ upper lower,
      above = Comment.opener :: upper ∧ below = lower ++ [Comment.ending] ∧ upper ++ lower ⊆ rows := by
  generalize template_eq : Comment.opener :: (rows ++ [Comment.ending]) = template at place
  have differs {tag : Pattern} {line plain : Text}
      (member : tag ∈ [markers.param, markers.description, markers.sample])
      (an_end : plain ∈ [Comment.opener, Comment.ending]) (tagged : hasTag tag line = true) : plain ≠ line :=
    ne_of_hasTag (ends plain an_end tag member) tagged
  cases place with
  | parameter plain tagged =>
    obtain ⟨upper, lower, rfl, rfl, rfl⟩ := cut_between template_eq (differs (by simp) (by simp) tagged)
      (differs (by simp) (by simp) tagged)
    have last_plain := ends Comment.ending (by simp) markers.param (by simp)
    refine ⟨upper, lower.filter fun row => !hasTag markers.param row, rfl, ?_, ?_⟩
    · simp [List.filter_append, last_plain]
    · intro row member
      simp only [List.mem_append, List.mem_filter, List.mem_cons] at member ⊢
      exact member.imp_right fun below => .inr below.1
  | description plain _ tagged =>
    obtain ⟨upper, lower, rfl, rfl, rfl⟩ := cut_between template_eq (differs (by simp) (by simp) tagged)
      (differs (by simp) (by simp) tagged)
    exact ⟨upper ++ [_], lower, rfl, rfl, by simp⟩
  | last _ _ =>
    subst template_eq
    exact ⟨rows, [], by simp, by simp, by simp⟩

theorem ReturnPlace.between {rows above below : List Text} (ends : PlainEnds markers)
    (place : ReturnPlace markers (Comment.opener :: (rows ++ [Comment.ending])) above below) :
    ∃ upper lower,
      above = Comment.opener :: upper ∧ below = lower ++ [Comment.ending] ∧ upper ++ lower ⊆ rows := by
  generalize template_eq : Comment.opener :: (rows ++ [Comment.ending]) = template at place
  cases place with
  | sample _ tagged =>
    obtain ⟨upper, lower, rfl, rfl, rfl⟩ := cut_between template_eq
      (ne_of_hasTag (ends Comment.opener (by simp) markers.sample (by simp)) tagged)
      (ne_of_hasTag (ends Comment.ending (by simp) markers.sample (by simp)) tagged)
    exact ⟨upper, _ :: lower, rfl, rfl, List.Subset.refl _⟩
  | last _ =>
    subst template_eq
    exact ⟨rows, [], by simp, by simp, by simp⟩

section
variable {Inner : Text → Prop}

-- What is put in between the ends, and the rows there, all have the property.
theorem enclosed_between {rows upper lower block : List Text} (within : upper ++ lower ⊆ rows)
    (rows_inner : ∀ row ∈ rows, Inner row) (block_inner : ∀ row ∈ block, Inner row) :
    Enclosed Inner (Comment.opener :: upper ++ block ++ (lower ++ [Comment.ending])) := by
  refine ⟨upper ++ block ++ lower, by simp, fun row member => ?_⟩
  simp only [List.mem_append] at member
  rcases member with (above | inside) | below
  · exact rows_inner row (within (List.mem_append_left _ above))
  · exact block_inner row inside
  · exact rows_inner row (within (List.mem_append_right _ below))

theorem injectParameters_enclosed (ends : PlainEnds markers) (enclosed : Enclosed Inner template)
    (block_inner : ∀ row ∈ block, Inner row) :
    Enclosed Inner (injectParameters markers template block) := by
  obtain ⟨rows, rfl, rows_inner⟩ := enclosed
  obtain ⟨above, below, place⟩ := exists_parameterPlace markers (Comment.opener :: (rows ++ [Comment.ending]))
  obtain ⟨upper, lower, rfl, rfl, within⟩ := place.between ends
  rw [place.injectParameters_eq]
  exact enclosed_between within rows_inner block_inner

theorem ensureReturn_enclosed (ends : PlainEnds markers) (enclosed : Enclosed Inner template)
    (return_inner : ∀ (number : Nat) (stop : Text), writeNumber number = .ok stop →
      Inner (markers.returnLine stop))
    (ensured : ensureReturn markers template = .ok lines) : Enclosed Inner lines := by
  rcases ensureReturn_cases ensured with rfl | ⟨number, stop, above, below, written, place, rfl⟩
  · exact enclosed
  · obtain ⟨rows, rfl, rows_inner⟩ := enclosed
    obtain ⟨upper, lower, rfl, rfl, within⟩ := place.between ends
    rw [List.append_cons]
    exact enclosed_between within rows_inner (List.forall_mem_singleton.mpr (return_inner number stop written))

end

/-! ## Parameter lines -/

theorem filter_injectParameters (tagged : ∀ row ∈ block, hasTag markers.param row = true) :
    (injectParameters markers template block).filter (hasTag markers.param) = block := by
  obtain ⟨above, below, place⟩ := exists_parameterPlace markers template
  have plain : ∀ row ∈ above ++ below, hasTag markers.param row = false := by
    rw [place.append_eq]
    simp
  obtain ⟨above_plain, below_plain⟩ := List.forall_mem_append.mp plain
  have dropped {rows : List Text} (plain : ∀ row ∈ rows, hasTag markers.param row = false) :
      rows.filter (hasTag markers.param) = [] :=
    List.filter_eq_nil_iff.mpr fun row member => by simp [plain row member]
  rw [place.injectParameters_eq, List.filter_append, List.filter_append, dropped above_plain, dropped below_plain,
    List.filter_eq_self.mpr tagged, List.nil_append, List.append_nil]

theorem filter_ensureReturn
    (plain : ∀ (number : Nat) (stop : Text), writeNumber number = .ok stop →
      hasTag markers.param (markers.returnLine stop) = false)
    (ensured : ensureReturn markers template = .ok lines) :
    lines.filter (hasTag markers.param) = template.filter (hasTag markers.param) := by
  rcases ensureReturn_cases ensured with rfl | ⟨number, stop, above, below, written, place, rfl⟩
  · rfl
  · rw [List.filter_append, List.filter_cons_of_neg (by simp [plain number stop written]), ← List.filter_append,
      place.append_eq]

/-! ## Blocks put in one after the other -/

-- With a block put in, the place is where its first line stands.
theorem ParameterPlace.injected {above below : List Text} (place : ParameterPlace markers template above below)
    (some_line : block ≠ []) (tagged : ∀ row ∈ block, hasTag markers.param row = true) :
    ParameterPlace markers (above ++ block ++ below) above below := by
  obtain ⟨first, rest, rfl⟩ := List.exists_cons_of_ne_nil some_line
  obtain ⟨first_tagged, rest_tagged⟩ := List.forall_mem_cons.mp tagged
  have plain : ∀ row ∈ above ++ below, hasTag markers.param row = false := by
    rw [place.append_eq]
    simp
  obtain ⟨above_plain, below_plain⟩ := List.forall_mem_append.mp plain
  have kept : (rest ++ below).filter (fun row => !hasTag markers.param row) = below := by
    rw [List.filter_append, List.filter_eq_nil_iff.mpr fun row member => by simp [rest_tagged row member],
      List.filter_eq_self.mpr fun row member => by simp [below_plain row member], List.nil_append]
  have injected : ParameterPlace markers (above ++ first :: (rest ++ below)) above _ :=
    .parameter above_plain first_tagged
  rwa [kept, ← List.cons_append, ← List.append_assoc] at injected

/-- A block of parameter lines goes as it is to one place among the other lines of the template, which all stay in
their order. A block that is put in later goes there too, and the first is gone without a trace. -/
theorem injectParameters_replaces (markers : Markers) (template : List Text) :
    ∃ above below, ParameterPlace markers template above below ∧
      above ++ below = template.filter (fun row => !hasTag markers.param row) ∧
      (∀ block, injectParameters markers template block = above ++ block ++ below) ∧
      ∀ first second, first ≠ [] → (∀ row ∈ first, hasTag markers.param row = true) →
        injectParameters markers (injectParameters markers template first) second =
          injectParameters markers template second := by
  obtain ⟨above, below, place⟩ := exists_parameterPlace markers template
  refine ⟨above, below, place, place.append_eq, place.injectParameters_eq, fun first second some_line tagged => ?_⟩
  calc injectParameters markers (injectParameters markers template first) second
    _ = injectParameters markers (above ++ first ++ below) second := by rw [place.injectParameters_eq first]
    _ = above ++ second ++ below := (place.injected some_line tagged).injectParameters_eq second
    _ = injectParameters markers template second := (place.injectParameters_eq second).symm

-- The first block goes behind the description, as there is no parameter line yet.
theorem injectParameters_replaces_below_description :
    let template := ["/**".toList, " * @description $\x7b1:What\x7d".toList, " */".toList]
    let first := [" * @param \x7bany\x7d id".toList]
    let second := [" * @param key".toList, " * @param value".toList]
    first ≠ [] ∧ (∀ row ∈ first, hasTag JavaScript.markers.param row = true) ∧
      ∃ above below, ParameterPlace JavaScript.markers template above below ∧
        injectParameters JavaScript.markers (injectParameters JavaScript.markers template first) second =
          injectParameters JavaScript.markers template second := by
  intro template first second
  have tagged : ∀ row ∈ first, hasTag JavaScript.markers.param row = true := by decide
  obtain ⟨above, below, place, _, _, replaced⟩ := injectParameters_replaces JavaScript.markers template
  exact ⟨List.cons_ne_nil _ _, tagged, above, below, place, replaced first second (List.cons_ne_nil _ _) tagged⟩

end Template

end Docblock
