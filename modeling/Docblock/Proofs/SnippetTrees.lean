import Docblock.Proofs.Pieces

/-! Snippets as trees. A snippet is a sequence of plain text, dollar signs that stand for themselves, tab stops,
choices and placeholders, whose defaults are sequences again. The passes of rendering take what is written of one
tree to what is written of another: a round puts the defaults without braces in place of their placeholders, and
then each choice is made. -/

set_option autoImplicit false

namespace Docblock.Snippet

instance (row : Text) : Decidable (Digits row) :=
  have : Decidable (∀ c ∈ row, isDigit c = true) := List.decidableBAll _ row
  inferInstanceAs (Decidable (_ ∧ _))

/-- The characters that have a meaning in snippets or while they are rendered. -/
def reserved : Text := "$\x7b\x7d|\\\x00".toList

/-- The text stands for itself in a snippet. -/
def Literal (text : Text) : Prop := ∀ c ∈ text, c ∉ reserved

instance (text : Text) : Decidable (Literal text) := List.decidableBAll _ text

abbrev Prose := {text : Text // Literal text}

/-- Text that stands for itself in a list of choices. -/
abbrev Entry := {text : Text // Literal text ∧ ',' ∉ text}

abbrev Row := {row : Text // Digits row}

def tabStop (braced : Bool) (row : Text) : Text :=
  if braced then '$' :: '\x7b' :: (row ++ ['\x7d']) else '$' :: row

def options (first : Entry) (others : List Entry) : Text := Text.join [','] ((first :: others).map (·.1))

/-- A snippet, part by part; each constructor but the first is a part and what comes behind it. -/
inductive Tree where
  | done
  | prose (text : Prose) (rest : Tree)
  | dollar (rest : Tree)
  | stop (braced : Bool) (row : Row) (rest : Tree)
  | choice (row : Row) (first : Entry) (others : List Entry) (rest : Tree)
  | placeholder (row : Row) (default rest : Tree)

namespace Tree

/-- How a snippet is written, with a text for the dollar signs that stand for themselves. -/
def written (escaped : Text) : Tree → Text
  | done => []
  | prose text rest => text.1 ++ rest.written escaped
  | dollar rest => escaped ++ rest.written escaped
  | stop braced row rest => tabStop braced row.1 ++ rest.written escaped
  | choice row first others rest =>
    Snippet.choice row.1 (options first others) ++ rest.written escaped
  | placeholder row default rest => Snippet.placeholder row.1 (default.written escaped) ++ rest.written escaped

def source (tree : Tree) : Text := tree.written ['\\', '$']

/-- The snippet while its escaped dollar signs are set aside. -/
def aside (tree : Tree) : Text := tree.written ['\x00']

/-- The text that is left of a snippet when every default is accepted. -/
def value : Tree → Text
  | done => []
  | prose text rest => text.1 ++ rest.value
  | dollar rest => '$' :: rest.value
  | stop _ _ rest => rest.value
  | choice _ first _ rest => first.1 ++ rest.value
  | placeholder _ default rest => default.value ++ rest.value

def append : Tree → Tree → Tree
  | done, tree => tree
  | prose text rest, tree => prose text (rest.append tree)
  | dollar rest, tree => dollar (rest.append tree)
  | stop braced row rest, tree => stop braced row (rest.append tree)
  | choice row first others rest, tree => choice row first others (rest.append tree)
  | placeholder row default rest, tree => placeholder row default (rest.append tree)

def braceless : Tree → Bool
  | done => true
  | prose _ rest | dollar rest | stop false _ rest => rest.braceless
  | stop true _ _ | choice _ _ _ _ | placeholder _ _ _ => false

/-- The tree after one round, in which the defaults without braces are put in place of their placeholders. -/
def round : Tree → Tree
  | done => done
  | prose text rest => prose text rest.round
  | dollar rest => dollar rest.round
  | stop braced row rest => stop braced row rest.round
  | choice row first others rest => choice row first others rest.round
  | placeholder row default rest =>
    if default.braceless then default.append rest.round else placeholder row default.round rest.round

/-- Whether there is nothing to do in a round. -/
def settled : Tree → Bool
  | done => true
  | prose _ rest | dollar rest | stop _ _ rest | choice _ _ _ rest => rest.settled
  | placeholder _ default rest => !default.braceless && default.settled && rest.settled

/-- The tree with its first entry in place of each choice. -/
def chosen : Tree → Tree
  | done => done
  | prose text rest => prose text rest.chosen
  | dollar rest => dollar rest.chosen
  | stop braced row rest => stop braced row rest.chosen
  | choice _ first _ rest => prose ⟨first.1, first.2.1⟩ rest.chosen
  | placeholder row default rest => placeholder row default.chosen rest.chosen

end Tree

/-! ## Parts that a pass leaves alone -/

section
variable {find : Text → Option (Text × Nat)} {body row text : Text} {mark c : Char} {plain : Char → Bool}

theorem not_mem_of_reserved (reserved_mark : mark ∈ reserved) (literal : Literal text) : mark ∉ text :=
  fun within => literal mark within reserved_mark

theorem not_mem_of_digits (digits : Digits row) (no_digit : isDigit mark = false) : mark ∉ row :=
  fun within => Bool.false_ne_true (no_digit.symm.trans (digits.2 mark within))

theorem not_mem_options (reserved_mark : mark ∈ reserved) (no_comma : mark ≠ ',') (first : Entry)
    (others : List Entry) : mark ∉ options first others := by
  have absent (entry : Entry) : mark ∉ entry.1 := not_mem_of_reserved reserved_mark entry.2.1
  rw [options, Text.mem_join_iff (by simpa using no_comma)]
  rintro ⟨row, member, within⟩
  obtain ⟨entry, _, rfl⟩ := List.mem_map.mp member
  exact absent entry within

theorem Prose.no_brace (text : Prose) : '\x7b' ∉ text.1 ∧ '\x7d' ∉ text.1 :=
  ⟨not_mem_of_reserved (by decide) text.2, not_mem_of_reserved (by decide) text.2⟩

theorem Row.no_brace (row : Row) : '\x7b' ∉ row.1 ∧ '\x7d' ∉ row.1 :=
  ⟨not_mem_of_digits row.2 (by decide), not_mem_of_digits row.2 (by decide)⟩

/-- What starts with the mark, but is nothing that is looked for, is passed if the mark does not come again. -/
theorem StartsWith.passes_missed (starts : StartsWith mark find) (absent : mark ∉ body)
    (missed : ∀ rest, find (mark :: (body ++ rest)) = none) : Passes find (mark :: body) (mark :: body) := by
  intro rest
  rw [List.cons_append, Text.substitute_of_none (missed rest), starts.passes absent rest, List.cons_append]

theorem braced?_other (digits : Digits row) (no_digit : isDigit c = false) (other : c ≠ mark) (rest : Text) :
    braced? mark plain ('$' :: '\x7b' :: (row ++ c :: rest)) = none := by
  obtain ⟨row_eq, behind_eq⟩ := digits.cut no_digit rest
  obtain ⟨first, more, rfl⟩ := List.exists_cons_of_ne_nil digits.1
  simp only [braced?, row_eq, behind_eq, if_neg other]

theorem braced?_tabStop (digits : Digits row) (other : '\x7d' ≠ mark) (braced : Bool) (rest : Text) :
    braced? mark plain (tabStop braced row ++ rest) = none := by
  cases braced with
  | true => simpa [tabStop] using braced?_other digits (by decide) other rest
  | false =>
    obtain ⟨first, more, rfl⟩ := List.exists_cons_of_ne_nil digits.1
    refine braced?_dollar fun same => ?_
    obtain rfl : first = '\x7b' := by simpa using same
    exact not_mem_of_digits digits (by decide) List.mem_cons_self

theorem braced?_choice {options : Text} (digits : Digits row) (other : '|' ≠ mark) (rest : Text) :
    braced? mark plain (choice row options ++ rest) = none := by
  simpa [choice] using braced?_other digits (by decide) other (options ++ '|' :: '\x7d' :: rest)

theorem braced?_placeholder {default : Text} (digits : Digits row) (other : ':' ≠ mark) (rest : Text) :
    braced? mark plain (placeholder row default ++ rest) = none := by
  simpa [placeholder] using braced?_other digits (by decide) other (default ++ '\x7d' :: rest)

/-- The text opens a brace before it closes one. -/
def OpensBrace (text : Text) : Prop :=
  ∃ front behind, text = front ++ '\x7b' :: behind ∧ '\x7b' ∉ front ∧ '\x7d' ∉ front

theorem OpensBrace.append_left (opens : OpensBrace body) (no_brace : '\x7b' ∉ text ∧ '\x7d' ∉ text) :
    OpensBrace (text ++ body) := by
  obtain ⟨front, behind, rfl, no_brace_behind⟩ := opens
  exact ⟨text ++ front, behind, by simp, by simp [no_brace, no_brace_behind]⟩

theorem placeholder?_open {default : Text} (digits : Digits row) (opens : OpensBrace default) (rest : Text) :
    placeholder? (placeholder row default ++ rest) = none := by
  obtain ⟨front, behind, rfl, no_brace⟩ := opens
  have inside : ∀ c ∈ front, (c != '\x7b' && c != '\x7d') = true := by
    intro c within
    simp [ne_of_mem_of_not_mem within no_brace.1, ne_of_mem_of_not_mem within no_brace.2]
  have cut : braced? ':' (fun c => c != '\x7b' && c != '\x7d')
      (placeholder row (front ++ '\x7b' :: behind) ++ rest) = some (front, '\x7b' :: (behind ++ '\x7d' :: rest)) :=
    (braced?_eq_some_iff (by decide)).mpr ⟨row, digits, by simp [placeholder], inside, by simp⟩
  rw [placeholder?, cut]
  rfl

theorem passes_tabStop_missed (starts : StartsWith '$' find) (digits : Digits row) (braced : Bool)
    (missed : ∀ rest, find (tabStop braced row ++ rest) = none) :
    Passes find (tabStop braced row) (tabStop braced row) := by
  have no_dollar := not_mem_of_digits digits (by decide : isDigit '$' = false)
  cases braced with
  | true => exact starts.passes_missed (by simp [no_dollar]) missed
  | false => exact starts.passes_missed no_dollar missed

theorem passes_choice_missed {first : Entry} {others : List Entry} (starts : StartsWith '$' find)
    (digits : Digits row) (missed : ∀ rest, find (choice row (options first others) ++ rest) = none) :
    Passes find (choice row (options first others)) (choice row (options first others)) := by
  refine starts.passes_missed ?_ missed
  simp [not_mem_of_digits digits (by decide : isDigit '$' = false), not_mem_options (by decide : '$' ∈ reserved)]

theorem placeholder_eq_append (row default : Text) :
    placeholder row default = '$' :: '\x7b' :: (row ++ [':']) ++ default ++ ['\x7d'] := by
  simp [placeholder]

theorem passes_frame {default out : Text} (starts : StartsWith '$' find) (digits : Digits row)
    (missed : ∀ rest, find (placeholder row default ++ rest) = none) (inside : Passes find default out) :
    Passes find (placeholder row default) (placeholder row out) := by
  have no_dollar : '$' ∉ '\x7b' :: (row ++ [':']) := by
    simp [not_mem_of_digits digits (by decide : isDigit '$' = false)]
  have behind_dollar := ((starts.passes no_dollar).append inside).append (starts.passes (by decide : '$' ∉ ['\x7d']))
  intro rest
  have missed_here := missed rest
  rw [placeholder_eq_append] at missed_here ⊢
  rw [placeholder_eq_append]
  exact (Text.substitute_of_none missed_here).trans (congrArg ('$' :: ·) (behind_dollar rest))

theorem replace_singleton (old new : Char) (text : Text) :
    text.replace [old] [new] = text.map fun c => if c = old then new else c := by
  induction text with
  | nil => rfl
  | cons c rest ih =>
    by_cases same : c = old
    · simpa [Text.replace, Text.substitute, Text.substituteFrom, same] using ih
    · simpa [Text.replace, Text.substitute, Text.substituteFrom, same, Ne.symm same] using ih

theorem takeWhile_options (first : Entry) (others : List Entry) :
    (options first others).takeWhile (· != ',') = first.1 := by
  have inside : ∀ c ∈ first.1, (c != ',') = true :=
    fun c within => by simpa using ne_of_mem_of_not_mem within first.2.2
  cases others with
  | nil => exact List.takeWhile_eq_self_iff.mpr inside
  | cons next others =>
    have cut : options first (next :: others) = first.1 ++ ',' :: options next others := by
      simp [options, Text.join]
    rw [cut, List.takeWhile_append_of_pos inside]
    simp

end

/-! ## Passes over trees -/

namespace Tree

theorem written_append (escaped : Text) (tree behind : Tree) :
    (tree.append behind).written escaped = tree.written escaped ++ behind.written escaped := by
  induction tree with
  | done => rfl
  | prose _ _ ih | dollar _ ih | stop _ _ _ ih | choice _ _ _ _ ih | placeholder _ _ _ _ ih =>
    simp only [append, written, ih, List.append_assoc]

theorem replace_source (tree : Tree) : tree.source.replace ['\\', '$'] ['\x00'] = tree.aside := by
  have starts := startsWith_replace '\\' ['$'] ['\x00']
  suffices passes : Passes _ tree.source tree.aside from passes.substitute_eq
  have no_escape (row : Row) : '\\' ∉ row.1 := not_mem_of_digits row.2 (by decide)
  unfold source aside
  induction tree with
  | done => exact fun rest => rfl
  | prose text rest ih => exact (starts.passes (not_mem_of_reserved (by decide) text.2)).append ih
  | dollar rest ih =>
    refine Passes.append (fun behind => Text.substitute_of_some (by simp) ?_) ih
    simp
  | stop braced row rest ih =>
    have absent : '\\' ∉ tabStop braced row.1 := by cases braced <;> simp [tabStop, no_escape row]
    exact (starts.passes absent).append ih
  | choice row first others rest ih =>
    have absent : '\\' ∉ Snippet.choice row.1 (options first others) := by
      simp [Snippet.choice, no_escape row, not_mem_options (by decide : '\\' ∈ reserved)]
    exact (starts.passes absent).append ih
  | placeholder row default rest inside ih =>
    have frame : '\\' ∉ '$' :: '\x7b' :: (row.1 ++ [':']) := by simp [no_escape row]
    have whole := ((starts.passes frame).append inside).append (starts.passes (by decide : '\\' ∉ ['\x7d']))
    rw [← placeholder_eq_append, ← placeholder_eq_append] at whole
    exact whole.append ih

/-! ### Rounds -/

theorem no_brace_of_braceless {tree : Tree} (braceless : tree.braceless = true) :
    '\x7b' ∉ tree.aside ∧ '\x7d' ∉ tree.aside := by
  unfold aside
  induction tree with
  | done => simp [written]
  | prose text rest ih => simpa [written, text.no_brace] using ih braceless
  | dollar rest ih => simpa [written] using ih braceless
  | stop braced row rest ih =>
    cases braced with
    | true => cases braceless
    | false => simpa [written, tabStop, row.no_brace] using ih braceless
  | choice | placeholder => cases braceless

theorem opensBrace_of_not_braceless {tree : Tree} (braces : tree.braceless = false) : OpensBrace tree.aside := by
  unfold aside
  induction tree with
  | done => cases braces
  | prose text rest ih => exact (ih braces).append_left text.no_brace
  | dollar rest ih => exact (ih braces).append_left (by decide)
  | stop braced row rest ih =>
    cases braced with
    | true => exact ⟨['$'], row.1 ++ '\x7d' :: rest.written ['\x00'], by simp [written, tabStop], by decide⟩
    | false => exact (ih braces).append_left (by simp [tabStop, row.no_brace])
  | choice row first others rest => exact ⟨['$'], _, rfl, by decide⟩
  | placeholder row default rest => exact ⟨['$'], _, rfl, by decide⟩

theorem passes_round (tree : Tree) : Passes placeholder? tree.aside tree.round.aside := by
  have starts := startsWith_placeholder
  unfold aside
  induction tree with
  | done => exact fun rest => rfl
  | prose text rest ih => exact (starts.passes (not_mem_of_reserved (by decide) text.2)).append ih
  | dollar rest ih => exact (starts.passes (by decide : '$' ∉ ['\x00'])).append ih
  | stop braced row rest ih =>
    refine (passes_tabStop_missed starts row.2 braced fun behind => ?_).append ih
    rw [placeholder?, braced?_tabStop row.2 (by decide)]
  | choice row first others rest ih =>
    refine (passes_choice_missed starts row.2 fun behind => ?_).append ih
    rw [placeholder?, braced?_choice row.2 (by decide)]
  | placeholder row default rest inside ih =>
    cases braceless : default.braceless with
    | true =>
      have resolved := passes_resolved row.2 (no_brace_of_braceless braceless)
      unfold aside at resolved
      simpa [written, round, braceless, written_append] using resolved.append ih
    | false =>
      have framed := passes_frame starts row.2 (placeholder?_open row.2 (opensBrace_of_not_braceless braceless)) inside
      unfold aside at framed
      simpa [written, round, braceless] using framed.append ih

theorem length_aside_round (tree : Tree) :
    tree.settled = true ∧ tree.round = tree ∨ tree.round.aside.length < tree.aside.length := by
  unfold aside
  induction tree with
  | done => exact .inl ⟨rfl, rfl⟩
  | prose _ _ ih | dollar _ ih | stop _ _ _ ih | choice _ _ _ _ ih => simpa [settled, round, written] using ih
  | placeholder row default rest inside ih =>
    have rest_shorter : (rest.round.written ['\x00']).length ≤ (rest.written ['\x00']).length :=
      ih.elim (fun same => by rw [same.2]) Nat.le_of_lt
    cases braceless : default.braceless with
    | true =>
      right
      simp only [round, braceless, if_true, written, written_append, Snippet.placeholder, List.length_append,
        List.length_cons]
      omega
    | false =>
      have round_eq : (placeholder row default rest).round = placeholder row default.round rest.round := by
        simp [round, braceless]
      rcases inside with ⟨settled_inside, same_inside⟩ | inside_shorter
      · simpa [settled, braceless, round_eq, settled_inside, same_inside, written] using ih
      · right
        simp only [round_eq, written, Snippet.placeholder, List.length_append, List.length_cons]
        omega

theorem resolve_aside (Holds : Tree → Prop) (kept : ∀ tree, Holds tree → Holds tree.round) {tree : Tree}
    (holds : Holds tree) {rounds : Nat} (enough : tree.aside.length ≤ rounds) :
    ∃ last, resolve rounds tree.aside = last.aside ∧ last.settled = true ∧ Holds last := by
  induction rounds generalizing tree with
  | zero =>
    have settled := (length_aside_round tree).resolve_right (by omega)
    exact ⟨tree, rfl, settled.1, holds⟩
  | succ rounds ih =>
    simp only [resolve, (passes_round tree).substitute_eq]
    rcases length_aside_round tree with ⟨settled, same⟩ | shorter
    · exact ⟨tree, by rw [same, if_pos rfl], settled, holds⟩
    · have other : tree.round.aside ≠ tree.aside := fun same => Nat.ne_of_lt shorter (congrArg List.length same)
      rw [if_neg other]
      exact ih (kept tree holds) (by omega)

theorem passes_chosen (tree : Tree) : Passes choice? tree.aside tree.chosen.aside := by
  have starts := startsWith_choice
  unfold aside
  induction tree with
  | done => exact fun rest => rfl
  | prose text rest ih => exact (starts.passes (not_mem_of_reserved (by decide) text.2)).append ih
  | dollar rest ih => exact (starts.passes (by decide : '$' ∉ ['\x00'])).append ih
  | stop braced row rest ih =>
    refine (passes_tabStop_missed starts row.2 braced fun behind => ?_).append ih
    rw [choice?, braced?_tabStop row.2 (by decide)]
  | choice row first others rest ih =>
    refine Passes.append (fun behind => Text.substitute_of_some (by simp [Snippet.choice]) ?_) ih
    have no_bar : ∀ c ∈ options first others, c ≠ '|' :=
      fun c within => ne_of_mem_of_not_mem within (not_mem_options (by decide) (by decide) first others)
    exact choice?_eq_some_iff.mpr
      ⟨row.1, _, behind, row.2, no_bar, (takeWhile_options first others).symm, rfl, rfl⟩
  | placeholder row default rest inside ih =>
    refine (passes_frame starts row.2 (fun behind => ?_) inside).append ih
    rw [choice?, braced?_placeholder row.2 (by decide)]

end Tree

end Docblock.Snippet
