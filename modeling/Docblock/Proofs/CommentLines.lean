import Docblock.Proofs.Bounds
import Docblock.Proofs.Names

/-! Lines that open like those of a comment. No rule gets past the asterisk or the slash that such a line opens
with, so the line declares nothing, whatever stands around it. -/

set_option autoImplicit false

namespace Docblock

theorem Cursor.Steps.opening?_kept {accepts : Char → Bool} {first last : Cursor} {mark : Char}
    (steps : Cursor.Steps accepts first last) (refused : accepts mark = false)
    (opens : Text.opening? first.ahead = some mark) : Text.opening? last.ahead = some mark := by
  induction steps with
  | here cursor => exact opens
  | @onto passed c rest last accepted _ ih =>
    rw [Text.opening?_cons] at opens
    split at opens
    · exact ih opens
    · obtain rfl := Option.some.inj opens
      simp [refused] at accepted

namespace Pattern

/-- Whether a match may take the character, at whichever place. -/
def takes : Pattern → Char → Bool
  | one accepts, c | many accepts, c | few accepts, c => accepts c
  | seq left right, c | alt left right, c => left.takes c || right.takes c
  | star body, c => body.takes c
  | empty, _ | start, _ | stop, _ | edge, _ | absent _, _ => false

/-- Whether the character, with or without blanks in front of it, keeps the pattern from matching; false also of
some patterns that it keeps from matching. -/
def barred (mark : Char) : Pattern → Bool
  | one accepts => (mark :: blankChars).all fun c => !accepts c
  | seq left right => left.barred mark || !left.takes mark && right.barred mark
  | alt left right => left.barred mark && right.barred mark
  | _ => false

variable {pattern : Pattern} {mark : Char} {first last : Cursor}

-- A match that cannot take the character takes blanks in front of it at most.
theorem Matches.opening?_kept (matched : pattern.Matches first last) (refused : pattern.takes mark = false)
    (opens : Text.opening? first.ahead = some mark) : Text.opening? last.ahead = some mark := by
  induction pattern generalizing first last with
  | empty => exact matched ▸ opens
  | one accepts =>
    obtain ⟨c, rest, ahead, accepted, rfl⟩ := matched
    exact (Cursor.Steps.onto accepted (.here ⟨some c, rest⟩) : Cursor.Steps accepts ⟨first.passed, c :: rest⟩ _)
      |>.opening?_kept refused (ahead ▸ opens)
  | many accepts | few accepts => exact Cursor.Steps.opening?_kept matched refused opens
  | seq left right hl hr =>
    obtain ⟨middle, before, behind⟩ := matched
    obtain ⟨left_refused, right_refused⟩ := Bool.or_eq_false_iff.mp refused
    exact hr behind right_refused (hl before left_refused opens)
  | alt left right hl hr =>
    obtain ⟨left_refused, right_refused⟩ := Bool.or_eq_false_iff.mp refused
    cases matched with
    | inl matched => exact hl matched left_refused opens
    | inr matched => exact hr matched right_refused opens
  | star body ih =>
    have rounds : Rounds body.Matches first last := matched
    induction rounds with
    | done cursor => exact opens
    | more moved _ rest onward => exact onward rest (ih moved refused opens)
  | start | stop | edge | absent => exact matched.2 ▸ opens

theorem Matches.not_barred (matched : pattern.Matches first last)
    (opens : Text.opening? first.ahead = some mark) : pattern.barred mark = false := by
  induction pattern generalizing first last with
  | one accepts =>
    obtain ⟨c, rest, ahead, accepted, rfl⟩ := matched
    rw [ahead, Text.opening?_cons] at opens
    have reached : c ∈ mark :: blankChars := by
      split at opens
      · next blank => exact List.mem_cons_of_mem mark (mem_blankChars blank)
      · exact Option.some.inj opens ▸ List.mem_cons_self
    exact List.all_eq_false.mpr ⟨c, reached, by simp [accepted]⟩
  | seq left right hl hr =>
    obtain ⟨middle, before, behind⟩ := matched
    rw [barred, hl before opens, Bool.false_or, Bool.and_eq_false_iff]
    cases refused : left.takes mark with
    | true => exact .inl rfl
    | false => exact .inr (hr behind (before.opening?_kept refused opens))
  | alt left right hl hr =>
    rw [barred, Bool.and_eq_false_iff]
    exact matched.imp (hl · opens) (hr · opens)
  | _ => rfl

theorem not_matchesIn_of_barred {rest : List Pattern} {text : Text} (shape : pattern.flat = start :: rest)
    (barred : pattern.barred mark = true) (opens : text.opening? = some mark) : pattern.matchesIn text = false := by
  rw [← Bool.not_eq_true]
  intro found
  obtain ⟨first, last, reached, matched⟩ := matchesIn_iff.mp found
  have tied := matches_row_flat.mpr matched
  rw [shape] at tied
  obtain ⟨_, ⟨fresh, _⟩, _⟩ := tied
  obtain rfl := reached.unmoved fresh
  simp [matched.not_barred opens] at barred

end Pattern

/-! ## No rule of Apex fires -/

namespace Apex
open Pattern

theorem nameStart_of_className? {text found : Text} (captured : className? text = some found) :
    ∃ c rest, found = c :: rest ∧ nameStart c = true := by
  obtain ⟨_, first, last, _, _, _, matched, _, rfl⟩ := capture_sound captured
  obtain ⟨middle, ⟨c, rest, ahead, starts, rfl⟩, more⟩ := matched
  obtain ⟨taken, cut, _⟩ := Cursor.Steps.taken more
  have whole : first.ahead = (c :: taken) ++ last.ahead := ahead.trans (congrArg (c :: ·) cut)
  exact ⟨c, taken, Cursor.upTo_eq whole, starts⟩

-- What is the same letter as one that starts a name starts a name, and so is no blank, asterisk or slash.
theorem barred_sameLetter {mark c : Char} (mark_eq : mark = '*' ∨ mark = '/') (starts : nameStart c = true) :
    (one (sameLetter c)).barred mark = true := by
  have keys : (('*' :: '/' :: blankChars).all fun d =>
      !(97 ≤ letterKey d && letterKey d ≤ 122 || letterKey d == letterKey '_')) = true := by
    decide
  have key : 97 ≤ letterKey c ∧ letterKey c ≤ 122 ∨ letterKey c = letterKey '_' := by
    simp only [nameStart, isLatin, Bool.or_eq_true, Bool.and_eq_true, decide_eq_true_eq, beq_iff_eq] at starts
    exact starts.imp id (congrArg letterKey)
  refine List.all_eq_true.mpr fun d within => ?_
  have member : d ∈ '*' :: '/' :: blankChars := by
    rcases List.mem_cons.mp within with rfl | blank
    · rcases mark_eq with rfl | rfl <;> simp
    · simp [blank]
  have different : letterKey c ≠ letterKey d := by
    intro same
    have outside := List.all_eq_true.mp keys d member
    simp only [Bool.not_eq_true', Bool.or_eq_false_iff, Bool.and_eq_false_iff, decide_eq_false_iff_not,
      beq_eq_false_iff_ne] at outside
    omega
  simp [sameLetter, different]

theorem barred_constructorLine {mark : Char} {className : Text} (mark_eq : mark = '*' ∨ mark = '/')
    (named : ∃ c rest, className = c :: rest ∧ nameStart c = true) :
    (constructorLine className).barred mark = true := by
  obtain ⟨c, rest, rfl, starts⟩ := named
  have name_barred : (anyCase (c :: rest)).barred mark = true := by
    cases rest with
    | nil => exact barred_sameLetter mark_eq starts
    | cons next more => exact Bool.or_eq_true_iff.mpr (.inl (barred_sameLetter mark_eq starts))
  have modifiers_pass : (start ++ blanks ++ optional (visibility ++ blanks)).takes mark = false := by
    rcases mark_eq with rfl | rfl <;> decide
  have called : (start ++ blanks ++ optional (visibility ++ blanks) ++ anyCase (c :: rest)).barred mark = true := by
    refine Bool.or_eq_true_iff.mpr (.inr ?_)
    rw [modifiers_pass, name_barred]
    rfl
  exact Bool.or_eq_true_iff.mpr (.inl (Bool.or_eq_true_iff.mpr (.inl called)))

theorem barred_rules {windows : Windows} {rule : Rule} (member : rule ∈ rules windows) (other : rule.kind ≠ .constructor)
    {mark : Char} (mark_eq : mark = '*' ∨ mark = '/') :
    ∃ rest, rule.pattern.flat = start :: rest ∧ rule.pattern.barred mark = true := by
  simp only [rules, List.mem_cons, List.not_mem_nil, or_false] at member
  rcases member with rfl | rfl | rfl | rfl | rfl
  case inr.inl => exact absurd rfl other
  all_goals
    refine ⟨_, rfl, ?_⟩
    dsimp only
    rcases mark_eq with rfl | rfl <;> decide

variable {windows : Windows} {doc : Document} {line : Int} {text : Text}

theorem callsEnclosingClass_eq_false {mark : Char} (mark_eq : mark = '*' ∨ mark = '/')
    (opens : text.opening? = some mark) : callsEnclosingClass windows doc line text = .ok false := by
  obtain ⟨className?, found⟩ := enclosingName?_ok windows doc line
  refine bind_eq_ok_iff.mpr ⟨className?, found, ?_⟩
  cases className? with
  | none => rfl
  | some className =>
    obtain ⟨i, _, _, hit, _⟩ := scanUp_eq_some_iff.mp found
    obtain ⟨row, _, captured⟩ := bind_eq_ok_iff.mp hit
    have named := nameStart_of_className? (pure_eq_ok_iff.mp captured)
    exact congrArg Except.ok (not_matchesIn_of_barred rfl (barred_constructorLine mark_eq named) opens)

theorem firstKind?_eq_none {mark : Char} (mark_eq : mark = '*' ∨ mark = '/') (opens : text.opening? = some mark)
    {some_rules : List Rule} (each : some_rules ⊆ rules windows) :
    Grammar.firstKind? doc line text some_rules = .ok none := by
  induction some_rules with
  | nil => rfl
  | cons rule rest ih =>
    obtain ⟨member, rest_each⟩ := List.cons_subset.mp each
    have passes : rule.fires doc line text = .ok false := by
      by_cases constructor : rule.kind = .constructor
      · have surroundings : rule.surroundings = callsEnclosingClass windows := by
          simp only [rules, List.mem_cons, List.not_mem_nil, or_false] at member
          rcases member with rfl | rfl | rfl | rfl | rfl <;> simp_all
        unfold Rule.fires
        split
        · rw [surroundings]
          exact callsEnclosingClass_eq_false mark_eq opens
        · rfl
      · obtain ⟨_, shape, barred⟩ := barred_rules member constructor mark_eq
        simp [Rule.fires, not_matchesIn_of_barred shape barred opens]
    exact bind_eq_ok_iff.mpr ⟨false, passes, ih rest_each⟩

/-- Lines that open like those of a comment declare nothing. -/
theorem kindAt_eq_none (read : doc.line line = .ok text)
    (inert : ∀ c, text.opening? = some c → c = '*' ∨ c = '/') :
    (grammar windows).kindAt doc line = .ok none := by
  have code_eq : (grammar windows).code text = Comment.stripLine text :=
    Grammar.code_of_opening? fun opens => by simpa using inert '@' opens
  refine bind_eq_ok_iff.mpr ⟨Comment.stripLine text, ?_, ?_⟩
  · exact Grammar.declarationText_eq_ok_iff.mpr ⟨text, read, code_eq⟩
  · cases opens : (Comment.stripLine text).opening? with
    | none => simp [Text.opening?_eq_none_iff.mp opens]
    | some mark =>
      split
      · rfl
      · exact firstKind?_eq_none (inert mark (Comment.opening?_of_stripLine opens)) opens (List.Subset.refl _)

end Apex

/-! ## Neither declarations nor annotations -/

namespace Dialect
variable {dialect : Dialect} {windows : Windows} {doc : Document} {line : Int} {text : Text}

theorem kindAt_of_inert (read : doc.line line = .ok text)
    (inert : ∀ c, text.opening? = some c → c = '*' ∨ c = '/') :
    (dialect.grammar windows).kindAt doc line = .ok none := by
  cases dialect with
  | apex => exact Apex.kindAt_eq_none read inert
  | javaScript =>
    refine (JavaScript.kindAt_eq windows doc line).trans ?_
    rw [read]
    exact congrArg Except.ok (JavaScript.kindOf_eq_none inert)

theorem isAnnotationLine_of_other (other : text.opening? ≠ some '@') :
    (dialect.grammar windows).isAnnotationLine text = false := by
  rw [← Bool.not_eq_true]
  exact fun annotation => other (opening?_of_isAnnotationLine annotation)

/-- A line that opens with an asterisk or a slash declares nothing and is no annotation, in whatever class or enum it
stands and whatever stands on the other lines. -/
theorem comment_line_inert (read : doc.line line = .ok text)
    (mark : text.opening? = some '*' ∨ text.opening? = some '/') :
    (dialect.grammar windows).kindAt doc line = .ok none ∧
    (dialect.grammar windows).isAnnotationLine text = false ∧
    (dialect.grammar windows).bareAnnotationAt doc line = .ok false := by
  have inert : ∀ c, text.opening? = some c → c = '*' ∨ c = '/' := by
    intro c opens
    rw [opens] at mark
    exact mark.imp Option.some.inj Option.some.inj
  have other : text.opening? ≠ some '@' := fun opens => by simpa using inert '@' opens
  have unmarked : (dialect.grammar windows).isAnnotationLine text = false := isAnnotationLine_of_other other
  refine ⟨kindAt_of_inert read inert, unmarked, ?_⟩
  refine bind_eq_ok_iff.mpr ⟨text, read, ?_⟩
  rw [unmarked]
  rfl

def halfCommented : Document :=
  ⟨["class Box \x7b".toList, "  /* public Box(Integer size) \x7b */".toList, "  enum Side \x7b".toList,
    "    * LEFT,".toList, "    // @TestVisible RIGHT".toList]⟩

-- A constructor of the class around it and a value of the enum around it, but for the marks in front of them.
theorem comment_line_inert_in_class_and_enum :
    halfCommented.line 1 = .ok "  /* public Box(Integer size) \x7b */".toList ∧
    halfCommented.line 3 = .ok "    * LEFT,".toList ∧
    (apex.grammar {}).kindAt halfCommented 1 = .ok none ∧ (apex.grammar {}).kindAt halfCommented 3 = .ok none := by
  have constructor_read : halfCommented.line 1 = .ok "  /* public Box(Integer size) \x7b */".toList := rfl
  have value_read : halfCommented.line 3 = .ok "    * LEFT,".toList := rfl
  exact ⟨constructor_read, value_read, (comment_line_inert constructor_read (.inr (by decide))).1,
    (comment_line_inert value_read (.inl (by decide))).1⟩

end Dialect

end Docblock
