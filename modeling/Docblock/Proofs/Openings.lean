import Docblock.Pattern.Matching
import Docblock.Proofs.Trimming

/-! What matches take. A match only moves on in the text, what it captures is part of the text, and the
first character that it takes is one of those its pattern can start with. -/

set_option autoImplicit false

namespace Docblock

namespace Cursor

theorem Steps.suffix {accepts : Char → Bool} {first last : Cursor} (steps : Steps accepts first last) :
    last.ahead <:+ first.ahead := by
  induction steps with
  | here cursor => exact List.suffix_refl _
  | onto _ _ ih => exact ih.trans (List.suffix_cons _ _)

theorem Steps.ofAppend {accepts : Char → Bool} (passed : Option Char) {front : Text}
    (accepted : ∀ c ∈ front, accepts c = true) (rest : Text) :
    ∃ later, Steps accepts ⟨passed, front ++ rest⟩ ⟨later, rest⟩ := by
  induction front generalizing passed with
  | nil => exact ⟨passed, .here _⟩
  | cons c more ih =>
    obtain ⟨later, steps⟩ := ih (some c) fun d within => accepted d (List.mem_cons_of_mem c within)
    exact ⟨later, .onto (accepted c List.mem_cons_self) steps⟩

-- Only the place at the very start of a text has no character behind it.
theorem Steps.unmoved {accepts : Char → Bool} {first last : Cursor} (steps : Steps accepts first last)
    (fresh : last.passed = none) : last = first := by
  have passed {first last : Cursor} (steps : Steps accepts first last)
      (moved : first.passed ≠ none) : last.passed ≠ none := by
    induction steps with
    | here cursor => exact moved
    | onto _ _ ih => exact ih (by simp)
  cases steps with
  | here => rfl
  | onto _ rest => exact absurd fresh (passed rest (by simp))

theorem Steps.opening? {first last : Cursor} (steps : Steps isBlank first last) :
    Text.opening? last.ahead = Text.opening? first.ahead := by
  induction steps with
  | here cursor => rfl
  | onto blank _ ih => rw [ih, Text.opening?_cons, if_pos blank]

end Cursor

namespace Pattern

theorem Rounds.suffix {body : Cursor → Cursor → Prop}
    (moves : ∀ {first last : Cursor}, body first last → last.ahead <:+ first.ahead) {first last : Cursor}
    (rounds : Rounds body first last) : last.ahead <:+ first.ahead := by
  induction rounds with
  | done cursor => exact List.suffix_refl _
  | more moved _ _ ih => exact ih.trans (moves moved)

theorem Matches.suffix {pattern : Pattern} {first last : Cursor} (matched : pattern.Matches first last) :
    last.ahead <:+ first.ahead := by
  induction pattern generalizing first last with
  | empty => exact matched ▸ List.suffix_refl _
  | one accepts =>
    obtain ⟨c, rest, ahead, _, rfl⟩ := matched
    rw [ahead]
    exact List.suffix_cons c rest
  | many accepts => exact Cursor.Steps.suffix matched
  | few accepts => exact Cursor.Steps.suffix matched
  | seq left right hl hr =>
    obtain ⟨middle, before, behind⟩ := matched
    exact (hr behind).trans (hl before)
  | alt left right hl hr =>
    cases matched with
    | inl matched => exact hl matched
    | inr matched => exact hr matched
  | star body h => exact Rounds.suffix h matched
  | start | stop | edge | absent => exact matched.2 ▸ List.suffix_refl _

theorem capture_sound {before body after : Pattern} {text found : Text}
    (captured : capture before body after text = some found) :
    ∃ place first last behind, Cursor.Steps (fun _ => true) (Cursor.start text) place ∧
      before.Matches place first ∧ body.Matches first last ∧ after.Matches last behind ∧
      found = first.upTo last := by
  obtain ⟨place, reached, captured⟩ := List.exists_of_findSome?_eq_some captured
  obtain ⟨first, matched_before, captured⟩ := before.adequate.sound captured
  obtain ⟨last, matched_body, captured⟩ := body.adequate.sound captured
  obtain ⟨behind, matched_after, captured⟩ := after.adequate.sound captured
  exact ⟨place, first, last, behind, mem_onward.mp reached, matched_before, matched_body, matched_after,
    (Option.some.inj captured).symm⟩

theorem capture_subset {before body after : Pattern} {text found : Text}
    (captured : capture before body after text = some found) : found ⊆ text := by
  obtain ⟨place, first, last, _, reached, matched, _, _, rfl⟩ := capture_sound captured
  intro c within
  have in_place := matched.suffix.subset (List.take_subset _ _ within)
  exact reached.suffix.subset in_place

/-! ## Literals and choices -/

theorem matches_literal_iff {text ahead : Text} {passed : Option Char} :
    (∃ last, (literal text).Matches ⟨passed, ahead⟩ last) ↔ text <+: ahead := by
  induction text using literal.induct generalizing passed ahead with
  | case1 => exact ⟨fun _ => List.nil_prefix, fun _ => ⟨_, rfl⟩⟩
  | case2 c =>
    constructor
    · rintro ⟨_, d, rest, rfl, same, _⟩
      exact ⟨rest, congrArg (· :: rest) (beq_iff_eq.mp same).symm⟩
    · rintro ⟨rest, rfl⟩
      exact ⟨_, c, rest, rfl, beq_self_eq_true c, rfl⟩
  | case3 c text some_more ih =>
    rw [literal.eq_3 c text some_more]
    constructor
    · rintro ⟨last, _, ⟨d, rest, rfl, same, rfl⟩, more⟩
      exact List.cons_prefix_cons.mpr ⟨(beq_iff_eq.mp same).symm, ih.mp ⟨last, more⟩⟩
    · rintro ⟨rest, rfl⟩
      obtain ⟨last, more⟩ := ih.mpr (List.prefix_append text rest)
      exact ⟨last, _, ⟨c, text ++ rest, rfl, beq_self_eq_true c, rfl⟩, more⟩

theorem matches_oneOf_iff {patterns : List Pattern} {first : Cursor} :
    (∃ last, (oneOf patterns).Matches first last) ↔
      ∃ pattern ∈ patterns, ∃ last, pattern.Matches first last := by
  induction patterns using oneOf.induct with
  | case1 => simp [oneOf, Matches]
  | case2 pattern => simp [oneOf]
  | case3 pattern rest some_more ih =>
    rw [oneOf.eq_3 pattern rest some_more, List.exists_mem_cons_iff, ← ih]
    exact exists_or

/-! ## First characters -/

/-- Whether a match may take no character; true also of some patterns that always take one. -/
def nullable : Pattern → Bool
  | one _ => false
  | seq left right => left.nullable && right.nullable
  | alt left right => left.nullable || right.nullable
  | empty | many _ | few _ | star _ | start | stop | edge | absent _ => true

def firsts : Pattern → Char → Bool
  | one accepts, c | many accepts, c | few accepts, c => accepts c
  | seq left right, c => left.firsts c || left.nullable && right.firsts c
  | alt left right, c => left.firsts c || right.firsts c
  | star body, c => body.firsts c
  | empty, _ | start, _ | stop, _ | edge, _ | absent _, _ => false

/-- A match that takes nothing, or one that takes an accepted character first. -/
def Starts (idle : Bool) (accepts : Char → Bool) (first last : Cursor) : Prop :=
  (idle = true ∧ last = first) ∨ ∃ c rest, first.ahead = c :: rest ∧ accepts c = true

theorem Starts.ofSteps {accepts : Char → Bool} {first last : Cursor}
    (steps : Cursor.Steps accepts first last) : Starts true accepts first last := by
  cases steps with
  | here => exact .inl ⟨rfl, rfl⟩
  | onto accepted _ => exact .inr ⟨_, _, rfl, accepted⟩

theorem Matches.starts {pattern : Pattern} {first last : Cursor} (matched : pattern.Matches first last) :
    Starts pattern.nullable pattern.firsts first last := by
  induction pattern generalizing first last with
  | empty => exact .inl ⟨rfl, matched⟩
  | one accepts =>
    obtain ⟨c, rest, ahead, accepted, _⟩ := matched
    exact .inr ⟨c, rest, ahead, accepted⟩
  | many accepts | few accepts => exact .ofSteps matched
  | seq left right hl hr =>
    obtain ⟨middle, before, behind⟩ := matched
    rcases hl before with ⟨left_idle, rfl⟩ | ⟨c, rest, ahead, accepted⟩
    · rcases hr behind with ⟨right_idle, rfl⟩ | ⟨c, rest, ahead, accepted⟩
      · exact .inl ⟨by simp [nullable, left_idle, right_idle], rfl⟩
      · exact .inr ⟨c, rest, ahead, by simp [firsts, left_idle, accepted]⟩
    · exact .inr ⟨c, rest, ahead, by simp [firsts, accepted]⟩
  | alt left right hl hr =>
    cases matched with
    | inl matched =>
      rcases hl matched with ⟨idle, rfl⟩ | ⟨c, rest, ahead, accepted⟩
      · exact .inl ⟨by simp [nullable, idle], rfl⟩
      · exact .inr ⟨c, rest, ahead, by simp [firsts, accepted]⟩
    | inr matched =>
      rcases hr matched with ⟨idle, rfl⟩ | ⟨c, rest, ahead, accepted⟩
      · exact .inl ⟨by simp [nullable, idle], rfl⟩
      · exact .inr ⟨c, rest, ahead, by simp [firsts, accepted]⟩
  | star body h =>
    cases matched with
    | done => exact .inl ⟨rfl, rfl⟩
    | more moved shorter _ =>
      rcases h moved with ⟨_, rfl⟩ | start
      · exact absurd shorter (Nat.lt_irrefl _)
      · exact .inr start
  | start | stop | edge | absent => exact .inl ⟨rfl, matched.2⟩

theorem matchesIn_nil {pattern : Pattern} (takes : pattern.nullable = false) : pattern.matchesIn [] = false := by
  rw [← Bool.not_eq_true, matchesIn_iff]
  rintro ⟨first, last, reached, matched⟩
  have at_end : first.ahead = [] := List.suffix_nil.mp reached.suffix
  rcases matched.starts with ⟨idle, _⟩ | ⟨c, rest, ahead, _⟩
  · simp [takes] at idle
  · simp [at_end] at ahead

/-! ## Patterns in a row -/

def row : List Pattern → Pattern
  | [] => empty
  | pattern :: rest => seq pattern (row rest)

def flat : Pattern → List Pattern
  | seq left right => left.flat ++ right.flat
  | pattern => [pattern]

theorem matches_row_append {before behind : List Pattern} {first last : Cursor} :
    (row (before ++ behind)).Matches first last ↔
      ∃ middle, (row before).Matches first middle ∧ (row behind).Matches middle last := by
  induction before generalizing first with
  | nil => simp [row, Matches]
  | cons pattern rest ih =>
    simp only [List.cons_append, row, Matches, ih]
    constructor
    · intro matched
      obtain ⟨next, head, middle, tail, behind⟩ := matched
      exact ⟨middle, ⟨next, head, tail⟩, behind⟩
    · intro matched
      obtain ⟨middle, ⟨next, head, tail⟩, behind⟩ := matched
      exact ⟨next, head, middle, tail, behind⟩

theorem matches_row_flat {pattern : Pattern} {first last : Cursor} :
    (row pattern.flat).Matches first last ↔ pattern.Matches first last := by
  induction pattern generalizing first last with
  | seq left right hl hr => simp only [flat, matches_row_append, hl, hr, Matches]
  | _ => simp [flat, row, Matches]

theorem opening?_of_matchesIn {pattern : Pattern} {rest : List Pattern} {text : Text}
    (shape : pattern.flat = start :: blanks :: rest) (takes : (row rest).nullable = false)
    (no_blank : ∀ c, isBlank c = true → (row rest).firsts c = false)
    (matched : pattern.matchesIn text = true) :
    ∃ c, text.opening? = some c ∧ (row rest).firsts c = true := by
  obtain ⟨first, last, reached, matched⟩ := matchesIn_iff.mp matched
  rw [← matches_row_flat, shape] at matched
  obtain ⟨_, ⟨fresh, rfl⟩, middle, blanks, matched⟩ := matched
  obtain rfl := reached.unmoved fresh
  have same_opening : Text.opening? middle.ahead = text.opening? := Cursor.Steps.opening? blanks
  rcases Matches.starts matched with ⟨idle, _⟩ | ⟨c, behind, ahead, accepted⟩
  · simp [takes] at idle
  · have filled : isBlank c = false := by
      cases blank : isBlank c with
      | false => rfl
      | true => simp [no_blank c blank] at accepted
    exact ⟨c, by rw [← same_opening, ahead, Text.opening?_cons]; simp [filled], accepted⟩

end Pattern

end Docblock
