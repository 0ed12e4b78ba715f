import Docblock.Grammar.Apex
import Mathlib

/-! Texts with their latin capitals turned into small letters. Patterns that ignore case cannot tell such a text
from what it was before: they match in the same places and capture the same, but for the case of its letters. -/

set_option autoImplicit false

namespace Docblock

def capitals : Text := (List.range' 65 26).map Char.ofNat

theorem mem_capitals {c : Char} (upper : c.isUpper = true) : c ∈ capitals := by
  have bounds : 65 ≤ c.toNat ∧ c.toNat ≤ 90 := by
    simpa [Char.isUpper, UInt32.le_iff_toNat_le] using upper
  have codes : c.toNat ∈ List.range' 65 26 := List.mem_range'_1.mpr ⟨bounds.1, by omega⟩
  exact List.mem_map.mpr ⟨c.toNat, codes, Char.ofNat_toNat c⟩

/-- What is told of a character takes no notice of the case of latin letters. -/
def Caseless {α : Type} (view : Char → α) : Prop :=
  ∀ c, view c.toLower = view c

namespace Caseless
variable {α : Type} {view : Char → α}

theorem of_capitals [BEq α] [LawfulBEq α] (each : (capitals.all fun c => view c.toLower == view c) = true) :
    Caseless view := by
  intro c
  by_cases upper : c.isUpper = true
  · exact beq_iff_eq.mp (List.all_eq_true.mp each c (mem_capitals upper))
  · rw [Char.toLower_eq_of_not_isUpper upper]

theorem congr (caseless : Caseless view) {c d : Char} (same : c.toLower = d.toLower) : view c = view d := by
  rw [← caseless c, same, caseless d]

theorem comp_toLower (caseless : Caseless view) : view ∘ Char.toLower = view :=
  funext caseless

end Caseless

theorem caseless_beq {mark : Char} (no_letter : mark.isAlpha = false) : Caseless fun c => c == mark := by
  intro c
  have other (d : Char) (letter : d.isAlpha = true) : (d == mark) = false := by
    rw [beq_eq_false_iff_ne]
    rintro rfl
    simp [no_letter] at letter
  by_cases upper : c.isUpper = true
  · have letter : c.isAlpha = true := by simp [Char.isAlpha, upper]
    exact (other c.toLower (by simpa using letter)).trans (other c letter).symm
  · rw [Char.toLower_eq_of_not_isUpper upper]

theorem caseless_isWord : Caseless isWord := .of_capitals (by decide)

theorem caseless_isBlank : Caseless isBlank := .of_capitals (by decide)

theorem caseless_letterKey : Caseless letterKey := .of_capitals (by decide)

theorem caseless_sameLetter : Caseless sameLetter := by
  intro c
  funext d
  simp only [sameLetter, caseless_letterKey c]

namespace Text

def fold (text : Text) : Text := text.map Char.toLower

@[simp] theorem fold_nil : fold [] = [] := rfl

@[simp] theorem fold_cons (c : Char) (rest : Text) : fold (c :: rest) = c.toLower :: fold rest := rfl

@[simp] theorem length_fold (text : Text) : text.fold.length = text.length := List.length_map _

theorem blank_fold (text : Text) : text.fold.blank = text.blank := by
  rw [blank, fold, List.all_map, caseless_isBlank.comp_toLower]
  rfl

end Text

/-! ## Places in a folded text -/

namespace Cursor

def fold (cursor : Cursor) : Cursor := ⟨cursor.passed.map Char.toLower, cursor.ahead.fold⟩

theorem atStop_fold (cursor : Cursor) : cursor.fold.atStop = cursor.atStop := by
  obtain ⟨passed, ahead⟩ := cursor
  have feed (c : Char) : (c.toLower == '\n') = (c == '\n') := caseless_beq (by decide) c
  match ahead with
  | [] => rfl
  | [c] =>
    show (false || [c.toLower] == ['\n']) = (false || [c] == ['\n'])
    simp only [List.cons_beq_cons, feed]
  | c :: d :: rest => simp [atStop, fold]

theorem atEdge_fold (cursor : Cursor) : cursor.fold.atEdge = cursor.atEdge := by
  have any_word (found : Option Char) : (found.map Char.toLower).any isWord = found.any isWord := by
    cases found <;> simp [caseless_isWord _]
  simp only [atEdge, fold, Text.fold, List.head?_map, any_word]

theorem onward_fold (passed : Option Char) (text : Text) :
    onward (passed.map Char.toLower) text.fold = (onward passed text).map fold := by
  induction text generalizing passed with
  | nil => rfl
  | cons c rest ih => exact congrArg (_ :: ·) (ih (some c))

theorem farthestFirst_fold {accepts : Char → Bool} (caseless : Caseless accepts) (passed : Option Char) (text : Text)
    (nearer : List Cursor) :
    farthestFirst accepts (passed.map Char.toLower) text.fold (nearer.map fold) =
      (farthestFirst accepts passed text nearer).map fold := by
  induction text generalizing passed nearer with
  | nil => rfl
  | cons c rest ih =>
    rw [Text.fold_cons, farthestFirst, farthestFirst, caseless c]
    split
    · exact ih (some c) (⟨passed, c :: rest⟩ :: nearer)
    · rfl

theorem upTo_fold (cursor later : Cursor) : cursor.fold.upTo later.fold = (cursor.upTo later).fold := by
  simp only [upTo, fold, Text.length_fold]
  exact List.map_take.symm

end Cursor

/-! ## Patterns -/

namespace Pattern

/-- Whether all that the pattern accepts is accepted in either case. -/
def ignoresCase : Pattern → Bool
  | one accepts | many accepts | few accepts => capitals.all fun c => accepts c.toLower == accepts c
  | seq left right | alt left right => left.ignoresCase && right.ignoresCase
  | star body | absent body => body.ignoresCase
  | empty | start | stop | edge => true

variable {β γ : Type} {pattern : Pattern}

theorem rounds_fold {step : (Cursor → Option β) → Cursor → Option β}
    (step_fold : ∀ next cursor, step next cursor.fold = step (fun later => next later.fold) cursor)
    (next : Cursor → Option β) (fuel : Nat) (cursor : Cursor) :
    rounds step next fuel cursor.fold = rounds step (fun later => next later.fold) fuel cursor := by
  induction fuel generalizing cursor with
  | zero => rfl
  | succ fuel ih =>
    have shorter (later : Cursor) :
        later.fold.ahead.length < cursor.fold.ahead.length ↔ later.ahead.length < cursor.ahead.length := by
      simp [Cursor.fold]
    simp only [rounds, step_fold, shorter, ih]

theorem rounds_map {step : (Cursor → Option β) → Cursor → Option β} {step_too : (Cursor → Option γ) → Cursor → Option γ}
    {view : β → γ} (step_map : ∀ next cursor, step_too (fun later => (next later).map view) cursor = (step next cursor).map view)
    (next : Cursor → Option β) (fuel : Nat) (cursor : Cursor) :
    rounds step_too (fun later => (next later).map view) fuel cursor = (rounds step next fuel cursor).map view := by
  induction fuel generalizing cursor with
  | zero => rfl
  | succ fuel ih =>
    have onward := step_map (fun later =>
      if later.ahead.length < cursor.ahead.length then rounds step next fuel later else none) cursor
    simp only [apply_ite (Option.map view), Option.map_none, ← ih] at onward
    rw [rounds, rounds, onward]
    cases step _ cursor <;> rfl

/-- The answer behind a match is made something else of after the match as well as before. -/
theorem run_map (pattern : Pattern) (view : β → γ) (next : Cursor → Option β) (cursor : Cursor) :
    pattern.run (fun later => (next later).map view) cursor = (pattern.run next cursor).map view := by
  induction pattern generalizing next cursor with
  | empty => rfl
  | one accepts =>
    simp only [run]
    split
    · rfl
    · split <;> rfl
  | many accepts | few accepts =>
    simp only [run]
    rw [List.map_findSome?]
    rfl
  | seq left right hl hr =>
    have behind : (right.run fun later => (next later).map view) = fun later => (right.run next later).map view :=
      funext (hr next)
    simp only [run, behind]
    exact hl _ cursor
  | alt left right hl hr =>
    simp only [run, hl, hr]
    cases left.run next cursor <;> rfl
  | star body ih => exact rounds_map ih next cursor.ahead.length cursor
  | start | stop | edge | absent =>
    simp only [run]
    split <;> rfl

/-- A pattern that ignores case matches as before at a folded place, whatever comes behind the match. -/
theorem run_fold (ignores : pattern.ignoresCase = true) (next : Cursor → Option β) (cursor : Cursor) :
    pattern.run next cursor.fold = pattern.run (fun later => next later.fold) cursor := by
  induction pattern generalizing β cursor with
  | empty => rfl
  | one accepts =>
    obtain ⟨passed, ahead⟩ := cursor
    cases ahead with
    | nil => rfl
    | cons c rest => simp [run, Cursor.fold, Caseless.of_capitals ignores c]
  | many accepts =>
    have places := Cursor.farthestFirst_fold (Caseless.of_capitals ignores) cursor.passed cursor.ahead []
    exact (congrArg (List.findSome? next) places).trans List.findSome?_map
  | few accepts =>
    have places := Cursor.farthestFirst_fold (Caseless.of_capitals ignores) cursor.passed cursor.ahead []
    have nearest_first := (congrArg List.reverse places).trans List.map_reverse.symm
    exact (congrArg (List.findSome? next) nearest_first).trans List.findSome?_map
  | seq left right hl hr =>
    obtain ⟨left_ignores, right_ignores⟩ := Bool.and_eq_true_iff.mp ignores
    simp only [run]
    rw [hl left_ignores]
    exact congrArg (left.run · cursor) (funext fun later => hr right_ignores next later)
  | alt left right hl hr =>
    obtain ⟨left_ignores, right_ignores⟩ := Bool.and_eq_true_iff.mp ignores
    simp only [run, hl left_ignores, hr right_ignores]
  | star body ih =>
    simp only [run, Cursor.fold, Text.length_fold]
    exact rounds_fold (ih ignores) next cursor.ahead.length cursor
  | start => simp [run, Cursor.fold]
  | stop => simp only [run, Cursor.atStop_fold]
  | edge => simp only [run, Cursor.atEdge_fold]
  | absent body ih =>
    have inner : (body.run some cursor.fold).isNone = (body.run some cursor).isNone := by
      rw [ih ignores]
      exact (congrArg Option.isNone (body.run_map Cursor.fold some cursor)).trans Option.isNone_map
    simp only [run, inner]

theorem find_fold (ignores : pattern.ignoresCase = true) (next : Cursor → Option β) (text : Text) :
    pattern.find next text.fold = pattern.find (fun later => next later.fold) text := by
  have places := Cursor.onward_fold none text
  refine (congrArg (List.findSome? (pattern.run next)) places).trans (List.findSome?_map.trans ?_)
  exact congrArg (List.findSome? · (Cursor.onward none text)) (funext (run_fold ignores next))

theorem matchesIn_fold (ignores : pattern.ignoresCase = true) (text : Text) :
    pattern.matchesIn text.fold = pattern.matchesIn text := by
  have found : pattern.find some text.fold = (pattern.find some text).map Cursor.fold := by
    rw [find_fold ignores, find, find, List.map_findSome?]
    exact congrArg (List.findSome? · _) (funext fun cursor => pattern.run_map Cursor.fold some cursor)
  rw [matchesIn, found, Option.isSome_map]
  rfl

theorem capture_fold {before body after : Pattern} (before_ignores : before.ignoresCase = true)
    (body_ignores : body.ignoresCase = true) (after_ignores : after.ignoresCase = true) (text : Text) :
    capture before body after text.fold = (capture before body after text).map Text.fold := by
  simp only [capture, find_fold before_ignores, run_fold body_ignores, run_fold after_ignores, Cursor.upTo_fold]
  rw [find, find, List.map_findSome?]
  refine congrArg (List.findSome? · _) (funext fun cursor => ?_)
  rw [Function.comp_apply, ← run_map]
  simp only [← run_map, Option.map_some]

/-! ## Names in either case -/

theorem anyCase_fold (name : Text) : anyCase name.fold = anyCase name := by
  induction name using anyCase.induct with
  | case1 => rfl
  | case2 c => exact congrArg one (caseless_sameLetter c)
  | case3 c rest some_more ih =>
    rw [anyCase.eq_3 c rest some_more, Text.fold_cons, anyCase.eq_3 _ _ (by simpa [Text.fold] using some_more), ih,
      caseless_sameLetter c]

theorem ignoresCase_anyCase (name : Text) : (anyCase name).ignoresCase = true := by
  have one_letter (c : Char) : (one (sameLetter c)).ignoresCase = true := by
    refine List.all_eq_true.mpr fun d _ => beq_iff_eq.mpr ?_
    rw [sameLetter_comm, caseless_sameLetter d, sameLetter_comm]
  induction name using anyCase.induct with
  | case1 => rfl
  | case2 c => exact one_letter c
  | case3 c rest some_more ih =>
    rw [anyCase.eq_3 c rest some_more]
    exact Bool.and_eq_true_iff.mpr ⟨one_letter c, ih⟩

end Pattern

end Docblock
