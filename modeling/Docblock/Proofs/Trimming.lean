import Docblock.Text.Blank
import Mathlib.Data.List.DropRight
import Mathlib.Data.List.TakeWhile

/-! Trimming. What a text opens with is its first character that is no blank, and trimming keeps it. -/

set_option autoImplicit false

namespace Docblock

def blankChars : List Char :=
  [9, 10, 11, 12, 13, 28, 29, 30, 31, 32, 0x85, 0xA0, 0x1680, 0x2000, 0x2001, 0x2002, 0x2003, 0x2004,
   0x2005, 0x2006, 0x2007, 0x2008, 0x2009, 0x200A, 0x2028, 0x2029, 0x202F, 0x205F, 0x3000].map Char.ofNat

theorem mem_blankChars {c : Char} (blank : isBlank c = true) : c ∈ blankChars := by
  refine List.mem_map.mpr ⟨c.toNat, ?_, Char.ofNat_toNat c⟩
  simp only [isBlank, Bool.or_eq_true, Bool.and_eq_true, decide_eq_true_eq, beq_iff_eq] at blank
  simp only [List.mem_cons, List.not_mem_nil]
  omega

namespace Text

/-- The first character that is no blank. -/
def opening? (text : Text) : Option Char := text.trimLeft.head?

@[simp] theorem opening?_nil : opening? [] = none := rfl

theorem opening?_cons (c : Char) (rest : Text) :
    opening? (c :: rest) = if isBlank c then opening? rest else some c := by
  unfold opening? trimLeft
  rw [List.dropWhile_cons]
  split <;> rfl

theorem opening?_append {front : Text} {c : Char} (opens : front.opening? = some c) (rest : Text) :
    Text.opening? (front ++ rest) = some c := by
  induction front with
  | nil => simp at opens
  | cons d more ih =>
    rw [opening?_cons] at opens
    rw [List.cons_append, opening?_cons]
    split at opens
    · next blank => rw [if_pos blank, ih opens]
    · next filled => rw [if_neg filled, opens]

theorem opening?_eq_none_iff {text : Text} : text.opening? = none ↔ text.blank = true := by
  rw [opening?, trimLeft, List.head?_eq_none_iff, List.dropWhile_eq_nil_iff, blank, List.all_eq_true]

theorem blank_eq_false_of_opening? {text : Text} {c : Char} (opens : text.opening? = some c) : text.blank = false := by
  rw [← Bool.not_eq_true, ← opening?_eq_none_iff, opens]
  simp

theorem not_isBlank_of_opening? {text : Text} {c : Char} (opens : text.opening? = some c) :
    isBlank c = false := by
  have refused := List.head?_dropWhile_not isBlank text
  rw [opening?, trimLeft] at opens
  simpa [opens] using refused

theorem trimRight_cons {c : Char} (rest : Text) (filled : isBlank c = false) :
    trimRight (c :: rest) = c :: trimRight rest := by
  simp only [trimRight, List.reverse_cons, List.dropWhile_append]
  split
  · next all_blank => simp_all
  · simp

theorem head?_trim (text : Text) : text.trim.head? = text.opening? := by
  cases cut : text.trimLeft with
  | nil => simp [trim, opening?, cut, trimRight]
  | cons c rest =>
    have opens : text.opening? = some c := by simp [opening?, cut]
    rw [trim, cut, trimRight_cons rest (not_isBlank_of_opening? opens), opens, List.head?_cons]

theorem isEmpty_trim (text : Text) : text.trim.isEmpty = text.blank := by
  rw [Bool.eq_iff_iff, ← opening?_eq_none_iff, ← head?_trim, List.head?_eq_none_iff, List.isEmpty_iff]

theorem filled_trim (texts : List Text) :
    (texts.map trim).filter (!·.isEmpty) = (texts.filter (!·.blank)).map trim := by
  rw [List.filter_map]
  congr 2
  funext text
  exact congrArg not (isEmpty_trim text)

theorem trimRight_eq_self {text : Text} (last : ∀ c, text.getLast? = some c → isBlank c = false) :
    text.trimRight = text := by
  unfold trimRight
  cases cut : text.reverse with
  | nil => exact (List.reverse_eq_nil_iff.mp cut).symm
  | cons c rest =>
    have filled : isBlank c = false := last c (by simp [List.getLast?_eq_head?_reverse, cut])
    rw [List.dropWhile_cons, filled, if_neg (by simp), ← cut, List.reverse_reverse]

theorem trim_subset (text : Text) : text.trim ⊆ text := by
  intro c within
  have in_reverse := (List.dropWhile_suffix _).subset (List.mem_reverse.mp within)
  exact (List.dropWhile_suffix _).subset (List.mem_reverse.mp in_reverse)

theorem lastWord_trimRight (text : Text) : text.trimRight.lastWord = text.lastWord := by
  simp only [lastWord, trimRight, List.reverse_reverse, List.dropWhile_idempotent]

theorem lastWord_append {front : Text} (blank : ∀ c ∈ front, isBlank c = true) (text : Text) :
    lastWord (front ++ text) = lastWord text := by
  have blank_reverse : ∀ c ∈ front.reverse, isBlank c = true := by simpa using blank
  have dropped : front.reverse.dropWhile isBlank = [] := List.dropWhile_eq_nil_iff.mpr blank_reverse
  have no_word : front.reverse.takeWhile (fun c => !isBlank c) = [] := by
    cases cut : front.reverse with
    | nil => rfl
    | cons c rest => simp [blank_reverse c (by simp [cut])]
  unfold lastWord
  rw [List.reverse_append, List.dropWhile_append, dropped]
  split
  · next none => rw [List.isEmpty_iff.mp none]
  · -- The word ends in the text itself, or else at its front.
    rw [List.takeWhile_append, no_word, List.append_nil]
    split
    · next whole => rw [(List.takeWhile_prefix _).eq_of_length whole]
    · rfl

theorem lastWord_trim (text : Text) : text.trim.lastWord = text.lastWord := by
  have front_blank : ∀ c ∈ text.takeWhile isBlank, isBlank c = true := fun c => List.mem_takeWhile_imp
  rw [trim, lastWord_trimRight, ← lastWord_append front_blank (trimLeft text), trimLeft,
    List.takeWhile_append_dropWhile]

end Text

end Docblock
