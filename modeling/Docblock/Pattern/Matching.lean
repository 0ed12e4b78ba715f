import Docblock.Pattern

/-! What patterns match, as a relation between the place where a match starts and the place where it ends.
The order of choices plays no part in it. A run finds an answer exactly if a match leads to one. -/

set_option autoImplicit false

namespace Docblock

inductive Cursor.Steps (accepts : Char → Bool) : Cursor → Cursor → Prop where
  | here (cursor : Cursor) : Steps accepts cursor cursor
  | onto {passed : Option Char} {c : Char} {rest : Text} {last : Cursor} :
      accepts c = true → Steps accepts ⟨some c, rest⟩ last → Steps accepts ⟨passed, c :: rest⟩ last

namespace Pattern

inductive Rounds (body : Cursor → Cursor → Prop) : Cursor → Cursor → Prop where
  | done (cursor : Cursor) : Rounds body cursor cursor
  | more {first next last : Cursor} :
      body first next → next.ahead.length < first.ahead.length → Rounds body next last →
        Rounds body first last

/-- The pattern can match from `first` to `last`. -/
def Matches : Pattern → Cursor → Cursor → Prop
  | empty, first, last => last = first
  | one accepts, first, last =>
    ∃ c rest, first.ahead = c :: rest ∧ accepts c = true ∧ last = ⟨some c, rest⟩
  | many accepts, first, last => Cursor.Steps accepts first last
  | few accepts, first, last => Cursor.Steps accepts first last
  | seq left right, first, last => ∃ middle, left.Matches first middle ∧ right.Matches middle last
  | alt left right, first, last => left.Matches first last ∨ right.Matches first last
  | star body, first, last => Rounds body.Matches first last
  | start, first, last => first.passed = none ∧ last = first
  | stop, first, last => first.atStop = true ∧ last = first
  | edge, first, last => first.atEdge = true ∧ last = first
  | absent body, first, last => (¬ ∃ place, body.Matches first place) ∧ last = first

theorem mem_farthestFirst {accepts : Char → Bool} {passed : Option Char} {text : Text}
    {nearer : List Cursor} {place : Cursor} :
    place ∈ Cursor.farthestFirst accepts passed text nearer ↔
      place ∈ nearer ∨ Cursor.Steps accepts ⟨passed, text⟩ place := by
  induction text generalizing passed nearer with
  | nil =>
    simp only [Cursor.farthestFirst, List.mem_cons]
    constructor
    · rintro (rfl | near)
      · exact .inr (.here _)
      · exact .inl near
    · rintro (near | steps)
      · exact .inr near
      · cases steps; exact .inl rfl
  | cons c rest ih =>
    rw [Cursor.farthestFirst]
    split
    · next accepted =>
      rw [ih, List.mem_cons]
      constructor
      · rintro ((rfl | near) | steps)
        · exact .inr (.here _)
        · exact .inl near
        · exact .inr (.onto accepted steps)
      · rintro (near | steps)
        · exact .inl (.inr near)
        · cases steps with
          | here => exact .inl (.inl rfl)
          | onto _ steps => exact .inr steps
    · next refused =>
      rw [List.mem_cons]
      constructor
      · rintro (rfl | near)
        · exact .inr (.here _)
        · exact .inl near
      · rintro (near | steps)
        · exact .inr near
        · cases steps with
          | here => exact .inl rfl
          | onto accepted => exact absurd accepted refused

theorem mem_onward {passed : Option Char} {text : Text} {place : Cursor} :
    place ∈ Cursor.onward passed text ↔ Cursor.Steps (fun _ => true) ⟨passed, text⟩ place := by
  induction text generalizing passed with
  | nil =>
    simp only [Cursor.onward, List.mem_singleton]
    constructor
    · rintro rfl; exact .here _
    · intro steps; cases steps; rfl
  | cons c rest ih =>
    rw [Cursor.onward, List.mem_cons, ih]
    constructor
    · rintro (rfl | steps)
      · exact .here _
      · exact .onto rfl steps
    · intro steps
      cases steps with
      | here => exact .inl rfl
      | onto _ steps => exact .inr steps

/-- What a run answers is what `next` answers at the end of a match, and each match at whose end there
is an answer leads to some answer. -/
structure Adequate (pattern : Pattern) : Prop where
  sound : ∀ {β : Type} {next : Cursor → Option β} {first : Cursor} {value : β},
    pattern.run next first = some value → ∃ last, pattern.Matches first last ∧ next last = some value
  complete : ∀ {β : Type} {next : Cursor → Option β} {first last : Cursor},
    pattern.Matches first last → (next last).isSome → (pattern.run next first).isSome

-- A pattern that takes no character and only looks at the place.
theorem Adequate.ofTest {pattern : Pattern} (test : Cursor → Bool)
    (run_eq : ∀ {β : Type} (next : Cursor → Option β) (first : Cursor),
      pattern.run next first = if test first then next first else none)
    (matches_iff : ∀ first last, pattern.Matches first last ↔ test first = true ∧ last = first) :
    Adequate pattern where
  sound {_ next first _} h := by
    rw [run_eq] at h
    split at h
    · next holds => exact ⟨first, (matches_iff _ _).mpr ⟨holds, rfl⟩, h⟩
    · simp at h
  complete {_ next first last} h answer := by
    obtain ⟨holds, rfl⟩ := (matches_iff _ _).mp h
    rw [run_eq, if_pos holds]
    exact answer

-- A pattern that asks at the places of a list.
theorem Adequate.ofPlaces {pattern : Pattern} (places : Cursor → List Cursor)
    (run_eq : ∀ {β : Type} (next : Cursor → Option β) (first : Cursor),
      pattern.run next first = (places first).findSome? next)
    (matches_iff : ∀ first last, pattern.Matches first last ↔ last ∈ places first) :
    Adequate pattern where
  sound {_ next first _} h := by
    rw [run_eq] at h
    obtain ⟨last, member, answer⟩ := List.exists_of_findSome?_eq_some h
    exact ⟨last, (matches_iff _ _).mpr member, answer⟩
  complete {_ next first last} h answer := by
    rw [run_eq, List.findSome?_isSome_iff]
    exact ⟨last, (matches_iff _ _).mp h, answer⟩

theorem adequate_one (accepts : Char → Bool) : Adequate (one accepts) where
  sound {_ next first _} h := by
    rw [run] at h
    split at h
    · simp at h
    · next c rest ahead =>
      split at h
      · next accepted => exact ⟨_, ⟨c, rest, ahead, accepted, rfl⟩, h⟩
      · simp at h
  complete {_ next first last} h answer := by
    obtain ⟨c, rest, ahead, accepted, rfl⟩ := h
    simpa [run, ahead, accepted] using answer

theorem adequate_seq {left right : Pattern} (hl : Adequate left) (hr : Adequate right) :
    Adequate (seq left right) where
  sound h := by
    obtain ⟨middle, before, h⟩ := hl.sound h
    obtain ⟨last, behind, answer⟩ := hr.sound h
    exact ⟨last, ⟨middle, before, behind⟩, answer⟩
  complete h answer := by
    obtain ⟨middle, before, behind⟩ := h
    exact hl.complete before (hr.complete behind answer)

theorem adequate_alt {left right : Pattern} (hl : Adequate left) (hr : Adequate right) :
    Adequate (alt left right) where
  sound {_ next first value} h := by
    rw [run] at h
    cases found : left.run next first with
    | some other =>
      obtain ⟨last, matched, answer⟩ := hl.sound found
      exact ⟨last, .inl matched, by simpa [found, answer] using h⟩
    | none =>
      obtain ⟨last, matched, answer⟩ := hr.sound (by simpa [found] using h)
      exact ⟨last, .inr matched, answer⟩
  complete {_ next first last} h answer := by
    rw [run]
    cases found : left.run next first with
    | some other => simp
    | none =>
      rcases h with matched | matched
      · simpa [found] using hl.complete matched answer
      · simpa using hr.complete matched answer

-- Rounds that are tried lead to no answer that rounds of matches do not lead to.
theorem Adequate.rounds_sound {body : Pattern} (h : Adequate body) {β : Type} {next : Cursor → Option β}
    {fuel : Nat} {first : Cursor} {value : β} (found : rounds body.run next fuel first = some value) :
    ∃ last, Rounds body.Matches first last ∧ next last = some value := by
  induction fuel generalizing first value with
  | zero => exact ⟨first, .done first, found⟩
  | succ fuel ih =>
    rw [rounds] at found
    generalize moved : body.run _ first = answer at found
    cases answer with
    | some other =>
      obtain ⟨middle, matched, moved⟩ := h.sound moved
      split at moved
      · next shorter =>
        obtain ⟨last, path, answer⟩ := ih moved
        exact ⟨last, .more matched shorter path, by simpa [answer] using found⟩
      · simp at moved
    | none => exact ⟨first, .done first, by simpa using found⟩

-- Rounds are tried often enough: when the text is used up, no round is possible any more.
theorem Adequate.rounds_complete {body : Pattern} (h : Adequate body) {β : Type}
    {next : Cursor → Option β} {fuel : Nat} {first last : Cursor}
    (enough : first.ahead.length ≤ fuel) (path : Rounds body.Matches first last)
    (answer : (next last).isSome) : (rounds body.run next fuel first).isSome := by
  induction path generalizing fuel with
  | done cursor =>
    cases fuel with
    | zero => exact answer
    | succ fuel => simp [rounds, answer]
  | @more first middle last moved shorter _ ih =>
    cases fuel with
    | zero => omega
    | succ fuel =>
      have found : (body.run (fun later =>
          if later.ahead.length < first.ahead.length then rounds body.run next fuel later else none)
          first).isSome :=
        h.complete moved (by rw [if_pos shorter]; exact ih (by omega) answer)
      simp [rounds, found]

theorem adequate_star {body : Pattern} (h : Adequate body) : Adequate (star body) where
  sound found := h.rounds_sound found
  complete path answer := h.rounds_complete (Nat.le_refl _) path answer

theorem adequate_absent {body : Pattern} (h : Adequate body) : Adequate (absent body) := by
  refine .ofTest (fun first => (body.run some first).isNone) (fun _ _ => rfl) fun first last => ?_
  have none_iff : (body.run some first).isNone = true ↔ ¬ ∃ place, body.Matches first place := by
    rw [← Option.not_isSome, Bool.not_eq_true', ← Bool.not_eq_true]
    refine not_congr ⟨fun found => ?_, fun ⟨place, matched⟩ => h.complete matched rfl⟩
    obtain ⟨place, found⟩ := Option.isSome_iff_exists.mp found
    obtain ⟨last, matched, _⟩ := h.sound found
    exact ⟨last, matched⟩
  rw [none_iff]
  rfl

theorem adequate (pattern : Pattern) : Adequate pattern := by
  induction pattern with
  | empty => exact .ofTest (fun _ => true) (fun _ _ => rfl) fun _ _ => by simp [Matches]
  | one accepts => exact adequate_one accepts
  | many accepts =>
    exact .ofPlaces (fun first => Cursor.farthestFirst accepts first.passed first.ahead [])
      (fun _ _ => rfl) fun _ _ => by simp [Matches, mem_farthestFirst]
  | few accepts =>
    exact .ofPlaces (fun first => (Cursor.farthestFirst accepts first.passed first.ahead []).reverse)
      (fun _ _ => rfl) fun _ _ => by simp [Matches, mem_farthestFirst]
  | seq left right hl hr => exact adequate_seq hl hr
  | alt left right hl hr => exact adequate_alt hl hr
  | star body h => exact adequate_star h
  | start =>
    exact .ofTest (fun first => first.passed.isNone) (fun _ _ => rfl) fun _ _ => by simp [Matches]
  | stop => exact .ofTest Cursor.atStop (fun _ _ => rfl) fun _ _ => Iff.rfl
  | edge => exact .ofTest Cursor.atEdge (fun _ _ => rfl) fun _ _ => Iff.rfl
  | absent body h => exact adequate_absent h

theorem run_isSome_iff {pattern : Pattern} {β : Type} {next : Cursor → Option β} {first : Cursor} :
    (pattern.run next first).isSome ↔ ∃ last, pattern.Matches first last ∧ (next last).isSome := by
  constructor
  · intro found
    obtain ⟨value, found⟩ := Option.isSome_iff_exists.mp found
    obtain ⟨last, matched, answer⟩ := pattern.adequate.sound found
    exact ⟨last, matched, by simp [answer]⟩
  · rintro ⟨last, matched, answer⟩
    exact pattern.adequate.complete matched answer

theorem matchesAt_iff {pattern : Pattern} {text : Text} :
    pattern.matchesAt text ↔ ∃ last, pattern.Matches (Cursor.start text) last := by
  simp [matchesAt, run_isSome_iff]

theorem matchesIn_iff {pattern : Pattern} {text : Text} :
    pattern.matchesIn text ↔ ∃ first last,
      Cursor.Steps (fun _ => true) (Cursor.start text) first ∧ pattern.Matches first last := by
  simp [matchesIn, find, List.findSome?_isSome_iff, mem_onward, run_isSome_iff, Cursor.start]

end Pattern

end Docblock
