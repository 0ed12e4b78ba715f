import Docblock.Proofs.SearchOrder

/-! A search from another focus. From the line of what it found a search finds the same again; and from further
down it finds nothing further up, unless an annotation run had led the first search down. -/

set_option autoImplicit false

namespace Docblock

theorem Document.clamp_mono (doc : Document) {upper lower : Int} (ordered : upper ≤ lower) :
    doc.clamp upper ≤ doc.clamp lower := by
  unfold clamp
  omega

namespace Search

variable {grammar : Grammar} {doc : Document} {site : Site}

/-! ## From the line that was found -/

/-- Whichever way a site was found, from its own line a search finds it again. -/
theorem locate_again {line : Int} (found : locate grammar doc line = .ok (some site)) :
    locate grammar doc site.line = .ok (some site) := by
  obtain ⟨search, ran, answer⟩ := bind_eq_ok_iff.mp found
  have sound := run_sound ran (pure_eq_ok_iff.mp answer)
  exact locate_declaring sound.1 sound.2

def annotated : Document :=
  ⟨["class Box \x7b".toList, "  @TestVisible".toList, "  total++;".toList, "  @Future void run() \x7b".toList]⟩

-- The annotation leads past the class to the method, which shares its line with an annotation of its own.
theorem locate_again_behind_run :
    locate (Apex.grammar { declaration := 2 }) annotated 1 = .ok (some ⟨.method, 3⟩) ∧
      locate (Apex.grammar { declaration := 2 }) annotated 3 = .ok (some ⟨.method, 3⟩) := by
  have found : locate (Apex.grammar { declaration := 2 }) annotated 1 = .ok (some ⟨.method, 3⟩) := by
    decide
  constructor
  · exact found
  · apply locate_again found

/-! ## From further down -/

/-- What a search finds lies at most a window above the focus, and nothing between it and the focus declares. -/
theorem Chosen.closest {focus first : Int} (chosen : Chosen grammar doc focus first (some site))
    (reached : focus ≤ first) :
    focus - grammar.windows.declaration ≤ site.line ∧
      ∀ line ∈ grammar.declaring doc, (site.line : Int) < line → focus < line := by
  cases chosen with
  | behindRun _ _ least =>
    obtain ⟨⟨_, from_first, to_limit⟩, _⟩ := least
    constructor
    · omega
    · intro line _ below
      omega
  | above _ _ greatest =>
    obtain ⟨⟨_, from_limit, to_focus⟩, greatest⟩ := greatest
    constructor
    · exact from_limit
    · intro line declared below
      by_contra passed
      have nearer : line ≤ site.line := greatest ⟨declared, by omega, by omega⟩
      omega
  | below _ _ _ least =>
    obtain ⟨⟨_, from_focus, to_limit⟩, _⟩ := least
    constructor
    · omega
    · intro line _ below
      omega

theorem nearest_found {focus place : Int} {way : Way}
    (ran : nearest grammar doc focus = .ok (.found place site way)) :
    (site.line : Int) ≤ focus ∨
      ∀ line ∈ grammar.declaring doc, focus - grammar.windows.declaration ≤ line → (site.line : Int) ≤ line := by
  obtain ⟨up, scanned_up, ran⟩ := bind_eq_ok_iff.mp ran
  cases up with
  | some other =>
    obtain ⟨rfl, rfl, rfl⟩ : focus = place ∧ other = site ∧ Way.up = way := by simpa using ran
    obtain ⟨_, ⟨_, _, to_focus⟩, _⟩ := scanUp_greatest scanned_up
    exact .inl to_focus
  | none =>
    obtain ⟨down, scanned_down, ran⟩ := bind_eq_ok_iff.mp ran
    cases down with
    | none => simp at ran
    | some other =>
      obtain ⟨rfl, rfl, rfl⟩ : focus = place ∧ other = site ∧ Way.down = way := by simpa using ran
      obtain ⟨_, ⟨_, _, to_limit⟩, least⟩ := scanDown_least scanned_down
      right
      intro line declared inside
      have below : focus < line := by
        by_contra above
        have nothing_above := scanUp_empty scanned_up
        exact Set.eq_empty_iff_forall_notMem.mp nothing_above line ⟨declared, inside, by omega⟩
      by_cases near : line ≤ focus + grammar.windows.declaration
      · exact least ⟨declared, below, near⟩
      · omega

theorem nearest_of_run {line place : Int} {way : Way} (ran : run grammar doc line = .ok (.found place site way))
    (direct : way ≠ .annotationRun) : nearest grammar doc (doc.clamp line) = .ok (.found place site way) := by
  unfold run at ran
  split at ran
  · simp at ran
  · obtain ⟨touches, _, ran⟩ := bind_eq_ok_iff.mp ran
    cases touches with
    | false => exact ran
    | true =>
      obtain ⟨site?, _, ran⟩ := bind_eq_ok_iff.mp ran
      cases site? with
      | none => exact ran
      | some other =>
        obtain ⟨_, _, led⟩ : doc.clamp line = place ∧ other = site ∧ Way.annotationRun = way := by simpa using ran
        exact absurd led.symm direct

/-- A search from further down finds nothing further up than one that no annotation run led. -/
theorem locate_monotone {upper lower place : Int} {first second : Site} {way : Way} (ordered : upper ≤ lower)
    (ran : run grammar doc upper = .ok (.found place first way)) (direct : way ≠ .annotationRun)
    (found : locate grammar doc lower = .ok (some second)) : first.line ≤ second.line := by
  obtain ⟨search, ran_lower, answer⟩ := bind_eq_ok_iff.mp found
  obtain ⟨stop, least⟩ := exists_isLeast_outside grammar doc (doc.clamp lower)
  have chosen := chosen_of_run least ran_lower
  rw [pure_eq_ok_iff.mp answer] at chosen
  obtain ⟨inside, nothing_between⟩ := chosen.closest least.1.1
  have first_declares := (run_sound ran rfl).1.mem_declaring
  have second_declares := (run_sound ran_lower (pure_eq_ok_iff.mp answer)).1.mem_declaring
  have foci := doc.clamp_mono ordered
  by_contra passed
  rcases nearest_found (nearest_of_run ran direct) with above | nothing_before
  · -- The first site would stand between the second and the lower focus.
    have below := nothing_between first.line first_declares (by omega)
    omega
  · -- The second site would stand between the window of the upper focus and the first.
    have before := nothing_before second.line second_declares (by omega)
    omega

def sparse : Document :=
  ⟨["class Box \x7b".toList, "  total++;".toList, "  total--;".toList, "  void run() \x7b".toList]⟩

-- One line further down the class is out of the window, and the method comes into it.
theorem locate_monotone_past_window :
    run (Apex.grammar { declaration := 1 }) sparse 1 = .ok (.found 1 ⟨.type, 0⟩ .up) ∧
      locate (Apex.grammar { declaration := 1 }) sparse 2 = .ok (some ⟨.method, 3⟩) ∧ 0 ≤ 3 := by
  have ran : run (Apex.grammar { declaration := 1 }) sparse 1 = .ok (.found 1 ⟨.type, 0⟩ .up) := by
    decide
  have found : locate (Apex.grammar { declaration := 1 }) sparse 2 = .ok (some ⟨.method, 3⟩) := by
    decide
  exact ⟨ran, found, locate_monotone (by decide) ran (by decide) found⟩

-- From below an annotation that leads to a method further down, a search goes back to the class above it.
example :
    run (Apex.grammar { declaration := 2 }) annotated 1 = .ok (.found 1 ⟨.method, 3⟩ .annotationRun) ∧
      locate (Apex.grammar { declaration := 2 }) annotated 2 = .ok (some ⟨.type, 0⟩) := by
  decide

end Search

end Docblock
